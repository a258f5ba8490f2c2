import Mathlib.Algebra.Order.BigOperators.Group.List
import Mathlib.Algebra.Order.Ring.Nat
import Mathlib.Data.Set.Finite.Basic
import CheckedBuild.Proofs.Embedding.DepthFirst

/-!
# When a search ends

Every turn takes one name off the stack, and names are put there for the sources and for what each
file found includes, whether or not they were visited before. So the turns taken and the names left
are together the names that were put there. No file is found twice: if only finitely many can be
reached, only finitely many names are ever put on the stack, and the search ends when it has taken
them all off. If it ends, all files that can be reached have been found, so they are finitely many.

Files may include themselves and each other, and they may include longer and longer spellings of
their own names, of which only finitely many lead to a file.
-/

namespace CheckedBuild.Discovery

variable {files : Files} {sources : List String}

/-! ## Counting turns -/

/-- The state to which a search has come after so many turns. There is none if no name was left
before. -/
def stateAfter (files : Files) (state : State) : Nat → Option State
  | 0 => some state
  | turns + 1 => (stateAfter files state turns).bind (turn files)

theorem stateAfter_succ_eq_some_iff {state later : State} {turns : Nat} :
    stateAfter files state (turns + 1) = some later
      ↔ ∃ before, stateAfter files state turns = some before ∧ Turn files before later := by
  simp only [stateAfter, Option.bind_eq_some_iff, turn_eq_some_iff]

theorem reaches_of_stateAfter {state later : State} {turns : Nat}
    (come : stateAfter files state turns = some later) : Reaches files state later := by
  induction turns generalizing later with
  | zero =>
    obtain rfl : state = later := Option.some.inj come
    exact .refl
  | succ turns ih =>
    obtain ⟨before, come, taken⟩ := stateAfter_succ_eq_some_iff.mp come
    exact .tail (ih come) taken

/-- After the last turn there is no state. -/
theorem stateAfter_eq_none_of_lt {state last : State} {turns later : Nat}
    (come : stateAfter files state turns = some last) (done : last.pending = [])
    (more : turns < later) : stateAfter files state later = none := by
  induction later, more using Nat.le_induction with
  | base => rw [stateAfter, come, Option.bind_some, turn_eq_none_iff.mpr done]
  | succ later _ ih => rw [stateAfter, ih, Option.bind_none]

/-- A search has no name left after one number of turns only. -/
theorem turns_unique {state last other : State} {turns turns' : Nat}
    (come : stateAfter files state turns = some last) (done : last.pending = [])
    (come' : stateAfter files state turns' = some other) (done' : other.pending = []) :
    turns = turns' := by
  rcases Nat.lt_trichotomy turns turns' with fewer | same | more
  · rw [stateAfter_eq_none_of_lt come done fewer] at come'
    cases come'
  · exact same
  · rw [stateAfter_eq_none_of_lt come' done' more] at come
    cases come

/-- A search that has come so far was somewhere after fewer turns. -/
theorem exists_stateAfter_of_le {state last : State} {turns later : Nat}
    (come : stateAfter files state later = some last) (fewer : turns ≤ later) :
    ∃ before, stateAfter files state turns = some before := by
  induction later, fewer using Nat.le_induction generalizing last with
  | base => exact ⟨last, come⟩
  | succ later _ ih =>
    obtain ⟨before, come, -⟩ := stateAfter_succ_eq_some_iff.mp come
    exact ih come

/-- A search that takes no more than so many turns comes to a state without names. -/
theorem exists_last_of_bounded {state : State} (bound : Nat)
    (bounded : ∀ turns later, stateAfter files state turns = some later → turns ≤ bound) :
    ∃ turns last, stateAfter files state turns = some last ∧ last.pending = [] := by
  by_contra endless
  have goesOn : ∀ turns, ∃ later, stateAfter files state turns = some later := by
    intro turns
    induction turns with
    | zero => exact ⟨state, rfl⟩
    | succ turns ih =>
      obtain ⟨before, come⟩ := ih
      have left : turn files before ≠ none :=
        fun done => endless ⟨turns, before, come, turn_eq_none_iff.mp done⟩
      obtain ⟨later, taken⟩ := Option.ne_none_iff_exists'.mp left
      exact ⟨later, stateAfter_succ_eq_some_iff.mpr ⟨before, come, turn_eq_some_iff.mp taken⟩⟩
  obtain ⟨later, come⟩ := goesOn (bound + 1)
  exact absurd (bounded _ later come) (Nat.not_succ_le_self bound)

/-! ## Counting names -/

/-- How many names are put on the stack by a search that finds the files: those of the sources, and
those that each of the files includes. -/
def namesFor (sources : List String) (found : List Found) : Nat :=
  (accepted sources).length
    + (found.map fun file => (accepted (includesOf file.1 file.2)).length).sum

theorem namesFor_concat (sources : List String) (found : List Found) (name : String)
    (contents : Bytes) :
    namesFor sources (found ++ [(name, contents)])
      = namesFor sources found + (accepted (includesOf name contents)).length := by
  simp [namesFor, Nat.add_assoc]

/-- More files call for more names. -/
theorem namesFor_le_of_subset (sources : List String) {found others : List Found}
    (once : found.Nodup) (more : found ⊆ others) :
    namesFor sources found ≤ namesFor sources others := by
  -- Without repetitions, the files are part of the others once they are put in their order.
  obtain ⟨arranged, same, part⟩ := List.subperm_of_subset once more
  unfold namesFor
  rw [← (same.map fun file => (accepted (includesOf file.1 file.2)).length).sum_eq]
  exact Nat.add_le_add_left ((part.map _).sum_le_sum fun _ _ => Nat.zero_le _) _

/-- A turn takes one name off the stack and puts there what the file it finds includes. -/
theorem length_pending_of_turn (sources : List String) {state next : State}
    (taken : Turn files state next) :
    next.pending.length + 1 + namesFor sources state.report.found
      = state.pending.length + namesFor sources next.report.found := by
  cases taken with
  | drop seen => simp
  | pass new reading => simp
  | find new reading =>
    simp only [Report.found_followedBy, namesFor_concat, List.length_append, List.length_cons]
    omega

/-- The turns taken and the names left are together the names that were put on the stack. -/
theorem turns_add_length_pending {state : State} {turns : Nat}
    (come : stateAfter files (start sources) turns = some state) :
    turns + state.pending.length = namesFor sources state.report.found := by
  induction turns generalizing state with
  | zero =>
    obtain rfl : start sources = state := Option.some.inj come
    simp [start, namesFor]
  | succ turns ih =>
    obtain ⟨before, come, taken⟩ := stateAfter_succ_eq_some_iff.mp come
    have paid := length_pending_of_turn sources taken
    have balance := ih come
    omega

/-! ## The end -/

/-- A search ends just if only finitely many files can be reached. -/
theorem exists_last_iff_finite (files : Files) (sources : List String) :
    (∃ turns last, stateAfter files (start sources) turns = some last ∧ last.pending = [])
      ↔ {file | Reached files sources file}.Finite := by
  constructor
  · rintro ⟨turns, last, come, done⟩
    have searching := searching_of_reaches (reaches_of_stateAfter come)
    exact last.report.found.finite_toSet.subset fun file => mem_found_of_reached searching done
  · intro finite
    -- No search puts more names on the stack than all files that can be reached call for.
    refine exists_last_of_bounded (namesFor sources finite.toFinset.toList) ?_
    intro turns later come
    have searching := searching_of_reaches (reaches_of_stateAfter come)
    have within : later.report.found ⊆ finite.toFinset.toList := by
      intro file found
      simpa using searching.reached file found
    calc turns
        ≤ turns + later.pending.length := Nat.le_add_right _ _
      _ = namesFor sources later.report.found := turns_add_length_pending come
      _ ≤ namesFor sources finite.toFinset.toList :=
          namesFor_le_of_subset sources (.of_map _ searching.once) within

/-- There is one file at most for a path, so few paths mean few files. -/
theorem finite_reached (finite : {path | (files.embeddable? path).isSome}.Finite)
    (sources : List String) : {file | Reached files sources file}.Finite := by
  refine Set.Finite.of_injOn (f := Prod.fst) ?_ ?_ finite
  · intro file reached
    simp [Reached.had reached]
  · intro first reached second reached' same
    have had := Reached.had reached
    have had' := Reached.had reached'
    rw [same, had'] at had
    exact Prod.ext same (Option.some.inj had).symm

/-- What can be embedded can be read, so a source tree holds finitely many such files. -/
theorem finite_embeddable (tree : SourceTree) :
    {path | (tree.embeddable? path).isSome}.Finite := by
  refine tree.readable.finite_toSet.subset fun path had => ?_
  obtain ⟨contents, had⟩ := Option.isSome_iff_exists.mp had
  exact tree.mem_readable (read_of_embeddable? had)

/-- A state in which a search for the sources ends. The number of turns until then is that of the
names put on the stack, and no turn follows. -/
structure EndsIn (files : Files) (sources : List String) (last : State) : Prop where
  empty : last.pending = []
  once : (last.report.found.map (·.1)).Nodup
  atEnd : ∀ turns, stateAfter files (start sources) turns = some last
    ↔ turns = namesFor sources last.report.found
  pastEnd : ∀ turns, stateAfter files (start sources) turns = none
    ↔ namesFor sources last.report.found < turns

theorem endsIn_of_done {last : State} {turns : Nat}
    (come : stateAfter files (start sources) turns = some last) (done : last.pending = []) :
    EndsIn files sources last := by
  have count : turns = namesFor sources last.report.found := by
    simpa [done] using turns_add_length_pending come
  refine ⟨done, (searching_of_reaches (reaches_of_stateAfter come)).once, fun turns' => ?_,
    fun turns' => ?_⟩
  · rw [← count]
    constructor
    · intro come'
      exact turns_unique come' done come done
    · rintro rfl
      exact come
  · rw [← count]
    constructor
    · intro absent
      by_contra fewer
      obtain ⟨before, come'⟩ := exists_stateAfter_of_le come (Nat.not_lt.mp fewer)
      rw [absent] at come'
      cases come'
    · exact stateAfter_eq_none_of_lt come done

/-- Where only finitely many files can be embedded, as where only finitely many can be read, every
search ends: after as many turns as there are accepted sources and, over the files found, accepted
includes. What it has found and noted by then is what is collected. -/
theorem endsIn_of_finite (finite : {path | (files.embeddable? path).isSome}.Finite)
    (sources : List String) :
    ∃ last, EndsIn files sources last
      ∧ ∀ tree : SourceTree, tree.toFiles = files → collect tree sources = last.report := by
  obtain ⟨turns, last, come, done⟩ :=
    (exists_last_iff_finite files sources).mpr (finite_reached finite sources)
  refine ⟨last, endsIn_of_done come done, ?_⟩
  rintro tree rfl
  calc collect tree sources
      = search tree last := search_of_reaches (reaches_of_stateAfter come)
    _ = last.report := search_of_done done

/-- A file that includes itself, another one that includes it, and a spelling of itself further
down, which leads to a file once and not again. -/
theorem endsIn_of_finite_deeper_spellings :
    let spellings := Utf8.bytesOf
      "#include \"main.c\"\n#include \"a.h\"\n#include \"down/main.c\"\n"
    let tree := Machine.preparedTree
      [{ path := "main.c", contents := spellings },
       { path := "down/main.c", contents := spellings },
       { path := "a.h", contents := Utf8.bytesOf "#include \"main.c\"\n#include \"../a.h\"\n" }]
    let sources := ["main.c", "/usr/a.h", "./main.c"]
    {path | (tree.embeddable? path).isSome}.Finite
      ∧ ∃ last, EndsIn tree.toFiles sources last
        ∧ collect tree sources = last.report
        ∧ last.report.found.map (·.1) = ["main.c", "a.h", "down/main.c"]
        ∧ namesFor sources last.report.found = 9 := by
  intro spellings tree sources
  obtain ⟨last, ends, collected⟩ := endsIn_of_finite (finite_embeddable tree) sources
  have ninth : (stateAfter tree.toFiles (start sources) 9).map
      (fun state => (state.pending, state.report.found.map (·.1)))
        = some ([], ["main.c", "a.h", "down/main.c"]) := by
    decide +kernel
  -- The state without names is the last one, since there is no other.
  obtain ⟨state, come, outcome⟩ := Option.map_eq_some_iff.mp ninth
  obtain ⟨done, names⟩ := Prod.mk.inj outcome
  have count : 9 = namesFor sources last.report.found :=
    turns_unique come done ((ends.atEnd _).mpr rfl) ends.empty
  obtain rfl : last = state := Option.some.inj (((ends.atEnd 9).mpr count).symm.trans come)
  exact ⟨finite_embeddable tree, last, ends, collected tree rfl, names, count.symm⟩

end CheckedBuild.Discovery
