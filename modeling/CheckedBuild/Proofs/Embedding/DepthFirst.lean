import Mathlib.Data.List.Nodup
import CheckedBuild.Machine.Prepared
import CheckedBuild.Proofs.Embedding.Turns

/-!
# Depth first

The search keeps one stack of names and marks a name when it takes it off, so a name may lie on the
stack several times. It finds nevertheless what a recursive walk finds, in the same order: the walk
visits a file and then, before it goes on, what that file includes. What is found does not depend
on the order of the sources, only its order does: it is what can be reached from them.
-/

namespace CheckedBuild.Discovery

theorem unvisited_le_of_subset (tree : SourceTree) {before after : List String}
    (grows : before ⊆ after) : unvisited tree after ≤ unvisited tree before := by
  unfold unvisited
  rw [← List.countP_eq_length_filter, ← List.countP_eq_length_filter]
  refine List.countP_mono_left fun path _ new => ?_
  simp only [Bool.not_eq_true', List.contains_eq_mem, decide_eq_false_iff_not] at new ⊢
  exact fun seen => new (grows seen)

/-- What a walk leaves behind: the files it found, in order, and the names visited by then. -/
structure Walk (before : List String) where
  found : List Found
  visited : List String
  /-- No name is forgotten. -/
  grows : before ⊆ visited

/-- Walks the candidates in order, and below each file the files that it includes. -/
def walk (tree : SourceTree) (visited : List String) : List String → Walk visited
  | [] => ⟨[], visited, List.Subset.refl visited⟩
  | candidate :: rest =>
    match memberName candidate with
    | .error _ => walk tree visited rest
    | .ok name =>
      if seen : name ∈ visited then walk tree visited rest
      else
        match had : tree.embeddable? name with
        | none =>
          let others := walk tree (name :: visited) rest
          ⟨others.found, others.visited, List.subset_of_cons_subset others.grows⟩
        | some contents =>
          have := unvisited_cons_lt (tree.mem_readable (read_of_embeddable? had)) seen
          let below := walk tree (name :: visited)
            ((quotedIncludes contents).map (resolveInclude name))
          let others := walk tree below.visited rest
          ⟨(name, contents) :: (below.found ++ others.found), others.visited,
            fun _ before => others.grows (below.grows (List.mem_cons_of_mem _ before))⟩
termination_by candidates => (unvisited tree visited, candidates.length)
decreasing_by
  · exact Prod.Lex.right _ (by simp)
  · exact Prod.Lex.right _ (by simp)
  · rcases Nat.lt_or_eq_of_le (unvisited_cons_le tree visited name) with fewer | same
    · exact Prod.Lex.left _ _ fewer
    · rw [same]
      exact Prod.Lex.right _ (by simp)
  · exact Prod.Lex.left _ _ this
  · exact Prod.Lex.left _ _ (Nat.lt_of_le_of_lt (unvisited_le_of_subset tree below.grows) this)

theorem accepted_cons_of_error {candidate : String} {skip : Skip}
    (rejected : memberName candidate = .error skip) (rest : List String) :
    accepted (candidate :: rest) = accepted rest := by
  simp [accepted, rejected, Except.toOption]

theorem accepted_cons_of_ok {candidate name : String} (named : memberName candidate = .ok name)
    (rest : List String) : accepted (candidate :: rest) = name :: accepted rest := by
  simp [accepted, named, Except.toOption]

theorem followedBy_followedBy (report : Report) (first second : List Found)
    (notes others : List Note) :
    (report.followedBy first notes).followedBy second others
      = report.followedBy (first ++ second) (notes ++ others) := by
  simp [Report.followedBy]

/-- A file that cannot be embedded is passed over. -/
theorem exists_pass {files : Files} {visited : List String} {name : String} (new : name ∉ visited)
    (absent : files.embeddable? name = none) (rest : List String) (report : Report) :
    ∃ notes, Turn files ⟨visited, name :: rest, report⟩
      ⟨name :: visited, rest, report.followedBy [] notes⟩ := by
  cases reading : readLimited files name with
  | mk outcome notes =>
    cases outcome with
    | error skip => exact ⟨_, .pass new reading⟩
    | ok contents =>
      have had := (readLimited_cases reading).1
      rw [absent] at had
      cases had

/-- A file that can be embedded is found. -/
theorem exists_find {files : Files} {visited : List String} {name : String} {contents : Bytes}
    (new : name ∉ visited) (had : files.embeddable? name = some contents) (rest : List String)
    (report : Report) :
    ∃ notes, Turn files ⟨visited, name :: rest, report⟩
      ⟨name :: visited, accepted (includesOf name contents) ++ rest,
        report.followedBy [(name, contents)] notes⟩ := by
  cases reading : readLimited files name with
  | mk outcome notes =>
    have same := (readLimited_cases reading).1
    rw [had] at same
    cases outcome with
    | error skip => cases same
    | ok read =>
      obtain rfl : read = contents := Option.some.inj same
      exact ⟨_, .find new reading⟩

/-- With the candidates on top of its stack, a search comes to where the walk ends. -/
theorem exists_reaches_walk (tree : SourceTree) (visited candidates rest : List String)
    (report : Report) :
    ∃ notes, Reaches tree.toFiles ⟨visited, accepted candidates ++ rest, report⟩
      ⟨(walk tree visited candidates).visited, rest,
        report.followedBy (walk tree visited candidates).found notes⟩ := by
  fun_induction walk tree visited candidates generalizing rest report with
  | case1 visited => exact ⟨[], by simpa [Report.followedBy] using .refl⟩
  | case2 visited candidate others skip rejected ih =>
    rw [accepted_cons_of_error rejected]
    exact ih rest report
  | case3 visited candidate others name named seen ih =>
    obtain ⟨notes, reaches⟩ := ih rest report
    rw [accepted_cons_of_ok named]
    exact ⟨notes, .head (.drop seen) reaches⟩
  | case4 visited candidate others name named new absent walked ih =>
    obtain ⟨first, passed⟩ := exists_pass new absent (accepted others ++ rest) report
    obtain ⟨second, reaches⟩ := ih rest (report.followedBy [] first)
    rw [followedBy_followedBy, List.nil_append] at reaches
    rw [accepted_cons_of_ok named]
    exact ⟨first ++ second, .head passed reaches⟩
  | case5 visited candidate others name named new contents had fewer below walked ihBelow ihOthers =>
    obtain ⟨first, found⟩ := exists_find new had (accepted others ++ rest) report
    obtain ⟨second, descended⟩ := ihBelow (accepted others ++ rest)
      (report.followedBy [(name, contents)] first)
    obtain ⟨third, returned⟩ := ihOthers rest
      ((report.followedBy [(name, contents)] first).followedBy below.found second)
    rw [followedBy_followedBy, List.singleton_append] at descended
    rw [followedBy_followedBy, followedBy_followedBy, List.singleton_append, List.cons_append]
      at returned
    rw [accepted_cons_of_ok named]
    exact ⟨first ++ second ++ third, .head found (descended.trans returned)⟩

/-- A file can be reached: a source names it, or a file that can be reached includes it; and it can
be embedded. -/
inductive Reached (files : Files) (sources : List String) : Found → Prop
  | listed {source name : String} {contents : Bytes} (given : source ∈ sources)
      (named : memberName source = .ok name) (had : files.embeddable? name = some contents) :
      Reached files sources (name, contents)
  | included {includer : Found} {spelling name : String} {contents : Bytes}
      (reached : Reached files sources includer) (spelled : spelling ∈ quotedIncludes includer.2)
      (named : memberName (resolveInclude includer.1 spelling) = .ok name)
      (had : files.embeddable? name = some contents) :
      Reached files sources (name, contents)

theorem Reached.had {files : Files} {sources : List String} {file : Found}
    (reached : Reached files sources file) : files.embeddable? file.1 = some file.2 := by
  cases reached with
  | listed given named had => exact had
  | included reached spelled named had => exact had

/-- Which sources there are matters to what can be reached, not their order or number. -/
theorem Reached.of_subset {files : Files} {sources others : List String} (more : sources ⊆ others)
    {file : Found} (reached : Reached files sources file) : Reached files others file := by
  induction reached with
  | listed given named had => exact .listed (more given) named had
  | included reached spelled named had ih => exact .included ih spelled named had

/-- A source or a file that was found calls for the name. -/
def Called (sources : List String) (found : List Found) (name : String) : Prop :=
  name ∈ accepted sources ∨ ∃ file ∈ found, name ∈ accepted (includesOf file.1 file.2)

theorem Called.append {sources : List String} {found : List Found} {name : String}
    (called : Called sources found name) (later : List Found) :
    Called sources (found ++ later) name := by
  rcases called with given | ⟨file, member, included⟩
  · exact Or.inl given
  · exact Or.inr ⟨file, List.mem_append_left _ member, included⟩

theorem reached_of_called {files : Files} {sources : List String} {found : List Found}
    (reached : ∀ file ∈ found, Reached files sources file) {name : String} {contents : Bytes}
    (called : Called sources found name) (had : files.embeddable? name = some contents) :
    Reached files sources (name, contents) := by
  rcases called with given | ⟨file, member, included⟩
  · obtain ⟨source, given, named⟩ := mem_accepted.mp given
    exact .listed given named had
  · obtain ⟨candidate, resolved, named⟩ := mem_accepted.mp included
    obtain ⟨spelling, spelled, rfl⟩ := List.mem_map.mp resolved
    exact .included (reached file member) spelled named had

/-- What a search keeps to. Every name that was called for is visited or on the stack, and of the
names visited exactly those that can be embedded have been found. -/
structure Searching (files : Files) (sources : List String) (state : State) : Prop where
  pending : ∀ name ∈ state.pending, Called sources state.report.found name
  covered : ∀ name, Called sources state.report.found name →
    name ∈ state.visited ∨ name ∈ state.pending
  reached : ∀ file ∈ state.report.found, Reached files sources file
  visited : ∀ file ∈ state.report.found, file.1 ∈ state.visited
  found : ∀ name ∈ state.visited, ∀ contents, files.embeddable? name = some contents →
    (name, contents) ∈ state.report.found
  once : (state.report.found.map (·.1)).Nodup

theorem searching_start (files : Files) (sources : List String) :
    Searching files sources (start sources) where
  pending _ member := Or.inl member
  covered name called := by
    rcases called with given | ⟨file, member, -⟩
    · exact Or.inr given
    · cases member
  reached _ member := by cases member
  visited _ member := by cases member
  found _ member := by cases member
  once := List.nodup_nil

/-- What is called for once a file has been found: what was called for before, and what the file
includes. -/
theorem called_concat {sources : List String} {found : List Found} {file : Found} {name : String}
    (called : Called sources (found ++ [file]) name) :
    Called sources found name ∨ name ∈ accepted (includesOf file.1 file.2) := by
  rcases called with given | ⟨includer, member, included⟩
  · exact Or.inl (Or.inl given)
  · rcases List.mem_append.mp member with before | added
    · exact Or.inl (Or.inr ⟨includer, before, included⟩)
    · obtain rfl := List.mem_singleton.mp added
      exact Or.inr included

/-- Taking a name off the stack and marking it leaves no name uncovered. -/
theorem mem_cons_or_mem_of_mem_or_mem_cons {visited rest : List String} {name other : String}
    (covered : other ∈ visited ∨ other ∈ name :: rest) : other ∈ name :: visited ∨ other ∈ rest := by
  rcases covered with before | onStack
  · exact Or.inl (List.mem_cons_of_mem _ before)
  · rcases List.mem_cons.mp onStack with rfl | later
    · exact Or.inl List.mem_cons_self
    · exact Or.inr later

theorem searching_of_turn {files : Files} {sources : List String} {state next : State}
    (searching : Searching files sources state) (taken : Turn files state next) :
    Searching files sources next := by
  obtain ⟨pending, covered, reached, visited, found, once⟩ := searching
  cases taken with
  | @drop seenNames rest report name seen =>
    have known : name :: seenNames ⊆ seenNames := List.cons_subset.mpr ⟨seen, List.Subset.refl _⟩
    refine ⟨(List.forall_mem_cons.mp pending).2, fun other called => ?_, reached, visited, found,
      once⟩
    exact (mem_cons_or_mem_of_mem_or_mem_cons (covered other called)).imp_left (@known other)
  | @pass seenNames rest report name skip notes new reading =>
    have absent : files.embeddable? name = none := (readLimited_cases reading).1.symm
    have same : ∀ notes, (report.followedBy [] notes).found = report.found := by simp
    refine ⟨?_, ?_, ?_, ?_, ?_, ?_⟩ <;> simp only [same]
    · exact (List.forall_mem_cons.mp pending).2
    · exact fun other called => mem_cons_or_mem_of_mem_or_mem_cons (covered other called)
    · exact reached
    · exact fun file member => List.mem_cons_of_mem _ (visited file member)
    · intro other member contents had
      rcases List.mem_cons.mp member with rfl | before
      · rw [absent] at had
        cases had
      · exact found other before contents had
    · exact once
  | @find seenNames rest report name contents notes new reading =>
    have had : files.embeddable? name = some contents := (readLimited_cases reading).1.symm
    obtain ⟨calledFor, others⟩ := List.forall_mem_cons.mp pending
    refine ⟨?_, ?_, ?_, ?_, ?_, ?_⟩ <;> simp only [Report.found_followedBy]
    · intro other member
      rcases List.mem_append.mp member with included | later
      · exact Or.inr ⟨(name, contents), by simp, included⟩
      · exact (others other later).append _
    · intro other called
      rcases called_concat called with before | included
      · exact (mem_cons_or_mem_of_mem_or_mem_cons (covered other before)).imp_right
          (List.mem_append_right _)
      · exact Or.inr (List.mem_append_left _ included)
    · refine List.forall_mem_append.mpr ⟨reached, List.forall_mem_singleton.mpr ?_⟩
      exact reached_of_called reached calledFor had
    · refine List.forall_mem_append.mpr ⟨fun file member => ?_, List.forall_mem_singleton.mpr ?_⟩
      · exact List.mem_cons_of_mem _ (visited file member)
      · exact List.mem_cons_self
    · intro other member bytes hadOther
      rcases List.mem_cons.mp member with rfl | before
      · rw [had, Option.some.injEq] at hadOther
        simp [hadOther]
      · exact List.mem_append_left _ (found other before bytes hadOther)
    · have fresh : name ∉ report.found.map (·.1) := by
        intro named
        obtain ⟨file, member, rfl⟩ := List.mem_map.mp named
        exact new (visited file member)
      rw [List.map_append, List.map_singleton]
      exact List.Nodup.append once (List.nodup_singleton _) (by simpa using fresh)

theorem searching_of_reaches {files : Files} {sources : List String} {state : State}
    (reaches : Reaches files (start sources) state) : Searching files sources state := by
  induction reaches with
  | refl => exact searching_start files sources
  | tail _ taken ih => exact searching_of_turn ih taken

/-- Where no name is left, everything that can be reached has been found. -/
theorem mem_found_of_reached {files : Files} {sources : List String} {state : State}
    (searching : Searching files sources state) (done : state.pending = []) {file : Found}
    (reached : Reached files sources file) : file ∈ state.report.found := by
  have closed : ∀ name contents, Called sources state.report.found name →
      files.embeddable? name = some contents → (name, contents) ∈ state.report.found := by
    intro name contents called had
    rcases searching.covered name called with visited | onStack
    · exact searching.found name visited contents had
    · rw [done] at onStack
      cases onStack
  induction reached with
  | listed given named had => exact closed _ _ (Or.inl (mem_accepted.mpr ⟨_, given, named⟩)) had
  | included reached spelled named had ih =>
    refine closed _ _ (Or.inr ⟨_, ih, mem_accepted.mpr ⟨_, ?_, named⟩⟩) had
    exact List.mem_map_of_mem spelled

theorem mem_collect_iff (tree : SourceTree) (sources : List String) (file : Found) :
    file ∈ (collect tree sources).found ↔ Reached tree.toFiles sources file := by
  obtain ⟨last, reaches, done, report⟩ := exists_reaches_search tree (start sources)
  have searching := searching_of_reaches reaches
  rw [collect, ← report]
  exact ⟨searching.reached file, mem_found_of_reached searching done⟩

theorem nodup_names_collect (tree : SourceTree) (sources : List String) :
    ((collect tree sources).found.map (·.1)).Nodup := by
  obtain ⟨last, reaches, -, report⟩ := exists_reaches_search tree (start sources)
  rw [collect, ← report]
  exact (searching_of_reaches reaches).once

theorem found_collect_eq_walk (tree : SourceTree) (sources : List String) :
    (collect tree sources).found = (walk tree [] sources).found := by
  obtain ⟨notes, reaches⟩ := exists_reaches_walk tree [] sources [] (start sources).report
  rw [List.append_nil] at reaches
  calc (collect tree sources).found
      = (search tree ⟨(walk tree [] sources).visited, [],
          (start sources).report.followedBy (walk tree [] sources).found notes⟩).found := by
        rw [collect, ← search_of_reaches reaches]
        rfl
    _ = (walk tree [] sources).found := by
        rw [search_of_done rfl]
        rfl

/-- The files found for the sources are those of the recursive walk, in its order. They are the
files that can be reached from the sources, each once, so sources in another order, or named more
often, lead to the same files. -/
theorem found_collect (tree : SourceTree) (sources : List String) :
    (collect tree sources).found = (walk tree [] sources).found
    ∧ (∀ file, file ∈ (collect tree sources).found ↔ Reached tree.toFiles sources file)
    ∧ ((collect tree sources).found.map (·.1)).Nodup
    ∧ ∀ others : List String, (∀ source, source ∈ others ↔ source ∈ sources) →
        (collect tree others).found.Perm (collect tree sources).found := by
  refine ⟨found_collect_eq_walk tree sources, mem_collect_iff tree sources,
    nodup_names_collect tree sources, fun others same => ?_⟩
  rw [List.perm_ext_iff_of_nodup (.of_map _ (nodup_names_collect tree others))
    (.of_map _ (nodup_names_collect tree sources))]
  intro file
  rw [mem_collect_iff, mem_collect_iff]
  exact ⟨.of_subset fun source => (same source).mp, .of_subset fun source => (same source).mpr⟩

/-- Two files that include each other, reached from a third and named as a source too. -/
theorem found_collect_circle :
    let tree := Machine.preparedTree
      [{ path := "main.c", contents := Utf8.bytesOf "#include \"lib/a.h\"\n" },
       { path := "lib/a.h", contents := Utf8.bytesOf " # include \"b.h\" // next\n" },
       { path := "lib/b.h", contents := Utf8.bytesOf "#include \"a.h\"\n" }]
    let sources := ["main.c", "lib/a.h"]
    let others := ["lib/a.h", "main.c", "lib/a.h"]
    (∀ source, source ∈ others ↔ source ∈ sources)
      ∧ (collect tree others).found.Perm (collect tree sources).found
      ∧ ("lib/b.h", Utf8.bytesOf "#include \"a.h\"\n") ∈ (collect tree others).found := by
  intro tree sources others
  have same : ∀ source, source ∈ others ↔ source ∈ sources := by
    intro source
    simp only [others, sources, List.mem_cons, List.not_mem_nil, or_false]
    tauto
  obtain ⟨-, -, -, permuted⟩ := found_collect tree sources
  refine ⟨same, permuted others same, ((found_collect tree others).2.1 _).mpr ?_⟩
  have given : "lib/a.h" ∈ others := by decide
  have spelled : "b.h" ∈ quotedIncludes (Utf8.bytesOf " # include \"b.h\" // next\n") := by
    decide +kernel
  have first : Reached tree.toFiles others ("lib/a.h", Utf8.bytesOf " # include \"b.h\" // next\n") :=
    .listed given (by decide) (by decide)
  exact .included first spelled (by decide) (by decide)

end CheckedBuild.Discovery
