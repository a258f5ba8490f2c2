import CheckedBuild.Proofs.Embedding.DepthFirst

/-!
# Searches under other names

Two searches find the same files in the same order if one of them calls by other names what the
other one asks for. A name of the first search may have no counterpart in the second, if no file can
be embedded under it: then the first search alone takes a turn, which finds nothing.
-/

namespace CheckedBuild.Discovery

/-- What a search in the first files asks for, a search in the second files asks for under other
names. This is required only of names that fit, which those called for by a name that fits do. -/
structure Renames (files files' : Files) (rename? : String → Option String)
    (Fits : String → Prop) : Prop where
  injective : ∀ first second name, rename? first = some name → rename? second = some name →
    first = second
  embeddable : ∀ name, Fits name → files.embeddable? name = rename? name >>= files'.embeddable?
  includes : ∀ name name' contents, Fits name → rename? name = some name' →
    files.embeddable? name = some contents →
      accepted (includesOf name' contents)
        = (accepted (includesOf name contents)).filterMap rename?
  fits : ∀ name contents, Fits name → files.embeddable? name = some contents →
    ∀ other ∈ accepted (includesOf name contents), Fits other

/-- A file under its other name. -/
def renameFound? (rename? : String → Option String) (file : Found) : Option Found :=
  (rename? file.1).map fun name => (name, file.2)

/-- The second search stands where the first one does, under the other names. -/
structure Follows (rename? : String → Option String) (Fits : String → Prop)
    (state state' : State) : Prop where
  visited : state'.visited = state.visited.filterMap rename?
  pending : state'.pending = state.pending.filterMap rename?
  found : state'.report.found = state.report.found.filterMap (renameFound? rename?)
  fits : ∀ name ∈ state.pending, Fits name

section

variable {files files' : Files} {rename? : String → Option String} {Fits : String → Prop}
  {state state' next : State}

theorem mem_filterMap_iff (renames : Renames files files' rename? Fits) {name name' : String}
    (named : rename? name = some name') (visited : List String) :
    name' ∈ visited.filterMap rename? ↔ name ∈ visited := by
  rw [List.mem_filterMap]
  constructor
  · rintro ⟨other, member, same⟩
    exact renames.injective _ _ _ same named ▸ member
  · exact fun member => ⟨name, member, named⟩

/-- A turn of the first search is followed by one of the second, or by none if the name taken has no
counterpart. -/
theorem follows_of_turn (renames : Renames files files' rename? Fits)
    (follows : Follows rename? Fits state state') (taken : Turn files state next) :
    ∃ next', Reaches files' state' next' ∧ Follows rename? Fits next next' := by
  obtain ⟨visited', pending', report'⟩ := state'
  obtain ⟨rfl, rfl, found, fits⟩ := follows
  cases taken with
  | @drop visited rest report name seen =>
    obtain ⟨-, fitting⟩ := List.forall_mem_cons.mp fits
    cases named : rename? name with
    | none =>
      refine ⟨_, .refl, rfl, ?_, found, fitting⟩
      exact List.filterMap_cons_none named
    | some name' =>
      have seen' := (mem_filterMap_iff renames named visited).mpr seen
      rw [List.filterMap_cons_some named]
      exact ⟨_, .single (.drop seen'), rfl, rfl, found, fitting⟩
  | @pass visited rest report name skip notes new reading =>
    obtain ⟨fit, fitting⟩ := List.forall_mem_cons.mp fits
    have absent : files.embeddable? name = none := (readLimited_cases reading).1.symm
    cases named : rename? name with
    | none =>
      refine ⟨_, .refl, ?_, ?_, ?_, fitting⟩
      · exact (List.filterMap_cons_none named).symm
      · exact List.filterMap_cons_none named
      · simpa using found
    | some name' =>
      have new' := (mem_filterMap_iff renames named visited).not.mpr new
      have absent' : files'.embeddable? name' = none := by
        rw [renames.embeddable name fit, named] at absent
        exact absent
      obtain ⟨notes', passes⟩ := exists_pass new' absent' (rest.filterMap rename?) report'
      rw [List.filterMap_cons_some named]
      refine ⟨_, .single passes, ?_, rfl, ?_, fitting⟩
      · exact (List.filterMap_cons_some named).symm
      · simpa using found
  | @find visited rest report name contents notes new reading =>
    obtain ⟨fit, fitting⟩ := List.forall_mem_cons.mp fits
    have had : files.embeddable? name = some contents := (readLimited_cases reading).1.symm
    have same := renames.embeddable name fit
    rw [had] at same
    obtain ⟨name', named, had'⟩ := Option.bind_eq_some_iff.mp same.symm
    have new' := (mem_filterMap_iff renames named visited).not.mpr new
    obtain ⟨notes', finds⟩ := exists_find new' had' (rest.filterMap rename?) report'
    rw [List.filterMap_cons_some named]
    refine ⟨_, .single finds, ?_, ?_, ?_, ?_⟩
    · exact (List.filterMap_cons_some named).symm
    · rw [renames.includes name name' contents fit named had, List.filterMap_append]
    · have renamed : renameFound? rename? (name, contents) = some (name', contents) := by
        rw [renameFound?, named]
        rfl
      rw [Report.found_followedBy, Report.found_followedBy, List.filterMap_append, found]
      simp [renamed]
    · exact List.forall_mem_append.mpr ⟨renames.fits name contents fit had, fitting⟩

theorem follows_of_reaches (renames : Renames files files' rename? Fits)
    (follows : Follows rename? Fits state state') (reaches : Reaches files state next) :
    ∃ next', Reaches files' state' next' ∧ Follows rename? Fits next next' := by
  induction reaches with
  | refl => exact ⟨state', .refl, follows⟩
  | tail _ taken ih =>
    obtain ⟨middle, first, followed⟩ := ih
    obtain ⟨next', last, followed⟩ := follows_of_turn renames followed taken
    exact ⟨next', first.trans last, followed⟩

end

/-- If a search calls by other names what another one asks for, and begins with the other names of
its sources, it finds the same files in the same order, each under its other name. -/
theorem found_collect_of_renames {tree tree' : SourceTree} {rename? : String → Option String}
    {Fits : String → Prop} (renames : Renames tree.toFiles tree'.toFiles rename? Fits)
    {sources sources' : List String}
    (renamed : accepted sources' = (accepted sources).filterMap rename?)
    (fits : ∀ name ∈ accepted sources, Fits name) :
    (collect tree' sources').found
      = (collect tree sources).found.filterMap (renameFound? rename?) := by
  have begins : Follows rename? Fits (start sources) (start sources') := ⟨rfl, renamed, rfl, fits⟩
  obtain ⟨last, reaches, done, report⟩ := exists_reaches_search tree (start sources)
  obtain ⟨last', reaches', followed⟩ := follows_of_reaches renames begins reaches
  have done' : last'.pending = [] := by rw [followed.pending, done, List.filterMap_nil]
  rw [collect, collect, search_of_reaches reaches', search_of_done done', followed.found, report]

end CheckedBuild.Discovery
