import CheckedBuild.Proofs.Embedding.Members

/-!
# Helpers among the members

The helpers of a directory are the scripts that can be read there, shrunk. Adding them to the files
found replaces the contents of those that have a helper's name, in their places, and puts the other
helpers behind them, in the helpers' order.
-/

namespace CheckedBuild

/-- What a helper script is embedded as, if it can be read. -/
def SourceTree.helper? (tree : SourceTree) (directory script : String) : Option Bytes :=
  (tree.read (Path.joinText directory script)).toOption.map Minify.script

/-- The helpers in a directory, for those of the scripts that can be read there. -/
def SourceTree.helpers (tree : SourceTree) (directory : String) (scripts : List String) : Members :=
  scripts.filterMap fun script => (tree.helper? directory script).map (script, ·)

/-- A member with the contents of another one of the same name, if there is one. -/
def Members.lend (others : Members) (member : Discovery.Found) : Discovery.Found :=
  (member.1, (others.get? member.1).getD member.2)

/-- Members overlaid by others: those of the same names lend their contents, and the rest follow. -/
def Members.overlaid (members others : Members) : Members :=
  members.map others.lend ++ others.filter fun other => !members.any (·.1 == other.1)

/-- The members of the archive for some sources and the helpers in a directory. -/
def SourceTree.members (tree : SourceTree) (directory : String) (sources : List String) : Members :=
  Members.overlaid (Discovery.collect tree sources).found (tree.helpers directory helperScripts)

namespace Members

theorem lend_cons_of_same {others : Members} {name : String} {contents : Bytes}
    {member : Discovery.Found} (same : member.1 = name) :
    lend ((name, contents) :: others) member = (name, contents) := by
  rw [lend, get?, same, List.lookup_cons, beq_self_eq_true]
  rfl

theorem lend_cons_of_other {others : Members} {name : String} {contents : Bytes}
    {member : Discovery.Found} (other : member.1 ≠ name) :
    lend ((name, contents) :: others) member = lend others member := by
  rw [lend, get?, List.lookup_cons, beq_false_of_ne other]
  rfl

theorem lend_of_absent {others : Members} {member : Discovery.Found}
    (absent : member.1 ∉ others.names) : lend others member = member := by
  have missing : others.lookup member.1 = none := by
    rw [List.lookup_eq_none_iff]
    intro other among
    simpa using fun same : member.1 = other.1 => absent (same ▸ List.mem_map_of_mem among)
  rw [lend, get?, missing]
  rfl

theorem overlaid_nil (members : Members) : members.overlaid [] = members := by
  have kept : ∀ member ∈ members, lend [] member = member := fun _ _ => rfl
  rw [overlaid, List.map_congr_left kept]
  simp

theorem any_name_put {members : Members} {name : String} {contents : Bytes} {other : String}
    (different : other ≠ name) :
    (members.put name contents).any (·.1 == other) = members.any (·.1 == other) := by
  unfold put
  by_cases present : members.any (·.1 == name) = true
  · rw [if_pos present, List.any_map]
    congr 1
    funext member
    by_cases same : member.1 = name <;> simp [same]
  · rw [if_neg present, List.any_append]
    simp [different.symm]

/-- A member that is put in before others of other names could as well be the first of them. -/
theorem overlaid_put (members : Members) {others : Members} {name : String} (contents : Bytes)
    (apart : name ∉ others.names) :
    (members.put name contents).overlaid others
      = members.overlaid ((name, contents) :: others) := by
  have kept : others.filter (fun other => !(members.put name contents).any (·.1 == other.1))
      = others.filter fun other => !members.any (·.1 == other.1) := by
    refine List.filter_congr fun other among => ?_
    have different : other.1 ≠ name := fun same => apart (same ▸ List.mem_map_of_mem among)
    rw [any_name_put different]
  rw [overlaid, overlaid, kept]
  unfold put
  by_cases present : members.any (·.1 == name) = true
  · have replaced : ∀ member ∈ members,
        lend others (if member.1 == name then (name, contents) else member)
          = lend ((name, contents) :: others) member := by
      intro member _
      by_cases same : member.1 = name
      · rw [if_pos (beq_iff_eq.mpr same), lend_cons_of_same same, lend_of_absent apart]
      · rw [if_neg (mt beq_iff_eq.mp same), lend_cons_of_other same]
    have listed : (!members.any (·.1 == (name, contents).1)) = false := by simp only [present]; rfl
    rw [if_pos present, List.map_map, List.filter_cons, listed]
    exact congrArg (· ++ _) (List.map_congr_left replaced)
  · have other : ∀ member ∈ members,
        lend others member = lend ((name, contents) :: others) member := by
      intro member among
      refine (lend_cons_of_other fun same => present ?_).symm
      exact List.any_eq_true.mpr ⟨member, among, beq_iff_eq.mpr same⟩
    have new : (!members.any (·.1 == (name, contents).1)) = true := by
      rw [Bool.eq_false_iff.mpr present]
      rfl
    rw [if_neg present, List.map_append, List.map_congr_left other, List.filter_cons, new,
      List.map_singleton, lend_of_absent apart]
    simp

theorem mem_overlaid {members others : Members} {member : Discovery.Found}
    (h : member ∈ members.overlaid others) : member ∈ members ∨ member ∈ others := by
  rcases List.mem_append.mp h with lent | added
  · obtain ⟨before, among, rfl⟩ := List.mem_map.mp lent
    cases found : others.get? before.1 with
    | none => exact Or.inl (by simpa [lend, found] using among)
    | some contents =>
      obtain ⟨front, back, rfl, -⟩ := List.lookup_eq_some_iff.mp found
      exact Or.inr (by simp [lend, found])
  · exact Or.inr (List.mem_filter.mp added).1

theorem get?_of_mem {members : Members} (once : members.names.Nodup) {member : Discovery.Found}
    (among : member ∈ members) : members.get? member.1 = some member.2 := by
  obtain ⟨front, back, rfl⟩ := List.append_of_mem among
  refine List.lookup_eq_some_iff.mpr ⟨front, back, rfl, fun before member' => ?_⟩
  rw [names, List.map_append, List.map_cons] at once
  have apart := (List.nodup_append.mp once).2.2 _ (List.mem_map_of_mem member') _ List.mem_cons_self
  simpa using Ne.symm apart

theorem mem_overlaid_of_mem {members others : Members} (once : others.names.Nodup)
    {other : Discovery.Found} (among : other ∈ others) : other ∈ members.overlaid others := by
  by_cases present : members.any (·.1 == other.1) = true
  · obtain ⟨member, listed, same⟩ := List.any_eq_true.mp present
    have lent : lend others member = other := by
      rw [lend, beq_iff_eq.mp same, get?_of_mem once among]
      rfl
    exact List.mem_append_left _ (lent ▸ List.mem_map_of_mem listed)
  · refine List.mem_append_right _ (List.mem_filter.mpr ⟨among, ?_⟩)
    rw [Bool.eq_false_iff.mpr present]
    rfl

end Members

theorem name_mem_of_mem_helpers {tree : SourceTree} {directory : String} {scripts : List String}
    {name : String} (member : name ∈ (tree.helpers directory scripts).names) : name ∈ scripts := by
  obtain ⟨helper, among, rfl⟩ := List.mem_map.mp member
  obtain ⟨script, given, had⟩ := List.mem_filterMap.mp among
  obtain ⟨contents, -, rfl⟩ := Option.map_eq_some_iff.mp had
  exact given

theorem nodup_names_helpers (tree : SourceTree) (directory : String) {scripts : List String}
    (once : scripts.Nodup) : (tree.helpers directory scripts).names.Nodup := by
  induction scripts with
  | nil => exact List.nodup_nil
  | cons script rest ih =>
    obtain ⟨apart, once⟩ := List.nodup_cons.mp once
    rw [SourceTree.helpers, List.filterMap_cons]
    cases tree.helper? directory script with
    | none => exact ih once
    | some contents => exact List.nodup_cons.mpr ⟨mt name_mem_of_mem_helpers apart, ih once⟩

theorem mem_helpers_iff {tree : SourceTree} {directory : String} {scripts : List String}
    {member : Discovery.Found} : member ∈ tree.helpers directory scripts ↔
      member.1 ∈ scripts ∧ ∃ contents,
        tree.read (Path.joinText directory member.1) = .ok contents
          ∧ member.2 = Minify.script contents := by
  simp only [SourceTree.helpers, SourceTree.helper?, List.mem_filterMap, Option.map_eq_some_iff]
  constructor
  · rintro ⟨script, given, -, ⟨contents, read, rfl⟩, rfl⟩
    dsimp only
    exact ⟨given, contents, toOption_eq_some_iff.mp read, rfl⟩
  · rintro ⟨given, contents, read, same⟩
    exact ⟨member.1, given, _, ⟨contents, toOption_eq_some_iff.mpr read, rfl⟩,
      by rw [← same]⟩

/-- Adding the helpers of a directory overlays the members by them. -/
theorem addHelpers_fst (tree : SourceTree) (directory : String) {scripts : List String}
    (once : scripts.Nodup) (members : Members) :
    (addHelpers tree directory scripts members).1
      = members.overlaid (tree.helpers directory scripts) := by
  induction scripts generalizing members with
  | nil => exact members.overlaid_nil.symm
  | cons script rest ih =>
    obtain ⟨apart, once⟩ := List.nodup_cons.mp once
    cases read : tree.read (Path.joinText directory script) with
    | error reason =>
      have none : tree.helper? directory script = none := by
        simp [SourceTree.helper?, read, Except.toOption]
      simp only [addHelpers, read, ih once, SourceTree.helpers, List.filterMap_cons, none,
        Option.map_none]
    | ok contents =>
      have some : tree.helper? directory script = some (Minify.script contents) := by
        simp [SourceTree.helper?, read, Except.toOption]
      simp only [addHelpers, read, ih once, SourceTree.helpers, List.filterMap_cons, some,
        Option.map_some]
      exact members.overlaid_put _ (mt name_mem_of_mem_helpers apart)

/-- The archive packs the members in their order. -/
theorem embed_fst (tree : SourceTree) (directory : String) (sources : List String) :
    (embed tree directory sources).1 = (tree.members directory sources).pack := by
  rw [SourceTree.members, ← addHelpers_fst tree directory (by decide)]
  rfl

end CheckedBuild
