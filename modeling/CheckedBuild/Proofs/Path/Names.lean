import CheckedBuild.Path.MemberName
import CheckedBuild.Proofs.Text.Lines

/-!
# The shape of member names

A file is stored under `.` or under names joined by slashes, none of them empty, `.` or `..`. The
components of such a path are its names; those of a first part of it are names too, but for the
last, which may be anything that a name begins with.
-/

namespace CheckedBuild.Path

open Text

/-- A piece of a path that can only name a file or a directory. -/
structure IsName (part : List Char) : Prop where
  nonempty : part ≠ []
  notCurrent : part ≠ ['.']
  notParent : part ≠ ['.', '.']
  whole : '/' ∉ part

/-- The paths that a file may be stored under. -/
inductive Stored : List Char → Prop
  | current : Stored ['.']
  | below (parts : List (List Char)) (some : parts ≠ []) (names : ∀ part ∈ parts, IsName part) :
      Stored (joinWith ['/'] parts)

/-- What normalization never leaves: an empty part, a part `.`, and a slash. -/
structure IsStep (part : List Char) : Prop where
  nonempty : part ≠ []
  notCurrent : part ≠ ['.']
  whole : '/' ∉ part

theorem isStep_of_mem_pushPart {stack : List (List Char)} (steps : ∀ part ∈ stack, IsStep part)
    {part : List Char} (whole : '/' ∉ part) : ∀ step ∈ pushPart stack part, IsStep step := by
  unfold pushPart
  by_cases ignored : part = [] ∨ part = ['.']
  · rw [if_pos ignored]
    exact steps
  · rw [if_neg ignored]
    have isStep : IsStep part :=
      ⟨fun empty => ignored (Or.inl empty), fun current => ignored (Or.inr current), whole⟩
    have pushed : ∀ step ∈ part :: stack, IsStep step :=
      List.forall_mem_cons.mpr ⟨isStep, steps⟩
    by_cases parent : part = ['.', '.']
    · rw [if_pos parent]
      cases stack with
      | nil => exact pushed
      | cons top below =>
        by_cases climbs : top = ['.', '.']
        · simpa only [if_pos climbs] using pushed
        · simpa only [if_neg climbs] using (List.forall_mem_cons.mp steps).2
    · rw [if_neg parent]
      exact pushed

theorem isStep_of_mem_foldl_pushPart {parts stack : List (List Char)}
    (whole : ∀ part ∈ parts, '/' ∉ part) (steps : ∀ part ∈ stack, IsStep part) :
    ∀ step ∈ parts.foldl pushPart stack, IsStep step := by
  induction parts generalizing stack with
  | nil => exact steps
  | cons part rest ih =>
    obtain ⟨first, others⟩ := List.forall_mem_cons.mp whole
    exact ih others (isStep_of_mem_pushPart steps first)

theorem isStep_of_mem_normalParts {path part : List Char} (member : part ∈ normalParts path) :
    IsStep part :=
  isStep_of_mem_foldl_pushPart (fun _ piece => separator_notMem_of_mem_pieces piece) (by simp) part
    (List.mem_reverse.mp member)

/-- A name that is accepted is stored as it must be. -/
theorem stored_of_memberName {path name : String} (accepted : memberName path = .ok name) :
    Stored name.toList := by
  unfold memberName at accepted
  by_cases absolute : isAbsolute path.toList = true
  · simp [absolute] at accepted
  · by_cases different : path.toList ≠ normalize path.toList
        ∧ path.toList ≠ '.' :: '/' :: normalize path.toList
    · simp only [if_neg absolute, if_pos different, reduceCtorEq] at accepted
    · by_cases climbs : ['.', '.'] ∈ normalParts path.toList
      · simp only [if_neg absolute, if_neg different, if_pos climbs, reduceCtorEq] at accepted
      · simp only [if_neg absolute, if_neg different, if_neg climbs, Except.ok.injEq] at accepted
        rw [← accepted, String.toList_ofList, normalize]
        by_cases empty : normalParts path.toList = []
        · rw [if_pos empty]
          exact .current
        · rw [if_neg empty]
          refine .below _ empty fun part member => ?_
          have step := isStep_of_mem_normalParts member
          exact ⟨step.nonempty, step.notCurrent, fun parent => climbs (parent ▸ member), step.whole⟩

theorem ofPiece?_of_isName {part : List Char} (name : IsName part) :
    Component.ofPiece? part = some (.named part) := by
  rw [Component.ofPiece?, if_neg (not_or.mpr ⟨name.nonempty, name.notCurrent⟩),
    if_neg name.notParent]

theorem filterMap_ofPiece? {parts : List (List Char)} (names : ∀ part ∈ parts, IsName part) :
    parts.filterMap Component.ofPiece? = parts.map .named := by
  induction parts with
  | nil => rfl
  | cons part rest ih =>
    obtain ⟨first, others⟩ := List.forall_mem_cons.mp names
    simp only [List.filterMap_cons, ofPiece?_of_isName first, List.map_cons, ih others]

/-- A path that starts with a slash has an empty piece before it. -/
theorem isAbsolute_eq_false {path first : List Char} {rest : List (List Char)}
    (split : pieces '/' path = first :: rest) (begins : first ≠ [] ∨ rest = []) :
    isAbsolute path = false := by
  cases path with
  | nil => rfl
  | cons c path =>
    by_cases slash : c = '/'
    · rw [pieces_cons, if_pos slash, List.cons.injEq] at split
      rcases begins with nonempty | only
      · exact absurd split.1.symm nonempty
      · exact absurd (split.2.trans only) (pieces_ne_nil _ _)
    · simp [isAbsolute, slash]

/-- The components of a path that is cut off after some of its names. -/
theorem components_of_pieces {path last : List Char} {parts : List (List Char)}
    (split : pieces '/' path = parts ++ [last]) (names : ∀ part ∈ parts, IsName part)
    (further : path ≠ ['.']) :
    components path = parts.map .named ++ (Component.ofPiece? last).toList := by
  have relative : isAbsolute path = false := by
    cases parts with
    | nil => exact isAbsolute_eq_false split (Or.inr rfl)
    | cons part rest =>
      exact isAbsolute_eq_false split (Or.inl (names part List.mem_cons_self).nonempty)
  have unmarked : (pieces '/' path).head? ≠ some ['.'] := by
    rw [split]
    cases parts with
    | nil =>
      rintro current
      have same := joinWith_pieces '/' path
      rw [split, List.nil_append, joinWith_singleton] at same
      exact further (same ▸ Option.some.inj current)
    | cons part rest =>
      exact fun current => (names part List.mem_cons_self).notCurrent (Option.some.inj current)
  simp only [components, relative, Bool.false_eq_true, if_false, if_neg unmarked]
  rw [split, List.filterMap_append, filterMap_ofPiece? names]
  cases seen : Component.ofPiece? last with
  | none => simp [seen]
  | some component => simp [seen]

theorem components_joinWith {parts : List (List Char)} (some : parts ≠ [])
    (names : ∀ part ∈ parts, IsName part) :
    components (joinWith ['/'] parts) = parts.map .named := by
  obtain ⟨front, last, rfl⟩ : ∃ front last, parts = front ++ [last] :=
    ⟨parts.dropLast, parts.getLast some, (List.dropLast_concat_getLast some).symm⟩
  have split : pieces '/' (joinWith ['/'] (front ++ [last])) = front ++ [last] :=
    pieces_joinWith some fun part member => (names part member).whole
  have name : IsName last := names last (by simp)
  rw [components_of_pieces split fun part member => names part (by simp [member]),
    ofPiece?_of_isName name]
  · simp
  · intro current
    rw [current] at split
    cases front with
    | nil => exact name.notCurrent (by simpa using (List.cons.inj split).1.symm)
    | cons part rest =>
      exact (names part (by simp)).notCurrent (List.cons.inj split).1.symm

theorem getLast?_joinWith {front : List (List Char)} {last : List Char} (nonempty : last ≠ []) :
    (joinWith ['/'] (front ++ [last])).getLast? = last.getLast? := by
  by_cases alone : front = []
  · simp [alone]
  · rw [joinWith_append alone (by simp), joinWith_singleton, List.getLast?_append,
      List.getLast?_eq_some_getLast nonempty]
    rfl

theorem getLast?_ne_slash {part : List Char} (whole : '/' ∉ part) : part.getLast? ≠ some '/' :=
  fun slash => whole (List.mem_of_getLast? slash)

/-- Names joined by slashes do not end in one. -/
theorem getLast?_joinWith_ne_slash {parts : List (List Char)} (some : parts ≠ [])
    (names : ∀ part ∈ parts, IsName part) : (joinWith ['/'] parts).getLast? ≠ .some '/' := by
  rw [← List.dropLast_concat_getLast some,
    getLast?_joinWith (names _ (List.getLast_mem some)).nonempty]
  exact getLast?_ne_slash (names _ (List.getLast_mem some)).whole

theorem joinWith_ne_nil {parts : List (List Char)} (some : parts ≠ [])
    (names : ∀ part ∈ parts, IsName part) : joinWith ['/'] parts ≠ [] := by
  intro empty
  have split := pieces_joinWith some fun part member => (names part member).whole
  rw [empty] at split
  exact (names [] (split ▸ List.mem_singleton_self [])).nonempty rfl

end CheckedBuild.Path
