import CheckedBuild.Proofs.Wrapper.BuiltIn
import CheckedBuild.Proofs.Wrapper.Placeholders

/-!
# How a template turns out

Whether a template can be filled is decided by its placeholders: each has to name a field, and each
field has to be named. If that holds, the values stand where the placeholders stood and all other
text is kept. A value that is spelled like a placeholder is text like any other.
-/

namespace CheckedBuild.Wrapper

/-- The placeholder of the segment names a field. -/
def Known (segment : Segment) : Prop := ∃ field : Field, segment.2 = field.name.toList

/-- The segment whose placeholder names a field. -/
def segmentOf (part : List Char × Field) : Segment := (part.1, part.2.name.toList)

/-- The text of a template whose placeholders name these fields, with values in their place. -/
def filledText (value : Field → List Char) (parts : List (List Char × Field))
    (tail : List Char) : List Char :=
  parts.flatMap (fun part => part.1 ++ value part.2) ++ tail

/-- What becomes of a template that is cut so. The first placeholder of no field is reported, or
else the first field without a placeholder; or else the template is filled. -/
inductive Filling (value : Field → List Char) (segments : List Segment) (tail : List Char) :
    Except TemplateError String → Prop
  | unknown {before after : List Segment} {gap name : List Char}
      (split : segments = before ++ (gap, name) :: after)
      (known : ∀ segment ∈ before, Known segment) (unknown : ¬ Known (gap, name)) :
      Filling value segments tail (.error (.unknownPlaceholder (String.ofList name)))
  | unused {before after : List Field} {field : Field}
      (known : ∀ segment ∈ segments, Known segment) (split : Field.all = before ++ field :: after)
      (used : ∀ earlier ∈ before, ∃ segment ∈ segments, segment.2 = earlier.name.toList)
      (unused : ∀ segment ∈ segments, segment.2 ≠ field.name.toList) :
      Filling value segments tail (.error (.unusedField field.name))
  | filled {parts : List (List Char × Field)} (known : segments = parts.map segmentOf)
      (used : ∀ field, ∃ gap, (gap, field) ∈ parts) :
      Filling value segments tail (.ok (String.ofList (filledText value parts tail)))

/-! ## Fields and their names -/

namespace Field

theorem isNone_ofName?_iff {segment : Segment} :
    (ofName? segment.2).isNone = true ↔ ¬ Known segment := by
  rw [Option.isNone_iff_eq_none, Option.eq_none_iff_forall_ne_some]
  simp only [ne_eq, ofName?_eq_some_iff, Known, not_exists]

theorem not_isNone_ofName?_iff {segment : Segment} :
    ¬ (ofName? segment.2).isNone = true ↔ Known segment := by
  rw [isNone_ofName?_iff, Classical.not_not]

end Field

/-! ## Faults -/

theorem names_piecesOf (segments : List Segment) (tail : List Char) :
    Piece.names (piecesOf segments tail) = segments.map (·.2) := by
  induction segments with
  | nil => simp [piecesOf, Piece.names]
  | cons segment segments ih =>
    have none : Piece.names (segment.1.map .character) = [] := by
      simp [Piece.names, List.filterMap_map]
    rw [piecesOf_cons, List.map_cons, ← ih]
    simp only [Piece.names] at none ⊢
    rw [List.filterMap_append, none]
    rfl

/-- A name in the first segments that is known is not reported. -/
theorem find?_unknown_append {before : List Segment} (known : ∀ segment ∈ before, Known segment)
    (after : List Segment) :
    ((before ++ after).map (·.2)).find? (fun name => (Field.ofName? name).isNone)
      = (after.map (·.2)).find? fun name => (Field.ofName? name).isNone := by
  have passed : (before.map (·.2)).find? (fun name => (Field.ofName? name).isNone) = none := by
    rw [List.find?_eq_none]
    intro name member
    obtain ⟨segment, among, rfl⟩ := List.mem_map.mp member
    exact Field.not_isNone_ofName?_iff.mpr (known segment among)
  rw [List.map_append, List.find?_append, passed, Option.none_or]

theorem find?_unknown_of_known {segments : List Segment}
    (known : ∀ segment ∈ segments, Known segment) :
    (segments.map (·.2)).find? (fun name => (Field.ofName? name).isNone) = none := by
  have passed := find?_unknown_append known []
  rwa [List.append_nil] at passed

theorem contains_name_iff {segments : List Segment} {field : Field} :
    (segments.map (·.2)).contains field.name.toList = true
      ↔ ∃ segment ∈ segments, segment.2 = field.name.toList := by
  rw [List.contains_iff_mem, List.mem_map]

theorem fault?_of_known {segments : List Segment} {tail : List Char}
    (known : ∀ segment ∈ segments, Known segment) :
    fault? (piecesOf segments tail)
      = (Field.all.find? fun field => !(segments.map (·.2)).contains field.name.toList).map
        fun field => .unusedField field.name := by
  rw [fault?, names_piecesOf, find?_unknown_of_known known]

theorem fault?_of_unknown {before after : List Segment} {gap name tail : List Char}
    (known : ∀ segment ∈ before, Known segment) (unknown : ¬ Known (gap, name)) :
    fault? (piecesOf (before ++ (gap, name) :: after) tail)
      = some (.unknownPlaceholder (String.ofList name)) := by
  have found : (((gap, name) :: after).map (·.2)).find? (fun name => (Field.ofName? name).isNone)
      = some name :=
    List.find?_cons_of_pos (Field.isNone_ofName?_iff.mpr unknown)
  rw [fault?, names_piecesOf, find?_unknown_append known, found]

/-! ## Text -/

theorem known_segmentOf {parts : List (List Char × Field)} :
    ∀ segment ∈ parts.map segmentOf, Known segment := by
  intro segment member
  obtain ⟨part, -, rfl⟩ := List.mem_map.mp member
  exact ⟨part.2, rfl⟩

theorem exists_parts_of_known {segments : List Segment}
    (known : ∀ segment ∈ segments, Known segment) :
    ∃ parts : List (List Char × Field), segments = parts.map segmentOf := by
  induction segments with
  | nil => exact ⟨[], rfl⟩
  | cons segment segments ih =>
    obtain ⟨⟨field, named⟩, others⟩ := List.forall_mem_cons.mp known
    obtain ⟨parts, rfl⟩ := ih others
    have same : segment = segmentOf (segment.1, field) := Prod.ext rfl named
    exact ⟨(segment.1, field) :: parts, by rw [List.map_cons, ← same]⟩

theorem flatMap_filled_piecesOf (values : Values) (parts : List (List Char × Field))
    (tail : List Char) :
    (piecesOf (parts.map segmentOf) tail).flatMap (Piece.filled values)
      = filledText values.value parts tail := by
  change rendered values _ = _
  induction parts with
  | nil => exact rendered_map_character values tail
  | cons part parts ih =>
    rw [List.map_cons, piecesOf_cons, rendered_append, rendered_map_character, segmentOf,
      rendered_placeholder, ih]
    simp [filledText]

/-! ## Results -/

theorem fill_of_filling {template : String} {values : Values} {segments : List Segment}
    {tail : List Char} {result : Except TemplateError String}
    (cut : Cut template.toList segments tail)
    (filling : Filling values.value segments tail result) :
    fill template values = result := by
  rw [fill, pieces_of_cut cut]
  cases filling with
  | unknown split known unknown =>
    subst split
    simp only [fault?_of_unknown known unknown]
  | @unused before after field known split used unused =>
    have found : Field.all.find? (fun field => !(segments.map (·.2)).contains field.name.toList)
        = some field := by
      rw [List.find?_eq_some_iff_append]
      refine ⟨?_, before, after, split, fun earlier member => ?_⟩
      · rw [Bool.not_eq_true', ← Bool.not_eq_true, contains_name_iff]
        rintro ⟨segment, member, named⟩
        exact unused segment member named
      · rw [Bool.not_not]
        exact contains_name_iff.mpr (used earlier member)
    simp only [fault?_of_known known, found, Option.map_some]
  | @filled parts known used =>
    subst known
    have none : Field.all.find? (fun field =>
        !((parts.map segmentOf).map (·.2)).contains field.name.toList) = none := by
      rw [List.find?_eq_none]
      intro field _
      obtain ⟨gap, member⟩ := used field
      rw [Bool.not_eq_true, Bool.not_eq_false']
      exact contains_name_iff.mpr ⟨segmentOf (gap, field), List.mem_map_of_mem member, rfl⟩
    simp only [fault?_of_known known_segmentOf, none, Option.map_none, flatMap_filled_piecesOf]

/-- A template that is cut so turns out in one of these ways. -/
theorem exists_filling (value : Field → List Char) (segments : List Segment) (tail : List Char) :
    ∃ result, Filling value segments tail result := by
  cases reported : segments.find? fun segment => (Field.ofName? segment.2).isNone with
  | some segment =>
    obtain ⟨unknown, before, after, split, passed⟩ := List.find?_eq_some_iff_append.mp reported
    refine ⟨_, .unknown split (fun earlier member => ?_) (Field.isNone_ofName?_iff.mp unknown)⟩
    have named := passed earlier member
    rw [Bool.not_eq_true', ← Bool.not_eq_true] at named
    exact Field.not_isNone_ofName?_iff.mp named
  | none =>
    have known : ∀ segment ∈ segments, Known segment := fun segment member =>
      Field.not_isNone_ofName?_iff.mp (List.find?_eq_none.mp reported segment member)
    cases missing : Field.all.find? fun field =>
        !(segments.map (·.2)).contains field.name.toList with
    | some field =>
      obtain ⟨absent, before, after, split, passed⟩ := List.find?_eq_some_iff_append.mp missing
      refine ⟨_, .unused known split (fun earlier member => ?_) fun segment member named => ?_⟩
      · have used := passed earlier member
        rwa [Bool.not_not, contains_name_iff] at used
      · rw [Bool.not_eq_true', ← Bool.not_eq_true, contains_name_iff] at absent
        exact absent ⟨segment, member, named⟩
    | none =>
      obtain ⟨parts, rfl⟩ := exists_parts_of_known known
      refine ⟨_, .filled rfl fun field => ?_⟩
      have used := List.find?_eq_none.mp missing field (Field.mem_all field)
      rw [Bool.not_eq_true, Bool.not_eq_false', contains_name_iff] at used
      obtain ⟨segment, member, named⟩ := used
      obtain ⟨part, among, rfl⟩ := List.mem_map.mp member
      have same : part.2 = field := Option.some.inj <| by
        rw [← Field.ofName?_name part.2, ← Field.ofName?_eq_some_iff.mpr named]
        rfl
      exact ⟨part.1, same ▸ among⟩

theorem fill_eq_iff {template : String} {segments : List Segment} {tail : List Char}
    (cut : Cut template.toList segments tail) (values : Values)
    (result : Except TemplateError String) :
    fill template values = result ↔ Filling values.value segments tail result := by
  refine ⟨fun filled => ?_, fill_of_filling cut⟩
  obtain ⟨other, filling⟩ := exists_filling values.value segments tail
  rwa [← filled, fill_of_filling cut filling]

/-- Values that fill every field alike make one wrapper. -/
theorem source_congr {values values' : Values} (same : values.value = values'.value) :
    source values = source values' := by
  obtain ⟨segments, tail, cut⟩ := exists_cut template.toList
  have filling := (fill_eq_iff cut values' _).mp rfl
  rw [← same] at filling
  exact (fill_eq_iff cut values _).mpr filling

/-- An error is one for all values. -/
theorem Filling.error_of_values {value value' : Field → List Char} {segments : List Segment}
    {tail : List Char} {error : TemplateError}
    (filling : Filling value segments tail (.error error)) :
    Filling value' segments tail (.error error) := by
  cases filling with
  | unknown split known unknown => exact .unknown split known unknown
  | unused known split used unused => exact .unused known split used unused

/-- A template can be cut at its placeholders in one way only. The cut decides whether it can be
filled, whatever the values are, and which error there is if not; the values only stand where the
placeholders stood. The template of the wrapper can always be filled. -/
theorem filling_fill :
    (∀ template : String, ∃ segments tail, Cut template.toList segments tail
      ∧ (∀ others last, Cut template.toList others last → others = segments ∧ last = tail)
      ∧ (∀ values result,
          fill template values = result ↔ Filling values.value segments tail result)
      ∧ ∀ values others error,
          fill template values = .error error → fill template others = .error error)
    ∧ ∀ values, ∃ text, source values = .ok text := by
  refine ⟨fun template => ?_, exists_source⟩
  obtain ⟨segments, tail, cut⟩ := exists_cut template.toList
  refine ⟨segments, tail, cut, fun _ _ other => other.unique cut, fill_eq_iff cut, ?_⟩
  intro values others error fails
  have filling := (fill_eq_iff cut values _).mp fails
  exact (fill_eq_iff cut others _).mpr filling.error_of_values

end CheckedBuild.Wrapper
