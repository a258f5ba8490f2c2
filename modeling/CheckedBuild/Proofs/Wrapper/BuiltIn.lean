import CheckedBuild.Proofs.Wrapper.Literals

/-!
# The built-in template

The template of the wrapper uses every field and no other placeholder, so the wrapper can be made
for all values. Each text in it has a literal of its own, which it cannot end. The lines of the
template are taken apart into characters first; the checks themselves are computations.
-/

namespace CheckedBuild.Wrapper

open Text

theorem ofList_cons_eq_map {line : List Char} {rest : List String} {lines : List (List Char)}
    (h : rest = lines.map String.ofList) :
    String.ofList line :: rest = (line :: lines).map String.ofList := by
  rw [h, List.map_cons]

/-- Lines with a line feed after each, as one list of characters. -/
theorem toList_join_lines (lines : List (List Char)) :
    (String.join ((lines.map String.ofList).map (· ++ "\n"))).toList
      = lines.flatMap (· ++ ['\n']) := by
  simp [String.toList_join, List.flatMap_map, Function.comp_def]

/-- Without the strings between, the lines of the template can be searched for placeholders. -/
theorem exists_templateLines : ∃ lines : List (List Char),
    templateLines = lines.map String.ofList
      ∧ fault? (pieces (lines.flatMap (· ++ ['\n']))) = none
      ∧ wellPlaced .code false (pieces (lines.flatMap (· ++ ['\n']))) = true := by
  apply Exists.intro
  apply And.intro
  · dsimp only [templateLines]
    repeat' (first | apply ofList_cons_eq_map | exact List.map_nil.symm)
  · decide +kernel

theorem fault?_template : fault? (pieces template.toList) = none := by
  obtain ⟨lines, same, fits, -⟩ := exists_templateLines
  rw [template, same, toList_join_lines]
  exact fits

theorem wellPlaced_template : wellPlaced .code false (pieces template.toList) = true := by
  obtain ⟨lines, same, -, placed⟩ := exists_templateLines
  rw [template, same, toList_join_lines]
  exact placed

theorem fill_of_fits {template : String} (fits : fault? (pieces template.toList) = none)
    (values : Values) :
    fill template values
      = .ok (String.ofList ((pieces template.toList).flatMap (Piece.filled values))) := by
  simp [fill, fits]

theorem exists_source (values : Values) : ∃ text, source values = .ok text :=
  ⟨_, fill_of_fits fault?_template values⟩

/-- A template without fault uses every field. -/
theorem mem_of_fits {ps : List Piece} (fits : fault? ps = none) (field : Field) :
    .placeholder field.name.toList ∈ ps := by
  unfold fault? at fits
  split at fits
  · cases fits
  · have used := List.find?_eq_none.mp (Option.map_eq_none_iff.mp fits) field (Field.mem_all field)
    rw [Bool.not_eq_true, Bool.not_eq_false', List.contains_iff_mem] at used
    obtain ⟨piece, member, named⟩ := List.mem_filterMap.mp used
    cases piece with
    | character c => cases named
    | placeholder name =>
      cases named
      exact member

/-! ## Texts in literals -/

/-- The literal of a text opens in the wrapper where the pieces in front of the text open it, and
closes where the pieces behind it close it. -/
def Framed (values : Values) (text : List Char) (front back : List Piece) : Prop :=
  ∃ (before : List Piece) (lead : List Char) (after : List Piece) (whole : String),
    front = before ++ .character '"' :: lead.map .character ∧ back = .character '"' :: after
      ∧ source values = .ok whole
      ∧ Encloses whole.toList (rendered values before) lead text (rendered values after)

theorem framed_of_split {values : Values} {field : Field} {text : List Char}
    {front back : List Piece} (found : values.text? field = some text)
    (split : pieces template.toList = front ++ .placeholder field.name.toList :: back) :
    Framed values text front back := by
  obtain ⟨isText, written⟩ := Values.value_of_text? found
  have placed := wellPlaced_template
  rw [split] at placed
  obtain ⟨before, lead, after, rfl, rfl, opens, plain⟩ :=
    exists_literal_of_wellPlaced values placed isText
  have whole : rendered values (pieces template.toList)
      = rendered values before ++ '"' :: (lead ++ literal text ++ '"' :: rendered values after) := by
    rw [split]
    simp [written]
  refine ⟨before, lead, after, _, rfl, rfl, fill_of_fits fault?_template values, ?_, opens, ?_⟩
  · rw [String.toList_ofList]
    exact whole
  · intro suffix
    rw [List.append_assoc, readLiteral_of_isPlain plain, (denotes_literal text).read]
    rfl

/-- In a literal every text is written so that it is read back, cannot end the literal and has no
control characters; different texts are written differently. In the wrapper such a literal opens
where the template opens it, and closes where the template closes it. -/
theorem literal_encloses :
    (∀ s, Denotes (literal s) s) ∧ Function.Injective literal
      ∧ ∀ (values : Values) (field : Field) (text : List Char) (front back : List Piece),
        values.text? field = some text →
        pieces template.toList = front ++ .placeholder field.name.toList :: back →
        Framed values text front back := by
  refine ⟨denotes_literal, ?_, fun values field text front back => framed_of_split⟩
  intro s t same
  have other := denotes_literal t
  rw [← same] at other
  exact (denotes_literal s).unique other

/-- A path and a file whose names are full of what is special in a literal. -/
def awkward : Values where
  config :=
    { Config.default ⟨0, false, "", "", "", ""⟩ with suppressions := "\\\\" }
  major := 14
  minor := 0
  driverPath := "/opt/\x017\"\n\\"
  archive := none

theorem literal_encloses_of_awkward :
    ∃ front back, awkward.text? .path = some "/opt/\x017\"\n\\".toList
      ∧ pieces template.toList = front ++ .placeholder Field.path.name.toList :: back
      ∧ Framed awkward "/opt/\x017\"\n\\".toList front back := by
  obtain ⟨front, back, split⟩ := List.append_of_mem (mem_of_fits fault?_template .path)
  exact ⟨front, back, rfl, split, literal_encloses.2.2 awkward .path _ front back rfl split⟩

end CheckedBuild.Wrapper
