import Mathlib.Data.List.TakeWhile
import CheckedBuild.Embedding.Discovery
import CheckedBuild.Proofs.Text.Lines
import CheckedBuild.Proofs.Text.Utf8

/-!
# Which lines include a file

The lines that include a local file are described by what they are made of, and reading a line tells
exactly these from all others. A carriage return at the end of a line makes no difference, and a
line feed is never part of a character that is still unfinished, so the includes of a source that is
cut at a line feed are those of its parts. Comments are not looked for: a directive inside of one
counts.
-/

namespace CheckedBuild

open Text

/-- The text consists of blanks. -/
def Blank (s : List Char) : Prop := ∀ c ∈ s, isBlank c = true

/-- A line that includes a spelling: `#`, `include` and the spelling in quotes, with blanks before
each of them and anything behind. -/
inductive Includes (spelling : List Char) : List Char → Prop
  | directive {indent gap space : List Char} (indented : Blank indent) (parted : Blank gap)
      (spaced : Blank space) (quoted : '"' ∉ spelling) (rest : List Char) :
      Includes spelling
        (indent ++ '#' :: (gap ++ ("include".toList ++ (space ++ '"' :: (spelling ++ '"' :: rest)))))

/-- The spellings that lines include, one for each line that includes any, in order. -/
inductive Collected : List (List Char) → List (List Char) → Prop
  | done : Collected [] []
  | includes {line spelling : List Char} {lines spellings : List (List Char)}
      (directive : Includes spelling line) (rest : Collected lines spellings) :
      Collected (line :: lines) (spelling :: spellings)
  | other {line : List Char} {lines spellings : List (List Char)}
      (unrelated : ∀ spelling, ¬ Includes spelling line) (rest : Collected lines spellings) :
      Collected (line :: lines) spellings

/-! ## One line -/

theorem trimStart_append {blanks : List Char} (blank : Blank blanks) {c : Char}
    (visible : isBlank c = false) (rest : List Char) :
    trimStart (blanks ++ c :: rest) = c :: rest := by
  rw [trimStart, List.dropWhile_append_of_pos blank, List.dropWhile_cons_of_neg (by simp [visible])]

theorem exists_trimStart (s : List Char) : ∃ blanks, Blank blanks ∧ s = blanks ++ trimStart s :=
  ⟨s.takeWhile isBlank, fun _ => List.mem_takeWhile_imp, List.takeWhile_append_dropWhile.symm⟩

/-- The first quote ends a quoted text. -/
theorem takeWhile_quoted {spelling : List Char} (quoted : '"' ∉ spelling) (rest : List Char) :
    (spelling ++ '"' :: rest).takeWhile (fun c => decide (c ≠ '"')) = spelling := by
  have plain : ∀ c ∈ spelling, decide (c ≠ '"') = true := fun c member =>
    decide_eq_true fun same => quoted (same ▸ member)
  rw [List.takeWhile_append_of_pos plain, List.takeWhile_cons_of_neg (by decide), List.append_nil]

theorem quoted?_eq_some_iff {s spelling : List Char} :
    quoted? s = some spelling ↔ '"' ∉ spelling ∧ ∃ rest, s = '"' :: (spelling ++ '"' :: rest) := by
  constructor
  · intro read
    unfold quoted? at read
    split at read
    · next behind =>
      split_ifs at read with closed
      obtain ⟨before, rest, rfl, quoted⟩ := List.eq_append_cons_of_mem closed
      rw [takeWhile_quoted quoted] at read
      obtain rfl := Option.some.inj read
      exact ⟨quoted, rest, rfl⟩
    · cases read
  · rintro ⟨quoted, rest, rfl⟩
    rw [quoted?, if_pos (by simp), takeWhile_quoted quoted]

/-- Reading a line finds the spelling that it includes, and none in any other line. -/
theorem includeOfLine?_eq_some_iff {line spelling : List Char} :
    includeOfLine? line = some spelling ↔ Includes spelling line := by
  constructor
  · intro read
    obtain ⟨afterHash, hash, read⟩ := Option.bind_eq_some_iff.mp read
    obtain ⟨afterWord, word, read⟩ := Option.bind_eq_some_iff.mp read
    obtain ⟨quoted, rest, quotes⟩ := quoted?_eq_some_iff.mp read
    rw [after?_eq_some_iff] at hash word
    obtain ⟨indent, indented, whole⟩ := exists_trimStart line
    obtain ⟨gap, parted, behindHash⟩ := exists_trimStart afterHash
    obtain ⟨space, spaced, behindWord⟩ := exists_trimStart afterWord
    rw [whole, hash, behindHash, word, behindWord, quotes]
    exact .directive indented parted spaced quoted rest
  · rintro ⟨indented, parted, spaced, quoted, rest⟩
    refine Option.bind_eq_some_iff.mpr
      ⟨_, after?_eq_some_iff.mpr (trimStart_append indented (by decide) _), ?_⟩
    refine Option.bind_eq_some_iff.mpr
      ⟨_, after?_eq_some_iff.mpr (trimStart_append parted (by decide) _), ?_⟩
    rw [trimStart_append spaced (by decide)]
    exact quoted?_eq_some_iff.mpr ⟨quoted, rest, rfl⟩

theorem includeOfLine?_eq_none_iff {line : List Char} :
    includeOfLine? line = none ↔ ∀ spelling, ¬ Includes spelling line := by
  simp only [Option.eq_none_iff_forall_ne_some, ne_eq, includeOfLine?_eq_some_iff]

theorem Includes.append {spelling line : List Char} (includes : Includes spelling line)
    (more : List Char) : Includes spelling (line ++ more) := by
  obtain ⟨indented, parted, spaced, quoted, rest⟩ := includes
  simpa using Includes.directive indented parted spaced quoted (rest ++ more)

/-- A directive is complete with its closing quote, so another last character can be left out. -/
theorem Includes.of_concat {spelling line : List Char} {last : Char}
    (includes : Includes spelling (line ++ [last])) (other : last ≠ '"') :
    Includes spelling line := by
  generalize whole : line ++ [last] = longer at includes
  obtain @⟨indent, gap, space, indented, parted, spaced, quoted, rest⟩ := includes
  rcases List.eq_nil_or_concat rest with rfl | ⟨front, final, rfl⟩
  · have split : line ++ [last] = (indent ++ '#' :: (gap ++ ("include".toList
        ++ (space ++ '"' :: spelling)))) ++ ['"'] := by simpa using whole
    exact absurd (List.singleton_inj.mp (List.append_inj' split rfl).2) other
  · have split : line ++ [last] = (indent ++ '#' :: (gap ++ ("include".toList
        ++ (space ++ '"' :: (spelling ++ '"' :: front))))) ++ [final] := by simpa using whole
    rw [(List.append_inj' split rfl).1]
    exact .directive indented parted spaced quoted front

theorem includeOfLine?_dropReturn (line : List Char) :
    includeOfLine? (dropReturn line) = includeOfLine? line := by
  refine Option.ext fun spelling => ?_
  rw [includeOfLine?_eq_some_iff, includeOfLine?_eq_some_iff]
  by_cases ends : line.getLast? = some '\r'
  · obtain ⟨front, rfl⟩ := List.getLast?_eq_some_iff.mp ends
    rw [dropReturn, if_pos ends, List.dropLast_concat]
    exact ⟨fun includes => includes.append _, fun includes => includes.of_concat (by decide)⟩
  · rw [dropReturn, if_neg ends]

/-! ## All lines -/

theorem collected_iff {lines spellings : List (List Char)} :
    Collected lines spellings ↔ lines.filterMap includeOfLine? = spellings := by
  constructor
  · intro collected
    induction collected with
    | done => rfl
    | includes directive rest ih =>
      rw [List.filterMap_cons_some (includeOfLine?_eq_some_iff.mpr directive), ih]
    | other unrelated rest ih =>
      rw [List.filterMap_cons_none (includeOfLine?_eq_none_iff.mpr unrelated), ih]
  · rintro rfl
    induction lines with
    | nil => exact .done
    | cons line lines ih =>
      cases read : includeOfLine? line with
      | none =>
        rw [List.filterMap_cons_none read]
        exact .other (includeOfLine?_eq_none_iff.mp read) ih
      | some spelling =>
        rw [List.filterMap_cons_some read]
        exact .includes (includeOfLine?_eq_some_iff.mp read) ih

theorem quotedIncludes_eq_map (source : Bytes) :
    quotedIncludes source
      = ((lines (Utf8.decode source)).filterMap includeOfLine?).map String.ofList :=
  List.map_filterMap.symm

/-- Lines include what the pieces between line feeds do: neither a carriage return nor an empty
last piece matters. -/
theorem filterMap_lines (s : List Char) :
    (lines s).filterMap includeOfLine? = (pieces '\n' s).filterMap includeOfLine? := by
  obtain ⟨front, last, split⟩ : ∃ front last, pieces '\n' s = front ++ [last] :=
    ⟨_, _, (List.dropLast_concat_getLast (pieces_ne_nil '\n' s)).symm⟩
  have same : includeOfLine? ∘ dropReturn = includeOfLine? := funext includeOfLine?_dropReturn
  have ended : (front.map dropReturn).filterMap includeOfLine?
      = front.filterMap includeOfLine? := by
    rw [List.filterMap_map, same]
  have left : ([last].filter (· ≠ [])).filterMap includeOfLine?
      = [last].filterMap includeOfLine? := by
    by_cases nothing : last = []
    · subst nothing
      decide
    · rw [List.filter_cons_of_pos (by simpa using nothing), List.filter_nil]
  rw [lines, split, List.dropLast_concat, List.getLast?_concat, Option.toList_some,
    List.filterMap_append, List.filterMap_append, ended, left]

/-- The includes of a source are the spellings of its lines, one for each line that includes any and
in their order. A source that is cut at a line feed, whatever its bytes are, includes what its two
parts do. -/
theorem quotedIncludes_collected :
    (∀ (source : Bytes) (found : List String), quotedIncludes source = found ↔
        Collected (lines (Utf8.decode source)) (found.map String.toList))
      ∧ ∀ first second : Bytes,
        quotedIncludes (first ++ 0x0A :: second) = quotedIncludes first ++ quotedIncludes second := by
  constructor
  · intro source found
    rw [collected_iff, quotedIncludes_eq_map]
    constructor
    · rintro rfl
      simp
    · intro same
      rw [same]
      simp
  · intro first second
    have cut : Utf8.decode (first ++ 0x0A :: second)
        = Utf8.decode first ++ '\n' :: Utf8.decode second :=
      Utf8.decode_append_ascii (by decide) first second
    rw [quotedIncludes_eq_map, quotedIncludes_eq_map, quotedIncludes_eq_map, filterMap_lines,
      filterMap_lines, filterMap_lines, cut, pieces_append_cons, List.filterMap_append,
      List.map_append]

end CheckedBuild
