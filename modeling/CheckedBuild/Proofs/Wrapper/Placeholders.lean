import CheckedBuild.Wrapper.Render

/-!
# Placeholders of a template

A placeholder is told by its spelling alone. Where several can be read at one place the one with
the shortest name counts, and of several places the leftmost. A text can be cut at its placeholders
in one way only, and the pieces of a template are those of the cut.
-/

namespace CheckedBuild.Wrapper

open Text

/-- What a placeholder begins with. -/
def opening : List Char := "__DCC_".toList

/-- What a placeholder ends with. -/
def closing : List Char := "__".toList

/-- How the placeholder with a name is spelled. -/
def spelling (name : List Char) : List Char := opening ++ name ++ closing

/-- A placeholder with this name can be read at the start of the text. -/
structure Reads (text name : List Char) : Prop where
  nonempty : name ≠ []
  allowed : ∀ c ∈ name, isNameCharacter c = true
  begins : spelling name <+: text

/-- The placeholder at the start of the text: no other that can be read there has a shorter name. -/
structure Begins (text name : List Char) : Prop extends Reads text name where
  shortest : ∀ other, Reads text other → name.length ≤ other.length

/-- No placeholder begins in the first part of the text. -/
def Unmarked (gap rest : List Char) : Prop :=
  ∀ before after, before ++ after = gap → after ≠ [] → ∀ name, ¬ Begins (after ++ rest) name

/-- A text between two placeholders, and the name of the second. -/
abbrev Segment := List Char × List Char

/-- A text is cut at its placeholders from the left: each comes with the text since the one before
it, and what is left behind the last one is the tail. -/
inductive Cut : List Char → List Segment → List Char → Prop
  | last {text : List Char} (unmarked : Unmarked text []) : Cut text [] text
  | next {gap name rest tail : List Char} {segments : List Segment}
      (unmarked : Unmarked gap (spelling name ++ rest))
      (begins : Begins (spelling name ++ rest) name)
      (others : Cut rest segments tail) :
      Cut (gap ++ (spelling name ++ rest)) ((gap, name) :: segments) tail

/-! ## One placeholder -/

theorem shortestName?_cons (c : Char) (rest : List Char) :
    shortestName? (c :: rest) =
      if isNameCharacter c then
        if closing.isPrefixOf rest then some [c] else (shortestName? rest).map (c :: ·)
      else none := rfl

theorem placeholder?_eq (text : List Char) :
    placeholder? text = after? opening text >>= shortestName? := rfl

theorem spelling_append (name more : List Char) :
    spelling name ++ more = opening ++ (name ++ closing ++ more) := by
  simp only [spelling, List.append_assoc]

theorem reads_iff {s name : List Char} :
    Reads (opening ++ s) name ↔
      name ≠ [] ∧ (∀ c ∈ name, isNameCharacter c = true) ∧ name ++ closing <+: s := by
  have same : spelling name <+: opening ++ s ↔ name ++ closing <+: s := by
    rw [spelling, List.append_assoc]
    exact List.prefix_append_right_inj opening
  constructor
  · rintro ⟨nonempty, allowed, begins⟩
    exact ⟨nonempty, allowed, same.mp begins⟩
  · rintro ⟨nonempty, allowed, begins⟩
    exact ⟨nonempty, allowed, same.mpr begins⟩

theorem reads_of_shortestName? {s name : List Char} (found : shortestName? s = some name) :
    Reads (opening ++ s) name := by
  rw [reads_iff]
  induction s generalizing name with
  | nil => cases found
  | cons c rest ih =>
    rw [shortestName?_cons] at found
    by_cases allowed : isNameCharacter c = true
    · rw [if_pos allowed] at found
      by_cases ends : closing.isPrefixOf rest = true
      · rw [if_pos ends, Option.some.injEq] at found
        subst found
        have more : closing <+: rest := List.isPrefixOf_iff_prefix.mp ends
        exact ⟨by simp, by simpa using allowed, by simpa using more⟩
      · rw [if_neg ends, Option.map_eq_some_iff] at found
        obtain ⟨others, found, rfl⟩ := found
        obtain ⟨-, allAllowed, begins⟩ := ih found
        exact ⟨by simp, List.forall_mem_cons.mpr ⟨allowed, allAllowed⟩, by simpa using begins⟩
    · rw [if_neg allowed] at found
      cases found

/-- A name that can be read is found, or a shorter one before it. -/
theorem exists_shortestName? {s name : List Char} (reads : Reads (opening ++ s) name) :
    ∃ found, shortestName? s = some found ∧ found.length ≤ name.length := by
  obtain ⟨nonempty, allowed, begins⟩ := reads_iff.mp reads
  clear reads
  induction name generalizing s with
  | nil => exact absurd rfl nonempty
  | cons c others ih =>
    obtain ⟨more, rfl⟩ := begins
    obtain ⟨first, allAllowed⟩ := List.forall_mem_cons.mp allowed
    rw [List.cons_append, List.cons_append, shortestName?_cons, if_pos first]
    by_cases ends : closing.isPrefixOf (others ++ closing ++ more) = true
    · rw [if_pos ends]
      exact ⟨[c], rfl, by simp⟩
    · rw [if_neg ends]
      have further : others ≠ [] := by
        rintro rfl
        exact ends (List.isPrefixOf_iff_prefix.mpr (List.prefix_append _ _))
      obtain ⟨found, isFound, short⟩ := ih further allAllowed (List.prefix_append _ _)
      exact ⟨c :: found, by rw [isFound]; rfl, by simpa using short⟩

theorem placeholder?_eq_some_iff {text name : List Char} :
    placeholder? text = some name ↔ Begins text name := by
  constructor
  · intro found
    obtain ⟨rest, opened, named⟩ := Option.bind_eq_some_iff.mp found
    obtain rfl := after?_eq_some_iff.mp opened
    refine ⟨reads_of_shortestName? named, fun other reads => ?_⟩
    obtain ⟨shortest, isShortest, short⟩ := exists_shortestName? reads
    rw [named, Option.some.injEq] at isShortest
    exact isShortest ▸ short
  · intro begins
    obtain ⟨more, whole⟩ := begins.begins
    obtain ⟨rest, rfl⟩ : ∃ rest, text = opening ++ rest :=
      ⟨_, whole.symm.trans (spelling_append name more)⟩
    obtain ⟨found, isFound, short⟩ := exists_shortestName? begins.toReads
    -- what is found is no longer than the placeholder, so it is the placeholder
    have reads := reads_of_shortestName? isFound
    have same : found.length = name.length :=
      Nat.le_antisymm short (begins.shortest found reads)
    obtain ⟨-, -, one⟩ := reads_iff.mp reads
    obtain ⟨-, -, other⟩ := reads_iff.mp begins.toReads
    have equal : found = name :=
      (List.prefix_of_prefix_length_le ((List.prefix_append _ _).trans one)
        ((List.prefix_append _ _).trans other) (Nat.le_of_eq same)).eq_of_length same
    have opened : after? opening (opening ++ rest) = some rest :=
      after?_eq_some_iff.mpr rfl
    rw [placeholder?_eq, opened, ← equal]
    exact isFound

theorem placeholder?_eq_none_iff {text : List Char} :
    placeholder? text = none ↔ ∀ name, ¬ Begins text name := by
  rw [Option.eq_none_iff_forall_ne_some]
  exact forall_congr' fun name => not_congr placeholder?_eq_some_iff

/-! ## All placeholders -/

theorem piecesAfter_append (skipped text : List Char) :
    piecesAfter skipped.length (skipped ++ text) = pieces text := by
  induction skipped with
  | nil => rfl
  | cons c rest ih => exact ih

theorem pieces_spelling {name rest : List Char} (begins : Begins (spelling name ++ rest) name) :
    pieces (spelling name ++ rest) = .placeholder name :: pieces rest := by
  have found := placeholder?_eq_some_iff.mpr begins
  have whole : spelling name ++ rest = '_' :: (opening.tail ++ name ++ closing ++ rest) := rfl
  have length : name.length + 7 = (opening.tail ++ name ++ closing).length := by
    rw [List.length_append, List.length_append, show opening.tail.length = 5 from rfl,
      show closing.length = 2 from rfl]
    omega
  rw [whole] at found ⊢
  simp only [pieces, piecesAfter, found]
  rw [length, piecesAfter_append, pieces]

theorem Unmarked.tail {c : Char} {gap rest : List Char} (unmarked : Unmarked (c :: gap) rest) :
    Unmarked gap rest :=
  fun before after split => unmarked (c :: before) after (by rw [List.cons_append, split])

theorem Unmarked.cons {c : Char} {gap rest : List Char} (unmarked : Unmarked gap rest)
    (none : ∀ name, ¬ Begins (c :: gap ++ rest) name) : Unmarked (c :: gap) rest := by
  intro before after split nonempty
  cases before with
  | nil =>
    obtain rfl : after = c :: gap := split
    exact none
  | cons first others =>
    rw [List.cons_append, List.cons.injEq] at split
    exact unmarked others after split.2 nonempty

theorem unmarked_nil (rest : List Char) : Unmarked [] rest :=
  fun _ _ split nonempty => absurd (List.append_eq_nil_iff.mp split).2 nonempty

theorem pieces_append_of_unmarked {gap rest : List Char} (unmarked : Unmarked gap rest) :
    pieces (gap ++ rest) = gap.map .character ++ pieces rest := by
  induction gap with
  | nil => rfl
  | cons c gap ih =>
    have none := placeholder?_eq_none_iff.mpr (unmarked [] (c :: gap) rfl (by simp))
    rw [List.cons_append] at none ⊢
    rw [pieces, piecesAfter, none]
    exact congrArg (Piece.character c :: ·) (ih unmarked.tail)

/-- The pieces of a text that is cut so. -/
def piecesOf (segments : List Segment) (tail : List Char) : List Piece :=
  segments.flatMap (fun (gap, name) => gap.map .character ++ [.placeholder name])
    ++ tail.map .character

theorem piecesOf_cons (segment : Segment) (segments : List Segment) (tail : List Char) :
    piecesOf (segment :: segments) tail
      = segment.1.map .character ++ .placeholder segment.2 :: piecesOf segments tail := by
  simp [piecesOf]

theorem pieces_of_cut {text tail : List Char} {segments : List Segment}
    (cut : Cut text segments tail) : pieces text = piecesOf segments tail := by
  induction cut with
  | @last text unmarked =>
    have whole := pieces_append_of_unmarked unmarked
    rw [List.append_nil] at whole
    rw [whole]
    exact List.append_nil _
  | next unmarked begins others ih =>
    rw [pieces_append_of_unmarked unmarked, pieces_spelling begins, ih, piecesOf_cons]

/-- Characters before a placeholder tell where it stands. -/
theorem character_append_placeholder_inj {gap gap' name name' : List Char} {rest rest' : List Piece}
    (same : gap.map Piece.character ++ .placeholder name :: rest
      = gap'.map Piece.character ++ .placeholder name' :: rest') :
    gap = gap' ∧ name = name' ∧ rest = rest' := by
  induction gap generalizing gap' with
  | nil =>
    cases gap' with
    | nil => simpa using same
    | cons c gap' => simp at same
  | cons c gap ih =>
    cases gap' with
    | nil => simp at same
    | cons c' gap' =>
      simp only [List.map_cons, List.cons_append, List.cons.injEq, Piece.character.injEq] at same
      obtain ⟨rfl, rest⟩ := same
      obtain ⟨rfl, others⟩ := ih rest
      exact ⟨rfl, others⟩

theorem character_ne_placeholder_append {tail gap name : List Char} {rest : List Piece} :
    tail.map Piece.character ≠ gap.map Piece.character ++ .placeholder name :: rest := by
  intro same
  have member : Piece.placeholder name ∈ tail.map Piece.character := by simp [same]
  simp at member

theorem piecesOf_inj {segments segments' : List Segment} {tail tail' : List Char}
    (same : piecesOf segments tail = piecesOf segments' tail') :
    segments = segments' ∧ tail = tail' := by
  induction segments generalizing segments' with
  | nil =>
    cases segments' with
    | nil =>
      exact ⟨rfl, (List.map_inj_right fun _ _ => Piece.character.inj).mp same⟩
    | cons segment others =>
      rw [piecesOf_cons] at same
      exact absurd same character_ne_placeholder_append
  | cons segment segments ih =>
    cases segments' with
    | nil =>
      rw [piecesOf_cons] at same
      exact absurd same.symm character_ne_placeholder_append
    | cons segment' others =>
      rw [piecesOf_cons, piecesOf_cons] at same
      obtain ⟨gaps, names, rest⟩ := character_append_placeholder_inj same
      obtain ⟨rfl, rfl⟩ := ih rest
      exact ⟨by rw [Prod.ext gaps names], rfl⟩

/-- A text can be cut at its placeholders in one way only. -/
theorem Cut.unique {text tail tail' : List Char} {segments segments' : List Segment}
    (cut : Cut text segments tail) (other : Cut text segments' tail') :
    segments = segments' ∧ tail = tail' :=
  piecesOf_inj ((pieces_of_cut cut).symm.trans (pieces_of_cut other))

/-- A character at which no placeholder begins goes to the text behind it. -/
theorem Cut.exists_cons {c : Char} {text tail : List Char} {segments : List Segment}
    (cut : Cut text segments tail) (none : ∀ name, ¬ Begins (c :: text) name) :
    ∃ segments' tail', Cut (c :: text) segments' tail' := by
  cases cut with
  | last unmarked => exact ⟨[], c :: text, .last (unmarked.cons (by simpa using none))⟩
  | next unmarked begins others => exact ⟨_, _, .next (unmarked.cons none) begins others⟩

/-- Every text can be cut at its placeholders. -/
theorem exists_cut (text : List Char) : ∃ segments tail, Cut text segments tail := by
  induction length : text.length using Nat.strongRecOn generalizing text with
  | ind n ih =>
    subst length
    cases text with
    | nil => exact ⟨[], [], .last (unmarked_nil [])⟩
    | cons c rest =>
      cases found : placeholder? (c :: rest) with
      | none =>
        obtain ⟨segments, tail, cut⟩ := ih rest.length (Nat.lt_succ_self _) rest rfl
        exact cut.exists_cons (placeholder?_eq_none_iff.mp found)
      | some name =>
        have begins := placeholder?_eq_some_iff.mp found
        obtain ⟨more, whole⟩ := begins.begins
        rw [← whole] at begins ⊢
        have shorter : more.length < (spelling name ++ more).length := by
          rw [spelling, List.length_append, List.length_append, List.length_append,
            show opening.length = 6 from rfl]
          omega
        rw [← whole] at ih
        obtain ⟨segments, tail, cut⟩ := ih more.length shorter more rfl
        exact ⟨([], name) :: segments, tail, .next (unmarked_nil _) begins cut⟩

end CheckedBuild.Wrapper
