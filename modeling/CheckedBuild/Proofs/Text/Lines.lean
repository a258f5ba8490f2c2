import Mathlib.Data.List.Flatten
import CheckedBuild.Text.Pieces

/-!
# Pieces, lines and their separators

Splitting at a separator and joining with it undo each other. What stands before a separator in
the first part of a text is a piece of the whole text too, however the text goes on. A text of lines
with a line feed after each is read as those lines, but a carriage return at the end of a line is
lost: it is taken for a part of the line feed.
-/

namespace CheckedBuild.Text

theorem pieces_cons (separator c : Char) (rest : List Char) :
    pieces separator (c :: rest) =
      if c = separator then [] :: pieces separator rest
      else (c :: (pieces separator rest).headD []) :: (pieces separator rest).tail := rfl

theorem pieces_eq_splitOn (separator : Char) (s : List Char) :
    pieces separator s = s.splitOn separator := by
  induction s with
  | nil => rfl
  | cons c rest ih =>
    rw [pieces_cons, ih, List.splitOn_cons_eq_if_modifyHead]
    simp only [beq_iff_eq]
    cases split : rest.splitOn separator with
    | nil => exact absurd split (List.splitOn_ne_nil separator rest)
    | cons piece pieces => rfl

theorem pieces_ne_nil (separator : Char) (s : List Char) : pieces separator s ≠ [] := by
  rw [pieces_eq_splitOn]
  exact List.splitOn_ne_nil separator s

@[simp] theorem joinWith_singleton (separator part : List Char) :
    joinWith separator [part] = part :=
  List.intercalate_singleton

theorem joinWith_cons {parts : List (List Char)} (more : parts ≠ []) (separator part : List Char) :
    joinWith separator (part :: parts) = part ++ separator ++ joinWith separator parts :=
  List.intercalate_cons_of_ne_nil more

theorem joinWith_append {first second : List (List Char)} (one : first ≠ []) (other : second ≠ [])
    (separator : List Char) :
    joinWith separator (first ++ second)
      = joinWith separator first ++ separator ++ joinWith separator second := by
  induction first with
  | nil => exact absurd rfl one
  | cons part rest ih =>
    rw [List.cons_append, joinWith_cons (by simp [other])]
    by_cases more : rest = []
    · simp [more]
    · rw [ih more, joinWith_cons more]
      simp only [List.append_assoc]

theorem joinWith_pieces (separator : Char) (s : List Char) :
    joinWith [separator] (pieces separator s) = s := by
  rw [pieces_eq_splitOn]
  exact List.intercalate_splitOn separator

theorem pieces_joinWith {separator : Char} {parts : List (List Char)} (some : parts ≠ [])
    (whole : ∀ part ∈ parts, separator ∉ part) :
    pieces separator (joinWith [separator] parts) = parts := by
  rw [pieces_eq_splitOn]
  exact List.splitOn_intercalate separator whole some

theorem pieces_of_notMem {separator : Char} {s : List Char} (whole : separator ∉ s) :
    pieces separator s = [s] := by
  have split : pieces separator (joinWith [separator] [s]) = [s] :=
    pieces_joinWith (by simp) (by simpa using whole)
  rwa [joinWith_singleton] at split

theorem separator_notMem_of_mem_pieces {separator : Char} {s piece : List Char}
    (member : piece ∈ pieces separator s) : separator ∉ piece := by
  induction s generalizing piece with
  | nil => simp [List.mem_singleton.mp member]
  | cons c rest ih =>
    rw [pieces_cons] at member
    cases split : pieces separator rest with
    | nil => exact absurd split (pieces_ne_nil separator rest)
    | cons first others =>
      rw [split] at member ih
      by_cases separates : c = separator
      · rw [if_pos separates] at member
        rcases List.mem_cons.mp member with rfl | later
        · exact List.not_mem_nil
        · exact ih later
      · rw [if_neg separates] at member
        rcases List.mem_cons.mp member with rfl | later
        · rw [List.headD_cons, List.mem_cons, not_or]
          exact ⟨Ne.symm separates, ih List.mem_cons_self⟩
        · exact ih (List.mem_cons_of_mem _ later)

/-- The pieces on both sides of a separator are the pieces of the whole. -/
theorem pieces_append_cons (separator : Char) (s more : List Char) :
    pieces separator (s ++ separator :: more) = pieces separator s ++ pieces separator more := by
  induction s with
  | nil => rw [List.nil_append, pieces_cons, if_pos rfl]; rfl
  | cons c s ih =>
    rw [List.cons_append, pieces_cons, pieces_cons, ih]
    by_cases separates : c = separator
    · rw [if_pos separates, if_pos separates, List.cons_append]
    · rw [if_neg separates, if_neg separates]
      cases split : pieces separator s with
      | nil => exact absurd split (pieces_ne_nil separator s)
      | cons first others => rfl

/-- Going on with a text changes no piece of it but the last. -/
theorem exists_pieces_append (separator : Char) (s more : List Char) :
    ∃ last rest, pieces separator (s ++ more) = (pieces separator s).dropLast ++ last :: rest := by
  induction s with
  | nil => exact List.exists_cons_of_ne_nil (pieces_ne_nil separator more)
  | cons c s ih =>
    obtain ⟨last, rest, same⟩ := ih
    rw [List.cons_append, pieces_cons, pieces_cons, same]
    by_cases separates : c = separator
    · refine ⟨last, rest, ?_⟩
      rw [if_pos separates, if_pos separates, List.dropLast_cons_of_ne_nil (pieces_ne_nil _ _)]
      rfl
    · rw [if_neg separates, if_neg separates]
      cases split : pieces separator s with
      | nil => exact absurd split (pieces_ne_nil separator s)
      | cons first others =>
        cases others with
        | nil => exact ⟨c :: last, rest, rfl⟩
        | cons second others => exact ⟨last, rest, rfl⟩

theorem mem_pieces_append {separator : Char} {s piece : List Char}
    (member : piece ∈ (pieces separator s).dropLast) (more : List Char) :
    piece ∈ pieces separator (s ++ more) := by
  obtain ⟨last, rest, same⟩ := exists_pieces_append separator s more
  rw [same]
  exact List.mem_append_left _ member

/-! ## Lines -/

theorem dropReturn_sublist (line : List Char) : (dropReturn line).Sublist line := by
  unfold dropReturn
  split
  · exact List.dropLast_sublist line
  · exact List.Sublist.refl line

theorem dropReturn_eq_self_iff {line : List Char} :
    dropReturn line = line ↔ line.getLast? ≠ some '\r' := by
  unfold dropReturn
  constructor
  · intro same ends
    rw [if_pos ends] at same
    have shorter := congrArg List.length same
    rw [List.length_dropLast] at shorter
    obtain ⟨front, rfl⟩ := List.getLast?_eq_some_iff.mp ends
    simp at shorter
  · intro plain
    rw [if_neg plain]

theorem feed_notMem_of_mem_lines {s line : List Char} (member : line ∈ lines s) : '\n' ∉ line := by
  unfold lines at member
  rcases List.mem_append.mp member with ended | last
  · obtain ⟨piece, among, rfl⟩ := List.mem_map.mp ended
    exact fun feed => separator_notMem_of_mem_pieces (List.dropLast_subset _ among)
      ((dropReturn_sublist piece).subset feed)
  · obtain ⟨among, -⟩ := List.mem_filter.mp last
    exact separator_notMem_of_mem_pieces (List.mem_of_getLast? (Option.mem_toList.mp among))

/-- Lines that are written with a line feed after each are read without their carriage returns. -/
theorem lines_joinWith {ls : List (List Char)} (some : ls ≠ []) (whole : ∀ line ∈ ls, '\n' ∉ line) :
    lines (joinWith ['\n'] ls ++ ['\n']) = ls.map dropReturn := by
  have split : pieces '\n' (joinWith ['\n'] ls ++ ['\n']) = ls ++ [[]] := by
    rw [pieces_append_cons, pieces_joinWith some whole]
    rfl
  simp [lines, split]

/-- Joined lines have a line feed after each but the last. -/
theorem joinWith_append_feed {ls : List (List Char)} (some : ls ≠ []) :
    joinWith ['\n'] ls ++ ['\n'] = ls.flatMap (· ++ ['\n']) := by
  induction ls with
  | nil => exact absurd rfl some
  | cons line rest ih =>
    by_cases last : rest = []
    · simp [last]
    · rw [joinWith_cons last, List.append_assoc, ih last, List.flatMap_cons]

/-- Reading the lines of a text leaves characters out, but a feed may be missing behind the last. -/
theorem lines_sublist (s : List Char) :
    ((lines s).flatMap (· ++ ['\n'])).Sublist (s ++ ['\n']) := by
  have some := pieces_ne_nil '\n' s
  obtain ⟨front, last, split⟩ : ∃ front last, pieces '\n' s = front ++ [last] :=
    ⟨_, _, (List.dropLast_concat_getLast some).symm⟩
  have whole : s ++ ['\n'] = front.flatMap (· ++ ['\n']) ++ (last ++ ['\n']) := by
    have fed := joinWith_append_feed some
    rw [joinWith_pieces] at fed
    rw [fed, split]
    simp
  have ended : ((front.map dropReturn).flatMap (· ++ ['\n'])).Sublist
      (front.flatMap (· ++ ['\n'])) := by
    rw [List.flatMap_map]
    exact List.Sublist.flatMap_right front fun line _ => (dropReturn_sublist line).append_right _
  have open' : (([last].filter (· ≠ [])).flatMap (· ++ ['\n'])).Sublist (last ++ ['\n']) := by
    have := (List.filter_sublist (p := (· ≠ [])) (l := [last])).flatMap (· ++ ['\n'])
    simpa using this
  rw [whole]
  simp only [lines, split, List.dropLast_concat, List.getLast?_concat, Option.toList_some,
    List.flatMap_append]
  exact ended.append open'

end CheckedBuild.Text
