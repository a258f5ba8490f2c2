import CheckedBuild.Embedding.Minify
import CheckedBuild.Proofs.Text.Lines
import CheckedBuild.Proofs.Text.Utf8

/-!
# Shrinking twice

What is kept of a script has no comment left and at most one delimiter, which opens nothing, so
keeping it again changes nothing. A second pass nevertheless reads other lines where a line was kept
that ends in a carriage return: written before a line feed, that carriage return is no longer part
of the line. These scripts are exactly the ones that a second pass changes.
-/

namespace CheckedBuild.Minify

open Text

/-- Lines that a pass has nothing to do with: no comment, and no second delimiter. -/
structure Plain (ls : List (List Char)) : Prop where
  code : ∀ line ∈ ls, isComment line = false
  single : ls.count delimiter ≤ 1

/-- What a pass keeps to: of what it has kept, nothing is a comment or a delimiter, and one that is
open has been opened by one delimiter. -/
structure Orderly (pass : Pass) : Prop where
  code : ∀ line ∈ pass.kept, isComment line = false
  closed : delimiter ∉ pass.kept
  opened : ∀ since, pass.opened = some since → since.count delimiter = 1

theorem isComment_delimiter : isComment delimiter = false := by decide

theorem orderly_take {pass : Pass} (orderly : Orderly pass) (line : List Char) :
    Orderly (pass.take line) := by
  obtain ⟨kept, opened⟩ := pass
  obtain ⟨code, closed, once⟩ := orderly
  cases opened with
  | none =>
    simp only [Pass.take]
    split_ifs with opens comment
    · exact ⟨code, closed, by simp [opens]⟩
    · exact ⟨code, closed, by simp⟩
    · refine ⟨List.forall_mem_cons.mpr ⟨by simpa using comment, code⟩, ?_, by simp⟩
      exact fun member => (List.mem_cons.mp member).elim (Ne.symm opens) closed
  | some since =>
    simp only [Pass.take]
    split_ifs with closes
    · exact ⟨code, closed, by simp⟩
    · refine ⟨code, closed, fun lines same => ?_⟩
      obtain rfl := Option.some.inj same
      rw [List.count_cons_of_ne closes]
      exact once since rfl

theorem orderly_foldl {pass : Pass} (orderly : Orderly pass) (ls : List (List Char)) :
    Orderly (ls.foldl Pass.take pass) := by
  induction ls generalizing pass with
  | nil => exact orderly
  | cons line rest ih => exact ih (orderly_take orderly line)

theorem plain_finish {pass : Pass} (orderly : Orderly pass) : Plain pass.finish := by
  obtain ⟨kept, opened⟩ := pass
  obtain ⟨code, closed, once⟩ := orderly
  refine ⟨fun line member => ?_, ?_⟩
  · rcases List.mem_append.mp (List.mem_reverse.mp member) with since | before
    · simpa using (List.mem_filter.mp since).2
    · exact code line before
  · rw [Pass.finish, List.count_reverse, List.count_append, List.count_eq_zero_of_not_mem closed]
    cases opened with
    | none => simp
    | some since =>
      have := (List.filter_sublist (p := fun line => !isComment line) (l := since)).count_le delimiter
      have := once since rfl
      simp only [Option.getD_some]
      omega

theorem plain_keep (ls : List (List Char)) : Plain (keep ls) :=
  plain_finish (orderly_foldl ⟨by simp, by simp, by simp⟩ ls)

/-- A line that is no comment is kept, and so is a delimiter that closes nothing. -/
theorem finish_take {pass : Pass} {line : List Char} (code : isComment line = false)
    (closesNothing : pass.opened ≠ none → line ≠ delimiter) :
    (pass.take line).finish = pass.finish ++ [line] := by
  obtain ⟨kept, opened⟩ := pass
  cases opened with
  | none =>
    by_cases opens : line = delimiter
    · simp [Pass.take, Pass.finish, opens, isComment_delimiter]
    · simp [Pass.take, Pass.finish, opens, code]
  | some since =>
    have other := closesNothing (by simp)
    simp [Pass.take, Pass.finish, other, code]

theorem opened_take_eq_none_iff {pass : Pass} {line : List Char} (other : line ≠ delimiter) :
    (pass.take line).opened = none ↔ pass.opened = none := by
  obtain ⟨kept, opened⟩ := pass
  cases opened with
  | none =>
    by_cases comment : isComment line = true
    · simp [Pass.take, other, comment]
    · simp [Pass.take, other, comment]
  | some since => simp [Pass.take, other]

theorem finish_foldl {pass : Pass} {ls : List (List Char)} (plain : Plain ls)
    (closesNothing : pass.opened ≠ none → delimiter ∉ ls) :
    (ls.foldl Pass.take pass).finish = pass.finish ++ ls := by
  induction ls generalizing pass with
  | nil => simp
  | cons line rest ih =>
    obtain ⟨code, single⟩ := plain
    obtain ⟨first, others⟩ := List.forall_mem_cons.mp code
    have taken : (pass.take line).finish = pass.finish ++ [line] :=
      finish_take first fun opened same => closesNothing opened (same ▸ List.mem_cons_self)
    have plainRest : Plain rest := ⟨others, Nat.le_trans List.count_le_count_cons single⟩
    have closesNothingLater : (pass.take line).opened ≠ none → delimiter ∉ rest := by
      by_cases opens : line = delimiter
      · intro _ later
        have := List.count_pos_iff.mpr later
        rw [opens, List.count_cons_self] at single
        omega
      · rw [ne_eq, opened_take_eq_none_iff opens]
        exact fun opened later => closesNothing opened (List.mem_cons_of_mem _ later)
    rw [List.foldl_cons, ih plainRest closesNothingLater, taken, List.append_assoc,
      List.singleton_append]

theorem keep_of_plain {ls : List (List Char)} (plain : Plain ls) : keep ls = ls := by
  rw [keep, finish_foldl plain (by simp)]
  simp [Pass.finish]

/-- Taking a line adds nothing but that line. -/
theorem finish_take_sublist (pass : Pass) (line : List Char) :
    (pass.take line).finish.Sublist (pass.finish ++ [line]) := by
  obtain ⟨kept, opened⟩ := pass
  cases opened with
  | none =>
    by_cases comment : isComment line = true
    · have other : line ≠ delimiter := by
        rintro rfl
        rw [isComment_delimiter] at comment
        cases comment
      simp [Pass.take, Pass.finish, other, comment]
    · have more : (Pass.take ⟨kept, none⟩ line).finish = Pass.finish ⟨kept, none⟩ ++ [line] :=
        finish_take (by simpa using comment) fun opened => absurd rfl opened
      exact more ▸ List.Sublist.refl _
  | some since =>
    by_cases closes : line = delimiter
    · simp [Pass.take, Pass.finish, closes]
    · by_cases comment : isComment line = true
      · simp [Pass.take, Pass.finish, closes, comment]
      · have more : (Pass.take ⟨kept, some since⟩ line).finish
            = Pass.finish ⟨kept, some since⟩ ++ [line] :=
          finish_take (by simpa using comment) fun _ => closes
        exact more ▸ List.Sublist.refl _

theorem finish_foldl_sublist (pass : Pass) (ls : List (List Char)) :
    (ls.foldl Pass.take pass).finish.Sublist (pass.finish ++ ls) := by
  induction ls generalizing pass with
  | nil => simp
  | cons line rest ih =>
    have first := (finish_take_sublist pass line).append_right rest
    rw [List.append_assoc, List.singleton_append] at first
    exact (ih (pass.take line)).trans first

theorem keep_sublist (ls : List (List Char)) : (keep ls).Sublist ls :=
  finish_foldl_sublist ⟨[], none⟩ ls

theorem encode_injective {first second : List Char}
    (same : Utf8.encode first = Utf8.encode second) : first = second := by
  rw [← Utf8.decode_encode first, same, Utf8.decode_encode]

/-- A second pass reads the lines that the first one kept, without their carriage returns. -/
theorem text_text {source : List Char} (some : keep (lines source) ≠ []) :
    text (text source) = joinWith ['\n'] (keep ((keep (lines source)).map dropReturn)) ++ ['\n'] := by
  rw [text, text, lines_joinWith some fun line member =>
    feed_notMem_of_mem_lines ((keep_sublist _).subset member)]

/-- A second pass that writes the same text has read the same lines. -/
theorem dropReturn_eq_self_of_keep_map {ls : List (List Char)} (whole : ∀ line ∈ ls, '\n' ∉ line)
    (same : joinWith ['\n'] (keep (ls.map dropReturn)) = joinWith ['\n'] ls) :
    ∀ line ∈ ls, dropReturn line = line := by
  by_cases some : ls = []
  · simp [some]
  · have split : pieces '\n' (joinWith ['\n'] (keep (ls.map dropReturn))) = ls := by
      rw [same, pieces_joinWith some whole]
    by_cases nothing : keep (ls.map dropReturn) = []
    · rw [nothing] at split
      obtain rfl : ls = [[]] := split.symm
      intro line member
      obtain rfl := List.mem_singleton.mp member
      rfl
    · have wholeAgain : ∀ line ∈ keep (ls.map dropReturn), '\n' ∉ line := by
        intro line member
        obtain ⟨before, among, rfl⟩ := List.mem_map.mp ((keep_sublist _).subset member)
        exact fun feed => whole before among ((dropReturn_sublist before).subset feed)
      rw [pieces_joinWith nothing wholeAgain] at split
      have mapped : ls.map dropReturn = ls :=
        ((split ▸ keep_sublist (ls.map dropReturn)).eq_of_length (by simp)).symm
      exact List.map_inj_left.mp (mapped.trans (List.map_id ls).symm)

theorem text_text_eq_iff (source : List Char) :
    text (text source) = text source ↔ ∀ line ∈ keep (lines source), line.getLast? ≠ some '\r' := by
  by_cases nothing : keep (lines source) = []
  · simp only [nothing, List.not_mem_nil, false_implies, implies_true, iff_true]
    rw [text, text, nothing]
    decide
  · rw [text_text nothing, text, List.append_left_inj]
    simp only [← dropReturn_eq_self_iff]
    have whole : ∀ line ∈ keep (lines source), '\n' ∉ line :=
      fun line member => feed_notMem_of_mem_lines ((keep_sublist _).subset member)
    constructor
    · exact dropReturn_eq_self_of_keep_map whole
    · intro unchanged
      rw [List.map_congr_left unchanged, List.map_id', keep_of_plain (plain_keep _)]

/-- A second pass changes nothing unless the first one kept a line that ends in a carriage
return. -/
theorem script_script_eq_iff (source : Bytes) :
    script (script source) = script source
      ↔ ∀ line ∈ keep (lines (Utf8.decode source)), line.getLast? ≠ some '\r' := by
  rw [← text_text_eq_iff, script, script, Utf8.decode_encode]
  exact ⟨encode_injective, congrArg _⟩

/-- A second pass takes away the carriage return at the end of a text. -/
theorem script_script_ne :
    script (script (Utf8.bytesOf "a\r")) ≠ script (Utf8.bytesOf "a\r") := by
  decide +kernel

end CheckedBuild.Minify
