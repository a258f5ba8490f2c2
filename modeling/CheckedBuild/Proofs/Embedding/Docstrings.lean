import Mathlib.Data.List.Basic
import Mathlib.Data.List.TakeWhile
import CheckedBuild.Embedding.Minify

/-!
# What shrinking drops

The delimiter lines of a script are taken in pairs, the first with the second, the third with the
fourth, and what lies between the two of a pair is dropped together with them. Of the other lines
only remarks are dropped. The pass over the lines knows nothing of the lines to come: what it has
set aside since an open delimiter stays or goes when the next one does not or does follow.
-/

namespace CheckedBuild.Minify

open Text

/-- The first number with the second, the third with the fourth, and so on. A last one without a
partner is left out. -/
def pairUp : List Nat → List (Nat × Nat)
  | first :: second :: rest => (first, second) :: pairUp rest
  | _ => []

/-- The index lies in one of the closed ranges that the marks delimit in pairs. -/
def InDocstring (marks : List Nat) (index : Nat) : Prop :=
  ∃ range ∈ pairUp marks, range.1 ≤ index ∧ index ≤ range.2

instance (marks : List Nat) (index : Nat) : Decidable (InDocstring marks index) := by
  unfold InDocstring
  infer_instance

/-- Blanks, a number sign, and anything. -/
def Remark (line : List Char) : Prop :=
  ∃ blanks rest, (∀ c ∈ blanks, isBlank c = true) ∧ line = blanks ++ '#' :: rest

theorem isComment_iff {line : List Char} : isComment line = true ↔ Remark line := by
  constructor
  · intro comment
    obtain ⟨rest, begins⟩ := List.head?_eq_some_iff.mp (beq_iff_eq.mp comment)
    refine ⟨line.takeWhile isBlank, rest, fun c => List.mem_takeWhile_imp, ?_⟩
    rw [← begins, trimStart, List.takeWhile_append_dropWhile]
  · rintro ⟨blanks, rest, blank, rfl⟩
    rw [isComment, trimStart, List.dropWhile_append_of_pos blank]
    rfl

instance (line : List Char) : Decidable (Remark line) :=
  decidable_of_iff (isComment line = true) isComment_iff

/-- The lines that are neither in a docstring nor remarks, the first of them having the given
index. -/
def outside (marks : List Nat) (start : Nat) (ls : List (List Char)) : List (List Char) :=
  ((ls.zipIdx start).filter fun line => ¬ InDocstring marks line.2 ∧ ¬ Remark line.1).map Prod.fst

/-! ## Docstrings -/

theorem inDocstring_cons_cons {first second index : Nat} {rest : List Nat} :
    InDocstring (first :: second :: rest) index ↔
      (first ≤ index ∧ index ≤ second) ∨ InDocstring rest index := by
  simp [InDocstring, pairUp]

theorem mem_of_mem_pairUp {marks : List Nat} {range : Nat × Nat} (member : range ∈ pairUp marks) :
    range.1 ∈ marks ∧ range.2 ∈ marks := by
  fun_induction pairUp marks with
  | case1 first second rest ih =>
    rcases List.mem_cons.mp member with rfl | later
    · simp
    · exact ⟨by simp [(ih later).1], by simp [(ih later).2]⟩
  | case2 => cases member

theorem not_inDocstring_of_lt {marks : List Nat} {index : Nat}
    (later : ∀ mark ∈ marks, index < mark) : ¬ InDocstring marks index := by
  rintro ⟨range, member, reached, -⟩
  have := later _ (mem_of_mem_pairUp member).1
  omega

/-- A line behind an open mark is in a docstring if another mark follows. -/
theorem inDocstring_cons_iff {before index : Nat} {marks : List Nat} (reached : before ≤ index)
    (later : ∀ mark ∈ marks, index < mark) : InDocstring (before :: marks) index ↔ marks ≠ [] := by
  cases marks with
  | nil => simp [InDocstring, pairUp]
  | cons next rest =>
    have first := later next List.mem_cons_self
    rw [inDocstring_cons_cons]
    exact iff_of_true (Or.inl ⟨reached, Nat.le_of_lt first⟩) (List.cons_ne_nil next rest)

/-- Of an odd number of marks the last one delimits nothing. -/
theorem lt_of_mem_pairUp_of_odd {marks : List Nat} (sorted : marks.Pairwise (· < ·))
    (odd : marks.length % 2 = 1) {last : Nat} (isLast : last ∈ marks.getLast?)
    {range : Nat × Nat} (member : range ∈ pairUp marks) : range.2 < last := by
  fun_induction pairUp marks with
  | case1 first second rest ih =>
    obtain ⟨-, sortedRest⟩ := List.pairwise_cons.mp sorted
    obtain ⟨below, sortedMore⟩ := List.pairwise_cons.mp sortedRest
    have oddRest : rest.length % 2 = 1 := by
      rw [List.length_cons, List.length_cons] at odd
      omega
    have some : rest ≠ [] := fun none => by simp [none] at oddRest
    have isLastRest : last ∈ rest.getLast? := by
      obtain ⟨next, more, rfl⟩ := List.exists_cons_of_ne_nil some
      simpa using isLast
    rcases List.mem_cons.mp member with rfl | later
    · exact below last (List.mem_of_getLast? isLastRest)
    · exact ih sortedMore oddRest isLastRest later
  | case2 => cases member

theorem not_inDocstring_of_odd {marks : List Nat} (sorted : marks.Pairwise (· < ·))
    (odd : marks.length % 2 = 1) {last index : Nat} (isLast : last ∈ marks.getLast?)
    (reached : last ≤ index) : ¬ InDocstring marks index := by
  rintro ⟨range, member, -, within⟩
  have := lt_of_mem_pairUp_of_odd sorted odd isLast member
  omega

/-! ## Lines outside -/

theorem outside_cons_of_kept {marks : List Nat} {start : Nat} {line : List Char}
    (outer : ¬ InDocstring marks start) (code : ¬ Remark line) (rest : List (List Char)) :
    outside marks start (line :: rest) = line :: outside marks (start + 1) rest := by
  simp [outside, List.zipIdx_cons, outer, code]

theorem outside_cons_of_dropped {marks : List Nat} {start : Nat} {line : List Char}
    (dropped : InDocstring marks start ∨ Remark line) (rest : List (List Char)) :
    outside marks start (line :: rest) = outside marks (start + 1) rest := by
  have goes : ¬ (¬ InDocstring marks start ∧ ¬ Remark line) := fun stays =>
    dropped.elim stays.1 stays.2
  simp [outside, List.zipIdx_cons, goes]

theorem outside_of_passed {first second start : Nat} (passed : second < start) (rest : List Nat)
    (ls : List (List Char)) :
    outside (first :: second :: rest) start ls = outside rest start ls := by
  unfold outside
  congr 1
  refine List.filter_congr fun line member => ?_
  have reached := List.le_snd_of_mem_zipIdx member
  have behind : ¬ (first ≤ line.2 ∧ line.2 ≤ second) := fun within => by omega
  simp only [inDocstring_cons_cons, or_iff_right behind]

theorem not_remark_delimiter : ¬ Remark delimiter := by decide

/-! ## The pass over the lines -/

/-- The lines outside among those to come if no docstring is open. -/
def outsideClosed (start : Nat) (ls : List (List Char)) : List (List Char) :=
  outside (ls.idxsOf delimiter start) start ls

/-- The lines outside among those to come if a docstring is open since an earlier line. -/
def outsideOpen (before start : Nat) (ls : List (List Char)) : List (List Char) :=
  outside (before :: ls.idxsOf delimiter start) start ls

section Steps

variable {before start : Nat} {line : List Char} {rest : List (List Char)}

theorem lt_of_mem_idxsOf (start : Nat) (rest : List (List Char)) :
    ∀ mark ∈ rest.idxsOf delimiter (start + 1), start < mark :=
  fun mark member => List.ge_of_mem_idxsOf mark member

theorem idxsOf_ne_nil_iff : rest.idxsOf delimiter start ≠ [] ↔ delimiter ∈ rest := by
  rw [ne_eq, List.idxsOf_eq_nil_iff]
  simp

theorem idxsOf_delimiter : (delimiter :: rest).idxsOf delimiter start
    = start :: rest.idxsOf delimiter (start + 1) := by
  simp

theorem idxsOf_other (other : line ≠ delimiter) :
    (line :: rest).idxsOf delimiter start = rest.idxsOf delimiter (start + 1) := by
  simp [other]

theorem outsideClosed_delimiter : outsideClosed start (delimiter :: rest) =
    (if delimiter ∈ rest then [] else [delimiter]) ++ outsideOpen start (start + 1) rest := by
  have opens := inDocstring_cons_iff (Nat.le_refl start) (lt_of_mem_idxsOf start rest)
  rw [idxsOf_ne_nil_iff] at opens
  rw [outsideClosed, idxsOf_delimiter]
  by_cases closes : delimiter ∈ rest
  · rw [if_pos closes, outside_cons_of_dropped (Or.inl (opens.mpr closes))]
    rfl
  · rw [if_neg closes, outside_cons_of_kept (mt opens.mp closes) not_remark_delimiter]
    rfl

theorem outsideClosed_other (other : line ≠ delimiter) : outsideClosed start (line :: rest) =
    (if Remark line then [] else [line]) ++ outsideClosed (start + 1) rest := by
  have outer := not_inDocstring_of_lt (lt_of_mem_idxsOf start rest)
  rw [outsideClosed, idxsOf_other other]
  by_cases remark : Remark line
  · rw [if_pos remark, outside_cons_of_dropped (Or.inr remark)]
    rfl
  · rw [if_neg remark, outside_cons_of_kept outer remark]
    rfl

theorem outsideOpen_delimiter (earlier : before ≤ start) :
    outsideOpen before start (delimiter :: rest) = outsideClosed (start + 1) rest := by
  have closes : InDocstring (before :: start :: rest.idxsOf delimiter (start + 1)) start :=
    inDocstring_cons_cons.mpr (Or.inl ⟨earlier, Nat.le_refl start⟩)
  rw [outsideOpen, idxsOf_delimiter, outside_cons_of_dropped (Or.inl closes),
    outside_of_passed (Nat.lt_succ_self start), outsideClosed]

theorem outsideOpen_other (earlier : before ≤ start) (other : line ≠ delimiter) :
    outsideOpen before start (line :: rest) =
      (if delimiter ∈ rest ∨ Remark line then [] else [line])
        ++ outsideOpen before (start + 1) rest := by
  have within := inDocstring_cons_iff earlier (lt_of_mem_idxsOf start rest)
  rw [idxsOf_ne_nil_iff] at within
  rw [outsideOpen, idxsOf_other other]
  by_cases dropped : delimiter ∈ rest ∨ Remark line
  · rw [if_pos dropped, outside_cons_of_dropped (dropped.imp_left within.mpr)]
    rfl
  · obtain ⟨unclosed, code⟩ := not_or.mp dropped
    rw [if_neg dropped, outside_cons_of_kept (mt within.mp unclosed) code]
    rfl

end Steps

/-- What a pass ends with: what it has kept, the lines since an open delimiter if that is not
closed, and the lines to come that are outside. -/
theorem finish_foldl_eq {ls : List (List Char)} {pass : Pass} {before start : Nat}
    (earlier : before ≤ start) :
    (ls.foldl Pass.take pass).finish = pass.kept.reverse ++
      match pass.opened with
      | none => outsideClosed start ls
      | some since =>
        (if delimiter ∈ ls then [] else since.reverse.filter fun line => ¬ Remark line)
          ++ outsideOpen before start ls := by
  -- `before` stands for the delimiter that is open, which is behind the lines to come
  induction ls generalizing pass before start with
  | nil =>
    obtain ⟨kept, opened⟩ := pass
    cases opened with
    | none => simp [Pass.finish, outsideClosed, outside]
    | some since => simp [Pass.finish, outsideOpen, outside, ← isComment_iff]
  | cons line rest ih =>
    obtain ⟨kept, opened⟩ := pass
    rw [List.foldl_cons]
    by_cases delimits : line = delimiter
    · subst delimits
      cases opened with
      | none =>
        have taken : Pass.take ⟨kept, none⟩ delimiter = ⟨kept, some [delimiter]⟩ := by
          simp [Pass.take]
        rw [taken, ih (Nat.le_succ start)]
        simp [outsideClosed_delimiter, not_remark_delimiter]
      | some since =>
        have taken : Pass.take ⟨kept, some since⟩ delimiter = ⟨kept, none⟩ := by
          simp [Pass.take]
        rw [taken, ih (Nat.le_succ start)]
        simp [outsideOpen_delimiter earlier]
    · cases opened with
      | none =>
        have taken : Pass.take ⟨kept, none⟩ line
            = ⟨(if Remark line then [] else [line]) ++ kept, none⟩ := by
          by_cases remark : Remark line <;> simp [Pass.take, delimits, isComment_iff, remark]
        rw [taken, ih (Nat.le_succ start)]
        by_cases remark : Remark line <;> simp [outsideClosed_other delimits, remark]
      | some since =>
        have taken : Pass.take ⟨kept, some since⟩ line = ⟨kept, some (line :: since)⟩ := by
          simp [Pass.take, delimits]
        rw [taken, ih (Nat.le_succ_of_le earlier)]
        by_cases closes : delimiter ∈ rest
        · simp [outsideOpen_other earlier delimits, closes]
        · by_cases remark : Remark line <;>
            simp [outsideOpen_other earlier delimits, closes, remark, Ne.symm delimits]

/-- The pass keeps the lines outside. -/
theorem keep_eq_outside (ls : List (List Char)) : keep ls = outside (ls.idxsOf delimiter) 0 ls := by
  rw [keep, finish_foldl_eq (Nat.le_refl 0)]
  rfl

/-- A shrunk text has those lines of the text, with a feed between neighbours and one more at the
end, that are neither remarks nor between the delimiters of a pair, nor such a delimiter. If the
number of delimiters is odd, neither the last one nor any line after it is so. -/
theorem text_eq_joinWith_outside (source : List Char) :
    let marks := (lines source).idxsOf delimiter
    text source = joinWith ['\n'] (((lines source).zipIdx.filter fun (line, index) =>
        ¬ InDocstring marks index ∧ ¬ Remark line).map Prod.fst) ++ ['\n']
      ∧ (marks.length % 2 = 1 → ∀ last ∈ marks.getLast?, ∀ index ≥ last,
          ¬ InDocstring marks index)
      ∧ ¬ Remark delimiter := by
  intro marks
  refine ⟨?_, fun odd last isLast index reached => ?_, not_remark_delimiter⟩
  · rw [text, keep_eq_outside]
    rfl
  · exact not_inDocstring_of_odd List.pairwise_idxsOf odd isLast reached

end CheckedBuild.Minify
