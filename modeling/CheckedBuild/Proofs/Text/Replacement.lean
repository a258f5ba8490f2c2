import CheckedBuild.Text.Pieces

/-!
# Occurrences that are replaced

A replacement goes from the left: the first occurrence of the pattern is replaced, and then the text
behind it is gone through. With a replacement that begins unlike the pattern, or is empty, the text
comes out as it is exactly if the pattern does not occur.
-/

namespace CheckedBuild.Text

/-- The pattern occurs behind `before` and at no earlier place. -/
structure Leftmost (pattern s before after : List Char) : Prop where
  cut : s = before ++ (pattern ++ after)
  first : ∀ before' after', s = before' ++ (pattern ++ after') → before.length ≤ before'.length

variable {pattern replacement s before after : List Char}

theorem isInfix_of_cut (cut : s = before ++ (pattern ++ after)) : pattern <:+: s :=
  ⟨before, after, by rw [cut, List.append_assoc]⟩

theorem Leftmost.tail {c : Char} (leftmost : Leftmost pattern (c :: s) (c :: before) after) :
    Leftmost pattern s before after where
  cut := (List.cons.inj leftmost.cut).2
  first before' after' cut := by
    have further := leftmost.first (c :: before') after' (by rw [cut]; rfl)
    exact Nat.le_of_succ_le_succ further

theorem exists_leftmost (occurs : pattern <:+: s) :
    ∃ before after, Leftmost pattern s before after := by
  induction s with
  | nil =>
    obtain rfl := List.infix_nil.mp occurs
    exact ⟨[], [], rfl, fun _ _ _ => Nat.zero_le _⟩
  | cons c s ih =>
    by_cases begins : pattern <+: c :: s
    · obtain ⟨after, cut⟩ := begins
      exact ⟨[], after, cut.symm, fun _ _ _ => Nat.zero_le _⟩
    · have later : pattern <:+: s := (List.infix_cons_iff.mp occurs).resolve_left begins
      obtain ⟨before, after, leftmost⟩ := ih later
      refine ⟨c :: before, after, by rw [leftmost.cut]; rfl, ?_⟩
      intro before' after' cut
      cases before' with
      | nil => exact absurd ⟨after', cut.symm⟩ begins
      | cons d before' =>
        have shorter := leftmost.first before' after' (List.cons.inj cut).2
        exact Nat.succ_le_succ shorter

theorem replaceAll_of_absent (absent : ¬ pattern <:+: s) :
    replaceAll pattern replacement s = s := by
  induction s with
  | nil => rw [replaceAll]
  | cons c s ih =>
    rw [List.infix_cons_iff, not_or] at absent
    rw [replaceAll, if_neg (mt List.isPrefixOf_iff_prefix.mp absent.1), ih absent.2]

theorem replaceAll_append (some : pattern ≠ []) (after : List Char) :
    replaceAll pattern replacement (pattern ++ after)
      = replacement ++ replaceAll pattern replacement after := by
  obtain ⟨c, rest, rfl⟩ := List.exists_cons_of_ne_nil some
  have begins : (c :: rest).isPrefixOf (c :: (rest ++ after)) = true :=
    List.isPrefixOf_iff_prefix.mpr ⟨after, rfl⟩
  rw [List.cons_append, replaceAll, if_pos begins]
  simp

/-- The first occurrence is replaced, and then those behind it. -/
theorem replaceAll_of_leftmost (some : pattern ≠ []) (leftmost : Leftmost pattern s before after) :
    replaceAll pattern replacement s
      = before ++ (replacement ++ replaceAll pattern replacement after) := by
  induction before generalizing s with
  | nil =>
    rw [leftmost.cut]
    exact replaceAll_append some after
  | cons c before ih =>
    obtain ⟨rest, rfl⟩ : ∃ rest, s = c :: rest := ⟨_, leftmost.cut⟩
    have later : ¬ pattern <+: c :: rest := by
      rintro ⟨after', begins⟩
      have none := leftmost.first [] after' begins.symm
      exact absurd none (Nat.not_succ_le_zero _)
    rw [replaceAll, if_neg (mt List.isPrefixOf_iff_prefix.mp later), ih leftmost.tail]
    rfl

/-- Nothing is put in where occurrences are deleted. -/
theorem length_replaceAll_nil_le (pattern s : List Char) :
    (replaceAll pattern [] s).length ≤ s.length := by
  fun_induction replaceAll pattern [] s with
  | case1 => exact Nat.le_refl _
  | case2 c rest begins ih =>
    simp only [List.nil_append, List.length_drop, List.length_cons] at ih ⊢
    omega
  | case3 c rest begins ih => exact Nat.succ_le_succ ih

theorem length_replaceAll_nil_lt (some : pattern ≠ []) (occurs : pattern <:+: s) :
    (replaceAll pattern [] s).length < s.length := by
  obtain ⟨before, after, leftmost⟩ := exists_leftmost occurs
  have shorter := length_replaceAll_nil_le pattern after
  have nonempty : 0 < pattern.length := List.length_pos_iff.mpr some
  rw [replaceAll_of_leftmost some leftmost, leftmost.cut]
  simp only [List.length_append, List.nil_append]
  omega

/-- A replacement that begins unlike the pattern is seen wherever the pattern occurs. -/
theorem replaceAll_eq_self_iff (some : pattern ≠ []) (unlike : replacement.head? ≠ pattern.head?) :
    replaceAll pattern replacement s = s ↔ ¬ pattern <:+: s := by
  refine ⟨fun same occurs => ?_, replaceAll_of_absent⟩
  obtain ⟨before, after, leftmost⟩ := exists_leftmost occurs
  cases replacement with
  | nil =>
    have shorter := length_replaceAll_nil_lt some occurs
    rw [same] at shorter
    exact Nat.lt_irrefl _ shorter
  | cons d replacement =>
    obtain ⟨c, rest, rfl⟩ := List.exists_cons_of_ne_nil some
    rw [replaceAll_of_leftmost some leftmost] at same
    have behind := List.append_cancel_left (same.trans leftmost.cut)
    have same : d = c := (List.cons.inj behind).1
    exact unlike (by rw [List.head?_cons, List.head?_cons, same])

end CheckedBuild.Text
