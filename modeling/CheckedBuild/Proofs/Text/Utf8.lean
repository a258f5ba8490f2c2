import Mathlib.Tactic.SplitIfs
import CheckedBuild.Text.Utf8

/-!
# Decoding what was encoded

The decoder is followed through the bytes of one character: the last of them yields the character,
and none before it yields anything. So an encoded text is decoded to itself, and its first bytes
are decoded to a first part of it once an unfinished character at their end is set aside. An ASCII
byte is a character wherever it stands, and what follows it is decoded on its own.

Decoding may lengthen a text, since one byte that begins no character is written back as three. It
never lengthens it more than threefold.
-/

namespace CheckedBuild.Utf8

theorem toNat_ofNat {n : Nat} (small : n < 256) : (UInt8.ofNat n).toNat = n := by
  simpa using Nat.mod_eq_of_lt small

/-- The first byte of a character, as a number. -/
theorem first_ofNat {n : Nat} (small : n < 256) :
    first (UInt8.ofNat n) =
      if n < 0x80 then (.boundary, [Char.ofNat n])
      else if n < 0xC2 then (.boundary, [replacement])
      else if n < 0xE0 then (.inside 0 0x80 0xBF (n - 0xC0), [])
      else if n = 0xE0 then (.inside 1 0xA0 0xBF 0, [])
      else if n = 0xED then (.inside 1 0x80 0x9F 0xD, [])
      else if n < 0xF0 then (.inside 1 0x80 0xBF (n - 0xE0), [])
      else if n = 0xF0 then (.inside 2 0x90 0xBF 0, [])
      else if n < 0xF4 then (.inside 2 0x80 0xBF (n - 0xF0), [])
      else if n = 0xF4 then (.inside 2 0x80 0x8F 4, [])
      else (.boundary, [replacement]) := by
  simp only [first, UInt8.lt_iff_toNat_lt, ← UInt8.toNat_inj, toNat_ofNat small]
  rfl

/-- A byte in the range that is expected adds six bits. -/
theorem next_inside {missing bits n : Nat} {low high : UInt8} (least : low.toNat ≤ n)
    (most : n ≤ high.toNat) :
    next (.inside missing low high bits) (UInt8.ofNat n) =
      match missing with
      | 0 => (.boundary, [Char.ofNat (bits * 64 + (n - 0x80))])
      | more + 1 => (.inside more 0x80 0xBF (bits * 64 + (n - 0x80)), []) := by
  have small : n < 256 := by
    have := high.toNat_lt
    omega
  have expected : low ≤ UInt8.ofNat n ∧ UInt8.ofNat n ≤ high := by
    simp only [UInt8.le_iff_toNat_le, toNat_ofNat small]
    exact ⟨least, most⟩
  cases missing with
  | zero => simp only [next, if_pos expected, toNat_ofNat small]
  | succ more => simp only [next, if_pos expected, toNat_ofNat small]

theorem run_nil (state : State) (collected : List Char) : run state collected [] = (state, collected) :=
  rfl

theorem run_cons (state : State) (collected : List Char) (b : UInt8) (bytes : Bytes) :
    run state collected (b :: bytes)
      = run (next state b).1 ((next state b).2.reverse ++ collected) bytes := rfl

theorem run_append (state : State) (collected : List Char) (first second : Bytes) :
    run state collected (first ++ second)
      = run (run state collected first).1 (run state collected first).2 second := by
  simp [run, List.foldl_append]

/-- From this state on, the bytes make up the character and the last of them completes it. -/
inductive Spells : State → Bytes → Char → Prop
  | last {state : State} {b : UInt8} {c : Char} (completes : next state b = (.boundary, [c])) :
      Spells state [b] c
  | more {state after : State} {b : UInt8} {bytes : Bytes} {c : Char}
      (continues : next state b = (after, [])) (rest : Spells after bytes c) :
      Spells state (b :: bytes) c

theorem Spells.run_eq {state : State} {bytes : Bytes} {c : Char} (spells : Spells state bytes c)
    (collected : List Char) : run state collected bytes = (.boundary, c :: collected) := by
  induction spells with
  | last completes => simp [run_cons, run_nil, completes]
  | more continues _ ih => simpa [run_cons, continues] using ih

/-- Nothing is known of a character before its last byte. -/
theorem Spells.run_take {state : State} {bytes : Bytes} {c : Char} (spells : Spells state bytes c)
    (collected : List Char) {n : Nat} (fewer : n < bytes.length) :
    (run state collected (bytes.take n)).2 = collected := by
  induction spells generalizing n with
  | last completes =>
    obtain rfl : n = 0 := by simpa using fewer
    rfl
  | more continues _ ih =>
    cases n with
    | zero => rfl
    | succ n => simpa [run_cons, continues] using ih (by simpa using fewer)

/-- Six more bits, the last ones of the character. -/
theorem spells_last {n bits : Nat} {low high : UInt8} {c : Char} (least : low.toNat ≤ n % 64 + 0x80)
    (most : n % 64 + 0x80 ≤ high.toNat) (whole : bits * 64 + n % 64 = c.toNat) :
    Spells (.inside 0 low high bits) [UInt8.ofNat (n % 64 + 0x80)] c := by
  refine .last ?_
  rw [next_inside least most]
  simp only [Nat.add_sub_cancel, whole, Char.ofNat_toNat]

/-- Six more bits of a character that goes on. -/
theorem spells_more {missing n bits : Nat} {low high : UInt8} {bytes : Bytes} {c : Char}
    (least : low.toNat ≤ n % 64 + 0x80) (most : n % 64 + 0x80 ≤ high.toNat)
    (rest : Spells (.inside missing 0x80 0xBF (bits * 64 + n % 64)) bytes c) :
    Spells (.inside (missing + 1) low high bits) (UInt8.ofNat (n % 64 + 0x80) :: bytes) c := by
  refine .more ?_ rest
  rw [next_inside least most]
  simp only [Nat.add_sub_cancel]

theorem toNat_cases (c : Char) : c.toNat < 0xD800 ∨ (0xDFFF < c.toNat ∧ c.toNat < 0x110000) :=
  c.valid

/-- A character of three bytes: the first byte narrows the second where the character would else
fit into two bytes or be a surrogate. -/
theorem spells_three (c : Char) (large : 0x7ff < c.toNat) (small : c.toNat ≤ 0xffff) :
    Spells .boundary
      [UInt8.ofNat (c.toNat / 4096 % 16 + 0xe0), UInt8.ofNat (c.toNat / 64 % 64 + 0x80),
        UInt8.ofNat (c.toNat % 64 + 0x80)] c := by
  have valid := toNat_cases c
  have tail (low high : UInt8) (bits : Nat) (same : bits = c.toNat / 4096 % 16)
      (least : low.toNat ≤ c.toNat / 64 % 64 + 0x80)
      (most : c.toNat / 64 % 64 + 0x80 ≤ high.toNat) :
      Spells (.inside 1 low high bits)
        [UInt8.ofNat (c.toNat / 64 % 64 + 0x80), UInt8.ofNat (c.toNat % 64 + 0x80)] c := by
    refine spells_more least most (spells_last (by simp) ?_ ?_)
    · simp
      omega
    · rw [same]
      omega
  by_cases smallest : c.toNat / 4096 % 16 = 0
  · refine .more ?_ (tail 0xA0 0xBF 0 smallest.symm ?_ ?_)
    · rw [next, first_ofNat (by omega)]
      simp [smallest]
    · simp
      omega
    · simp
      omega
  · by_cases surrogates : c.toNat / 4096 % 16 = 0xD
    · refine .more ?_ (tail 0x80 0x9F 0xD surrogates.symm ?_ ?_)
      · rw [next, first_ofNat (by omega)]
        simp [surrogates]
      · simp
      · simp
        omega
    · refine .more ?_ (tail 0x80 0xBF _ rfl ?_ ?_)
      · rw [next, first_ofNat (by omega), if_neg (by omega), if_neg (by omega),
          if_neg (by omega), if_neg (by omega), if_neg (by omega), if_pos (by omega),
          Nat.add_sub_cancel]
      · simp
      · simp
        omega

/-- A character of four bytes: the first byte narrows the second where the character would else
fit into three bytes or be no character. -/
theorem spells_four (c : Char) (large : 0xffff < c.toNat) :
    Spells .boundary
      [UInt8.ofNat (c.toNat / 262144 % 8 + 0xf0), UInt8.ofNat (c.toNat / 4096 % 64 + 0x80),
        UInt8.ofNat (c.toNat / 64 % 64 + 0x80), UInt8.ofNat (c.toNat % 64 + 0x80)] c := by
  have valid := toNat_cases c
  have tail (low high : UInt8) (bits : Nat) (same : bits = c.toNat / 262144 % 8)
      (least : low.toNat ≤ c.toNat / 4096 % 64 + 0x80)
      (most : c.toNat / 4096 % 64 + 0x80 ≤ high.toNat) :
      Spells (.inside 2 low high bits)
        [UInt8.ofNat (c.toNat / 4096 % 64 + 0x80), UInt8.ofNat (c.toNat / 64 % 64 + 0x80),
          UInt8.ofNat (c.toNat % 64 + 0x80)] c := by
    refine spells_more least most (spells_more (by simp) ?_ (spells_last (by simp) ?_ ?_))
    · simp
      omega
    · simp
      omega
    · rw [same]
      omega
  by_cases smallest : c.toNat / 262144 % 8 = 0
  · refine .more ?_ (tail 0x90 0xBF 0 smallest.symm ?_ ?_)
    · rw [next, first_ofNat (by omega)]
      simp [smallest]
    · simp
      omega
    · simp
      omega
  · by_cases largest : c.toNat / 262144 % 8 = 4
    · refine .more ?_ (tail 0x80 0x8F 4 largest.symm ?_ ?_)
      · rw [next, first_ofNat (by omega)]
        simp [largest]
      · simp
      · simp
        omega
    · refine .more ?_ (tail 0x80 0xBF _ rfl ?_ ?_)
      · rw [next, first_ofNat (by omega), if_neg (by omega), if_neg (by omega),
          if_neg (by omega), if_neg (by omega), if_neg (by omega), if_neg (by omega),
          if_neg (by omega), if_pos (by omega), Nat.add_sub_cancel]
      · simp
      · simp
        omega

theorem spells_encodeChar (c : Char) : Spells .boundary (String.utf8EncodeChar c) c := by
  have valid := toNat_cases c
  have same : c.val.toNat = c.toNat := rfl
  simp only [String.utf8EncodeChar, same]
  split_ifs with one two three
  · refine .last ?_
    rw [next, first_ofNat (by omega), if_pos (by omega), Char.ofNat_toNat]
  · have begins : next .boundary (UInt8.ofNat (c.toNat / 64 % 32 + 0xc0))
        = (.inside 0 0x80 0xBF (c.toNat / 64), []) := by
      rw [next, first_ofNat (by omega), if_neg (by omega), if_neg (by omega), if_pos (by omega)]
      simp only [Prod.mk.injEq, State.inside.injEq, and_true, true_and]
      omega
    exact .more begins (spells_last (by simp) (by simp; omega) (by omega))
  · exact spells_three c (by omega) three
  · exact spells_four c (by omega)

theorem run_encode (collected s : List Char) :
    run .boundary collected (encode s) = (.boundary, s.reverse ++ collected) := by
  induction s generalizing collected with
  | nil => rfl
  | cons c rest ih =>
    rw [encode, List.flatMap_cons, run_append, (spells_encodeChar c).run_eq, ← encode, ih]
    simp

theorem decode_encode (s : List Char) : decode (encode s) = s := by
  simp [decode, run_encode, flush]

theorem encode_append (first second : List Char) :
    encode (first ++ second) = encode first ++ encode second :=
  List.flatMap_append

@[simp] theorem encode_nil : encode [] = [] := rfl

theorem encode_cons (c : Char) (rest : List Char) :
    encode (c :: rest) = String.utf8EncodeChar c ++ encode rest :=
  List.flatMap_cons

theorem length_encode_le (s : List Char) : (encode s).length ≤ 4 * s.length := by
  induction s with
  | nil => simp
  | cons c rest ih =>
    have := c.utf8Size_le_four
    rw [encode_cons, List.length_append, String.length_utf8EncodeChar, List.length_cons]
    omega

/-- The first bytes of an encoded text are decoded to as many of its characters as are whole. -/
theorem exists_run_take_encode (s : List Char) (n : Nat) (collected : List Char) :
    ∃ kept dropped, s = kept ++ dropped
      ∧ (run .boundary collected ((encode s).take n)).2 = kept.reverse ++ collected
      ∧ (encode kept).length ≤ n
      ∧ ∀ c ∈ dropped.head?, n < (encode kept).length + (String.utf8EncodeChar c).length := by
  induction s generalizing n collected with
  | nil => exact ⟨[], [], rfl, by simp [run_nil], by simp, by simp⟩
  | cons c rest ih =>
    by_cases whole : (String.utf8EncodeChar c).length ≤ n
    · obtain ⟨kept, dropped, rfl, same, fits, full⟩ :=
        ih (n - (String.utf8EncodeChar c).length) (c :: collected)
      refine ⟨c :: kept, dropped, rfl, ?_, ?_, fun d first => ?_⟩
      · rw [encode_cons, List.take_append, List.take_of_length_le whole, run_append,
          (spells_encodeChar c).run_eq, same]
        simp
      · rw [encode_cons, List.length_append]
        omega
      · have := full d first
        rw [encode_cons, List.length_append]
        omega
    · refine ⟨[], c :: rest, rfl, ?_, by simp, by simpa using whole⟩
      rw [encode_cons, List.take_append_of_le_length (by omega)]
      exact (spells_encodeChar c).run_take collected (by omega)

/-- A byte below 128 belongs to no character but its own. -/
theorem eq_of_mem_encodeChar {c : Char} {byte : UInt8} (ascii : byte.toNat < 0x80)
    (h : byte ∈ String.utf8EncodeChar c) : c = Char.ofNat byte.toNat := by
  have never {n : Nat} (above : 0x80 ≤ n) (small : n < 256) : byte ≠ UInt8.ofNat n := fun same => by
    have := toNat_ofNat small
    rw [← same] at this
    omega
  have valid := toNat_cases c
  have same : c.val.toNat = c.toNat := rfl
  simp only [String.utf8EncodeChar, same] at h
  split_ifs at h with one two three
  · rw [List.mem_singleton.mp h, toNat_ofNat (by omega), Char.ofNat_toNat]
  · simp only [List.mem_cons, List.not_mem_nil, or_false] at h
    rcases h with h | h <;> exact absurd h (never (by omega) (by omega))
  · simp only [List.mem_cons, List.not_mem_nil, or_false] at h
    rcases h with h | h | h <;> exact absurd h (never (by omega) (by omega))
  · simp only [List.mem_cons, List.not_mem_nil, or_false] at h
    rcases h with h | h | h | h <;> exact absurd h (never (by omega) (by omega))

theorem notMem_encode {byte : UInt8} (ascii : byte.toNat < 0x80) {s : List Char}
    (h : Char.ofNat byte.toNat ∉ s) : byte ∉ encode s := by
  intro inside
  obtain ⟨c, member, inside⟩ := List.mem_flatMap.mp inside
  exact h (eq_of_mem_encodeChar ascii inside ▸ member)

theorem zero_notMem_encode {s : List Char} (h : '\x00' ∉ s) : 0 ∉ encode s :=
  notMem_encode (by decide) h

theorem getLast?_encode_ne {byte : UInt8} (ascii : byte.toNat < 0x80) {s : List Char}
    (h : s.getLast? ≠ some (Char.ofNat byte.toNat)) : (encode s).getLast? ≠ some byte := by
  rcases List.eq_nil_or_concat s with rfl | ⟨front, c, rfl⟩
  · simp
  · intro last
    have some : String.utf8EncodeChar c ≠ [] := fun none => by
      have := congrArg List.length none
      have := c.utf8Size_pos
      simp only [String.length_utf8EncodeChar, List.length_nil] at *
      omega
    rw [List.concat_eq_append, encode_append, encode_cons, encode_nil, List.append_nil,
      List.getLast?_append, List.getLast?_eq_some_getLast some, Option.some_or] at last
    rw [List.concat_eq_append, List.getLast?_concat] at h
    have inside := Option.some.inj last ▸ List.getLast_mem some
    exact h (congrArg _ (eq_of_mem_encodeChar ascii inside))

/-! ## Going on after an ASCII byte -/

/-- No byte below 128 is expected to go on with a character. -/
def State.Wide : State → Prop
  | .boundary => True
  | .inside _ low _ _ => 0x80 ≤ low

theorem wide_first (b : UInt8) : (first b).1.Wide := by
  unfold first
  split_ifs <;> simp [State.Wide]

theorem wide_next {state : State} (wide : state.Wide) (b : UInt8) : (next state b).1.Wide := by
  cases state with
  | boundary => exact wide_first b
  | inside missing low high bits =>
    by_cases continues : low ≤ b ∧ b ≤ high
    · cases missing with
      | zero => simp [next, continues, State.Wide]
      | succ more => simp [next, continues, State.Wide]
    · simpa only [next, if_neg continues] using wide_first b

theorem wide_run {state : State} (wide : state.Wide) (collected : List Char) (bytes : Bytes) :
    (run state collected bytes).1.Wide := by
  induction bytes generalizing state collected with
  | nil => exact wide
  | cons b rest ih => exact ih (wide_next wide b) _

/-- What was collected before stays where it is. -/
theorem run_collected (state : State) (collected : List Char) (bytes : Bytes) :
    run state collected bytes
      = ((run state [] bytes).1, (run state [] bytes).2 ++ collected) := by
  induction bytes generalizing state collected with
  | nil => rfl
  | cons b rest ih =>
    rw [run_cons, run_cons, ih, ih _ ((next state b).2.reverse ++ [])]
    simp only [List.append_assoc, List.append_nil]

/-- An unfinished character ends before a byte below 128, which stands for itself. -/
theorem next_ascii {state : State} (wide : state.Wide) {b : UInt8} (ascii : b < 0x80) :
    next state b = (.boundary, flush state ++ [Char.ofNat b.toNat]) := by
  have begins : first b = (.boundary, [Char.ofNat b.toNat]) := by rw [first, if_pos ascii]
  cases state with
  | boundary => exact begins
  | inside missing low high bits =>
    have ends : ¬ (low ≤ b ∧ b ≤ high) := fun expected =>
      UInt8.not_lt.mpr (UInt8.le_trans wide expected.1) ascii
    simp only [next, if_neg ends, begins]
    rfl

/-- A byte below 128 cuts a text in two, each part being decoded without the other. -/
theorem decode_append_ascii {b : UInt8} (ascii : b < 0x80) (before after : Bytes) :
    decode (before ++ b :: after)
      = decode before ++ Char.ofNat b.toNat :: decode after := by
  have wide : (run .boundary [] before).1.Wide :=
    wide_run (show State.boundary.Wide from trivial) [] before
  rw [decode, run_append, run_cons, next_ascii wide ascii, run_collected]
  simp [decode, List.append_assoc]

/-! ## How long decoded text is -/

/-- How many bytes a character takes up that is still owed for what has been read. -/
def owed : State → Nat
  | .boundary => 0
  | .inside .. => 3

theorem length_encode_singleton_le (c : Char) : (encode [c]).length ≤ 4 := by
  have := c.utf8Size_le_four
  simpa [encode] using this

theorem length_encode_ascii {n : Nat} (small : n < 128) : (encode [Char.ofNat n]).length = 1 := by
  revert n
  decide +kernel

theorem length_encode_reverse (s : List Char) : (encode s.reverse).length = (encode s).length := by
  simp [encode, List.length_flatMap, List.sum_reverse]

theorem length_first_le (b : UInt8) : (encode (first b).2).length + owed (first b).1 ≤ 3 := by
  unfold first
  by_cases ascii : b < 0x80
  · have one : (encode [Char.ofNat b.toNat]).length = 1 :=
      length_encode_ascii (UInt8.lt_iff_toNat_lt.mp ascii)
    rw [if_pos ascii]
    simp only [one, owed]
    omega
  · rw [if_neg ascii]
    split_ifs <;> exact Nat.le_refl 3

/-- A byte adds at most three, what is owed after it included. -/
theorem length_next_le (state : State) (b : UInt8) :
    (encode (next state b).2).length + owed (next state b).1 ≤ owed state + 3 := by
  have begun := length_first_le b
  cases state with
  | boundary => simpa [next, owed] using begun
  | inside missing low high bits =>
    by_cases continues : low ≤ b ∧ b ≤ high
    · cases missing with
      | zero =>
        have := length_encode_singleton_le (Char.ofNat (bits * 64 + (b.toNat - 0x80)))
        simp only [next, if_pos continues, owed]
        omega
      | succ more =>
        simp only [next, if_pos continues, owed, encode_nil, List.length_nil]
        omega
    · have lost : (encode [replacement]).length = 3 := by decide
      simp only [next, if_neg continues]
      rw [← List.singleton_append, encode_append, List.length_append, lost, owed]
      omega

theorem length_run_le (state : State) (collected : List Char) (bytes : Bytes) :
    (encode (run state collected bytes).2).length + owed (run state collected bytes).1
      ≤ (encode collected).length + owed state + 3 * bytes.length := by
  induction bytes generalizing state collected with
  | nil => simp [run]
  | cons b rest ih =>
    have step := length_next_le state b
    have later := ih (next state b).1 ((next state b).2.reverse ++ collected)
    rw [encode_append, List.length_append, length_encode_reverse] at later
    simp only [run, List.foldl_cons, List.length_cons] at later ⊢
    omega

/-- Decoding makes a text at most three times as long. -/
theorem length_encode_decode_le (bytes : Bytes) :
    (encode (decode bytes)).length ≤ 3 * bytes.length := by
  have whole := length_run_le .boundary [] bytes
  have flushed (state : State) : (encode (flush state)).length ≤ owed state := by
    cases state with
    | boundary => exact Nat.le_refl 0
    | inside => exact Nat.le_refl 3
  have last := flushed (run .boundary [] bytes).1
  rw [decode]
  simp only [encode_append, List.length_append, length_encode_reverse]
  rw [encode_nil, List.length_nil, owed] at whole
  omega

end CheckedBuild.Utf8
