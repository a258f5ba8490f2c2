import Mathlib.Algebra.Order.Floor.Div
import CheckedBuild.Archive.Listing
import CheckedBuild.Proofs.Text.Literals
import CheckedBuild.Text.Pieces

/-!
# Listings read again

A listing is read back as the bytes that it lists, whatever follows it. Its numbers stand in rows of
1024, of which only the last may be shorter, and each is spelled without a needless zero, which would
make it an octal number.
-/

namespace CheckedBuild

/-! ## Runs of a list -/

theorem flatten_chunks {α : Type} (size : Nat) (xs : List α) : (chunks size xs).flatten = xs := by
  fun_induction chunks size xs with
  | case1 => rfl
  | case2 x rest ih => simp [ih]

theorem length_le_of_mem_chunks {α : Type} {size : Nat} (positive : 0 < size) {xs chunk : List α}
    (member : chunk ∈ chunks size xs) : chunk.length ≤ size := by
  fun_induction chunks size xs with
  | case1 => cases member
  | case2 x rest ih =>
    rcases List.mem_cons.mp member with rfl | later
    · simp only [List.length_cons, List.length_take]
      omega
    · exact ih later

theorem length_chunks {α : Type} {size : Nat} (positive : 0 < size) (xs : List α) :
    (chunks size xs).length = xs.length ⌈/⌉ size := by
  rw [Nat.ceilDiv_eq_add_pred_div]
  fun_induction chunks size xs with
  | case1 => exact (Nat.div_eq_of_lt (by simp only [List.length_nil]; omega)).symm
  | case2 x rest ih =>
    rw [List.length_cons, ih, List.length_drop, List.length_cons]
    by_cases fits : rest.length ≤ size - 1
    · have none : (rest.length - (size - 1) + size - 1) / size = 0 :=
        Nat.div_eq_of_lt (by omega)
      have one : rest.length + 1 + size - 1 = rest.length + size := by omega
      rw [none, one, Nat.add_div_right _ positive, Nat.div_eq_of_lt (by omega)]
    · have run : rest.length + 1 + size - 1 = rest.length - (size - 1) + size - 1 + size := by omega
      rw [run, Nat.add_div_right _ positive]

/-- All runs but the last one are full. -/
theorem length_of_mem_dropLast_chunks {α : Type} {size : Nat} (positive : 0 < size)
    {xs chunk : List α} (member : chunk ∈ (chunks size xs).dropLast) : chunk.length = size := by
  fun_induction chunks size xs with
  | case1 => cases member
  | case2 x rest ih =>
    cases others : chunks size (rest.drop (size - 1)) with
    | nil =>
      rw [others] at member
      cases member
    | cons next more =>
      rw [others, List.dropLast_cons_cons] at member
      rcases List.mem_cons.mp member with rfl | later
      · -- something follows this run, so that the rest was longer than what it took
        have left : rest.drop (size - 1) ≠ [] := by
          intro none
          rw [none, chunks] at others
          cases others
        have longer : size - 1 < rest.length := by
          rw [ne_eq, List.drop_eq_nil_iff] at left
          omega
        simp only [List.length_cons, List.length_take]
        omega
      · rw [others] at ih
        exact ih later

theorem ne_nil_of_mem_chunks {α : Type} {size : Nat} {xs chunk : List α}
    (member : chunk ∈ chunks size xs) : chunk ≠ [] := by
  fun_induction chunks size xs with
  | case1 => cases member
  | case2 x rest ih =>
    rcases List.mem_cons.mp member with rfl | later
    · exact List.cons_ne_nil _ _
    · exact ih later

namespace Archive

/-! ## Reading what was listed -/

theorem readNumbers_digitChar {digit : Nat} (below : digit < 10) (value : Option Nat)
    (bytes : Bytes) (rest : List Char) :
    readNumbers value bytes (Nat.digitChar digit :: rest)
      = readNumbers (some (10 * value.getD 0 + digit)) bytes rest := by
  have isDigit : ∀ digit < 10, ('0' ≤ Nat.digitChar digit ∧ Nat.digitChar digit ≤ '9')
      ∧ (Nat.digitChar digit).toNat - '0'.toNat = digit := by decide
  obtain ⟨decimal, denotes⟩ := isDigit digit below
  cases value with
  | none => rw [readNumbers, if_pos decimal, denotes]
  | some n => rw [readNumbers, if_pos decimal, denotes]

theorem readNumbers_toDigits (n : Nat) (bytes : Bytes) (rest : List Char) :
    readNumbers none bytes (Nat.toDigits 10 n ++ rest) = readNumbers (some n) bytes rest := by
  induction n using Nat.base_induction 10 (by decide) generalizing rest with
  | single n below =>
    rw [Nat.toDigits_of_lt_base below, List.singleton_append, readNumbers_digitChar below]
    simp
  | digit n digit below positive ih =>
    rw [← Nat.toDigits_append_toDigits (by decide) positive below, List.append_assoc, ih,
      Nat.toDigits_of_lt_base below, List.singleton_append, readNumbers_digitChar below,
      Option.getD_some]

theorem readNumbers_number (byte : UInt8) (bytes : Bytes) (rest : List Char) :
    readNumbers none bytes (number byte ++ rest) = readNumbers none (byte :: bytes) rest := by
  rw [number, List.append_assoc, readNumbers_toDigits, List.singleton_append, readNumbers,
    if_neg (by decide), if_pos rfl]
  simp only [byte.toNat_lt, if_true, UInt8.ofNat_toNat]

theorem readNumbers_flatMap_number (line bytes : Bytes) (rest : List Char) :
    readNumbers none bytes (line.flatMap number ++ rest)
      = readNumbers none (line.reverse ++ bytes) rest := by
  induction line generalizing bytes with
  | nil => rfl
  | cons byte line ih =>
    rw [List.flatMap_cons, List.append_assoc, readNumbers_number, ih, List.reverse_cons,
      List.append_assoc, List.singleton_append]

theorem readNumbers_lineFeed (bytes : Bytes) (rest : List Char) :
    readNumbers none bytes ('\n' :: rest) = readNumbers none bytes rest := by
  rw [readNumbers, if_neg (by decide), if_neg (by decide), if_pos ⟨rfl, rfl⟩]

theorem readNumbers_lines (lines : List Bytes) (bytes : Bytes) (rest : List Char) :
    readNumbers none bytes (lines.flatMap (fun line => line.flatMap number ++ ['\n']) ++ rest)
      = readNumbers none (lines.flatten.reverse ++ bytes) rest := by
  induction lines generalizing bytes with
  | nil => rfl
  | cons line lines ih =>
    rw [List.flatMap_cons, List.append_assoc, List.append_assoc, readNumbers_flatMap_number,
      List.singleton_append, readNumbers_lineFeed, ih, List.flatten_cons, List.reverse_append,
      List.append_assoc]

theorem readNumbers_closing (bytes : Bytes) (rest : List Char) :
    readNumbers none bytes (closing ++ rest) = some (bytes.reverse, ";\n".toList ++ rest) := by
  have shape : closing = '\x7d' :: ";\n".toList := by decide
  rw [shape, List.cons_append, readNumbers, if_neg (by decide), if_neg (by decide),
    if_neg (by decide), if_pos ⟨rfl, rfl⟩]

/-! ## The layout -/

/-- The numeral denotes the byte in decimal, and no zero in front of it makes it octal. -/
structure Decimal (numeral : List Char) (byte : UInt8) : Prop where
  value : Text.natural? numeral = some byte.toNat
  bare : numeral.head? = some '0' → numeral = ['0']

/-- The text is the array of these rows of numerals, which denote the bytes in their order. -/
structure Listed (bytes : Bytes) (text : List Char) (rows : List (List (List Char))) : Prop where
  spelled : text = opening
    ++ rows.flatMap (fun row => row.flatMap (fun numeral => numeral ++ [',']) ++ ['\n']) ++ closing
  values : List.Forall₂ Decimal rows.flatten bytes
  count : rows.length = bytes.length ⌈/⌉ 1024
  full : ∀ row ∈ rows.dropLast, row.length = 1024
  short : ∀ row ∈ rows, row ≠ [] ∧ row.length ≤ 1024

theorem decimal_toDigits (byte : UInt8) : Decimal (Nat.toDigits 10 byte.toNat) byte where
  value := Text.natural?_toDigits byte.toNat
  bare := by
    intro zero
    rw [Text.eq_zero_of_head?_toDigits zero]
    rfl

theorem forall₂_decimal (bytes : Bytes) :
    List.Forall₂ Decimal (bytes.map fun byte => Nat.toDigits 10 byte.toNat) bytes := by
  rw [List.forall₂_map_left_iff, List.forall₂_same]
  intro byte _
  exact decimal_toDigits byte

theorem listed_listing (bytes : Bytes) :
    Listed bytes (listing bytes)
      ((chunks numbersPerLine bytes).map (·.map fun byte => Nat.toDigits 10 byte.toNat)) where
  spelled := by
    simp only [listing, List.flatMap_map]
    rfl
  values := by
    rw [← List.map_flatten, flatten_chunks]
    exact forall₂_decimal bytes
  count := by
    rw [List.length_map]
    exact length_chunks (by decide) bytes
  full := by
    intro row member
    rw [← List.map_dropLast] at member
    obtain ⟨line, among, rfl⟩ := List.mem_map.mp member
    rw [List.length_map]
    exact length_of_mem_dropLast_chunks (by decide) among
  short := by
    intro row member
    obtain ⟨line, among, rfl⟩ := List.mem_map.mp member
    rw [List.length_map, ne_eq, List.map_eq_nil_iff]
    exact ⟨ne_nil_of_mem_chunks among, length_le_of_mem_chunks (by decide) among⟩

/-- A listing is read back as its bytes, up to the end of its array and whatever follows. Its rows
hold 1024 numbers each, the last one perhaps fewer, and no number is taken for an octal one. -/
theorem readNumbers_listing (bytes : Bytes) :
    (∀ rest, (Text.after? opening (listing bytes ++ rest)).bind (readNumbers none [])
        = some (bytes, ";\n".toList ++ rest))
      ∧ ∃ rows, Listed bytes (listing bytes) rows := by
  constructor
  · intro rest
    have opened : Text.after? opening (listing bytes ++ rest)
        = some ((chunks numbersPerLine bytes).flatMap (fun line => line.flatMap number ++ ['\n'])
          ++ (closing ++ rest)) := by
      rw [Text.after?_eq_some_iff, listing, List.append_assoc, List.append_assoc]
    rw [opened, Option.bind_some, readNumbers_lines, flatten_chunks, List.append_nil,
      readNumbers_closing, List.reverse_reverse]
  · exact ⟨_, listed_listing bytes⟩

end Archive

end CheckedBuild
