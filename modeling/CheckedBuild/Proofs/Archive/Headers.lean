import Mathlib.Tactic.Ring
import CheckedBuild.Archive.Tar.Entry

/-!
# Headers of tar streams

A header tells what was written into it: the number in a field can be read back, each field stands
at its offset, and the checksum is right. A size is told whatever it is, as long as it has at most
64 bits. Headers that were written by other programs are not considered.
-/

namespace CheckedBuild.Tar

/-! ## Numbers -/

/-- Digits of any base, written one after the other, the last one the lowest, are read back. -/
theorem foldl_digits {base : Nat} {write : Nat → Nat → Bytes} {value : UInt8 → Nat}
    (none : ∀ n, write 0 n = [])
    (more : ∀ count n, ∃ digit,
      write (count + 1) n = write count (n / base) ++ [digit] ∧ value digit = n % base)
    (count n : Nat) :
    (write count n).foldl (fun sum byte => sum * base + value byte) 0 = n % base ^ count := by
  induction count generalizing n with
  | zero => simp [none, Nat.mod_one]
  | succ count ih =>
    obtain ⟨digit, written, valued⟩ := more count n
    rw [written, List.foldl_append, ih, List.foldl_cons, List.foldl_nil, valued, Nat.pow_succ,
      Nat.mul_comm (base ^ count) base, Nat.mod_mul]
    ring

theorem length_octal (count n : Nat) : (octal count n).length = count := by
  induction count generalizing n with
  | zero => rfl
  | succ count ih => simp [octal, ih]

theorem length_bigEndian (count n : Nat) : (bigEndian count n).length = count := by
  induction count generalizing n with
  | zero => rfl
  | succ count ih => simp [bigEndian, ih]

theorem toNat_octalDigit (n : Nat) : (UInt8.ofNat (n % 8 + 0x30)).toNat = n % 8 + 0x30 := by
  rw [UInt8.toNat_ofNat', Nat.mod_eq_of_lt (by omega)]

theorem octalDigit_of_mem {count n : Nat} {byte : UInt8} (member : byte ∈ octal count n) :
    0x30 ≤ byte ∧ byte ≤ 0x37 := by
  induction count generalizing n with
  | zero => cases member
  | succ count ih =>
    rw [octal] at member
    rcases List.mem_append.mp member with higher | lowest
    · exact ih higher
    · obtain rfl := List.mem_singleton.mp lowest
      simp only [UInt8.le_iff_toNat_le, toNat_octalDigit]
      exact ⟨Nat.le_add_left 48 _, by change _ ≤ 55; omega⟩

theorem foldl_octal (count n : Nat) :
    (octal count n).foldl (fun sum byte => sum * 8 + (byte.toNat - 48)) 0 = n % 8 ^ count := by
  refine foldl_digits (fun _ => rfl) (fun count n => ⟨_, rfl, ?_⟩) count n
  rw [toNat_octalDigit]
  omega

theorem foldl_bigEndian (count n : Nat) :
    (bigEndian count n).foldl (fun sum byte => sum * 256 + byte.toNat) 0 = n % 256 ^ count :=
  foldl_digits (fun _ => rfl) (fun _ n => ⟨_, rfl, by simp⟩) count n

/-- A number is read up to the zero behind its digits. -/
theorem octalNumber_octal {count n : Nat} (small : n < 8 ^ count) (rest : Bytes) :
    octalNumber (octal count n ++ 0 :: rest) = n := by
  have unblanked : (octal count n ++ 0 :: rest).dropWhile (· = 0x20)
      = octal count n ++ 0 :: rest := by
    cases digits : octal count n with
    | nil => rfl
    | cons first others =>
      have digit := octalDigit_of_mem (digits ▸ List.mem_cons_self : first ∈ octal count n)
      have notBlank : first ≠ 0x20 := by
        rintro rfl
        exact absurd digit.1 (by decide)
      rw [List.cons_append, List.dropWhile_cons, if_neg (by simpa using notBlank)]
  have taken : (octal count n ++ 0 :: rest).takeWhile (fun b => 0x30 ≤ b && b ≤ 0x37)
      = octal count n := by
    rw [List.takeWhile_append_of_pos fun byte member => by simpa using octalDigit_of_mem member,
      List.takeWhile_cons, if_neg (by decide), List.append_nil]
  rw [octalNumber, unblanked]
  simp only [taken]
  rw [foldl_octal, Nat.mod_eq_of_lt small]

theorem length_sizeField (size : Nat) : (sizeField size).length = 12 := by
  unfold sizeField
  split <;> simp [length_octal, length_bigEndian]

/-- A size of at most 64 bits is read back from its field. -/
theorem sizeNumber_sizeField {size : Nat} (small : size < 2 ^ 64) :
    sizeNumber (sizeField size) = size := by
  unfold sizeField
  by_cases narrow : size < Nat.pow 8 11
  · rw [if_pos narrow]
    obtain ⟨first, others, digits⟩ : ∃ first others, octal 11 size = first :: others :=
      List.exists_cons_of_length_eq_add_one (length_octal 11 size)
    have digit := octalDigit_of_mem (digits ▸ List.mem_cons_self : first ∈ octal 11 size)
    have unmarked : first ≠ wideMark := by
      rintro rfl
      exact absurd digit.2 (by decide)
    have whole := octalNumber_octal narrow []
    rw [digits, List.cons_append] at whole ⊢
    rw [sizeNumber, if_neg unmarked, whole]
  · rw [if_neg narrow, sizeNumber, if_pos rfl]
    have whole := foldl_bigEndian 8 size
    rw [Nat.mod_eq_of_lt (by omega)] at whole
    simpa only [List.foldl_cons, Nat.zero_mul, UInt8.toNat_zero, Nat.add_zero] using whole

/-! ## Fields -/

/-- What stands between other fields is found at its offset. -/
theorem slice_flatten (front : List Bytes) {back : List Bytes} {field : Bytes} {offset size : Nat}
    (before : front.flatten.length = offset) (long : field.length = size) :
    ((front ++ field :: back).flatten.drop offset).take size = field := by
  rw [List.flatten_append, List.flatten_cons, List.drop_left' before, List.take_left' long]

theorem length_owner (kind : Kind) : kind.owner.length = 16 := by
  cases kind <;> rfl

/-- The fields of a header before its checksum. -/
def leading (name : Bytes) (kind : Kind) (size : Nat) : List Bytes :=
  [name, octal 7 0o644 ++ [0], kind.owner, sizeField size, octal 11 0 ++ [0]]

/-- The fields of a header after its checksum. -/
def trailing (kind : Kind) : List Bytes :=
  [[kind.letter], List.replicate 100 0, magic, List.replicate 247 0]

theorem length_leading {name : Bytes} (named : name.length = nameSize) (kind : Kind) (size : Nat) :
    (leading name kind size).flatten.length = 148 := by
  simp [leading, named, nameSize, length_octal, length_owner, length_sizeField]

theorem length_leading_append {sum name : Bytes} (summed : sum.length = 8)
    (named : name.length = nameSize) (kind : Kind) (size : Nat) :
    (leading name kind size ++ [sum]).flatten.length = 156 := by
  rw [List.flatten_append, List.length_append, length_leading named, List.flatten_singleton, summed]

theorem headerWith_eq_flatten {sum name : Bytes} (summed : sum.length = 8)
    (named : name.length = nameSize) (kind : Kind) (size : Nat) :
    headerWith sum name kind size = (leading name kind size ++ sum :: trailing kind).flatten := by
  have magical : magic.length = 8 := by decide
  have filled : blockSize - (name ++ octal 7 0o644 ++ 0 :: kind.owner ++ sizeField size
      ++ octal 11 0 ++ 0 :: sum ++ kind.letter :: List.replicate 100 0 ++ magic).length = 247 := by
    simp [blockSize, named, nameSize, length_octal, length_owner, length_sizeField, summed, magical]
  simp only [headerWith, filled, leading, trailing]
  simp [-List.reduceReplicate]

theorem length_headerWith {sum name : Bytes} (summed : sum.length = 8)
    (named : name.length = nameSize) (kind : Kind) (size : Nat) :
    (headerWith sum name kind size).length = blockSize := by
  have behind : (trailing kind).flatten.length = 356 := by
    have magical : magic.length = 8 := by decide
    simp [-List.reduceReplicate, trailing, magical]
  rw [headerWith_eq_flatten summed named, List.flatten_append, List.length_append,
    length_leading named, List.flatten_cons, List.length_append, summed, behind]
  rfl

theorem byteSum_le (bytes : Bytes) : byteSum bytes ≤ 255 * bytes.length := by
  have bounded (start : Nat) :
      bytes.foldl (fun n b => n + b.toNat) start ≤ start + 255 * bytes.length := by
    induction bytes generalizing start with
    | nil => simp
    | cons byte rest ih =>
      have := ih (start + byte.toNat)
      have := byte.toNat_lt
      simp only [List.foldl_cons, List.length_cons]
      omega
  simpa [byteSum] using bounded 0

/-- What a block says as a header: its checksum is right, and its fields hold these values. -/
structure Tells (block name : Bytes) (kind : Kind) (size : Nat) : Prop where
  whole : block.length = blockSize
  checked : isHeader block = true
  named : block.take nameSize = name
  mode : octalNumber ((block.drop 100).take 8) = 0o644
  sized : sizeNumber ((block.drop 124).take 12) = size
  time : octalNumber ((block.drop 136).take 12) = 0
  letter : (block.drop 156).headD 0 = kind.letter
  old : (block.drop 257).take 8 = magic

theorem length_checksum (n : Nat) : (octal 7 n ++ [0]).length = 8 := by simp [length_octal]

theorem header_eq_flatten {name : Bytes} (named : name.length = nameSize) (kind : Kind)
    (size : Nat) :
    header name kind size = (leading name kind size
      ++ (octal 7 (byteSum (headerWith (List.replicate 8 0x20) name kind size)) ++ [0])
        :: trailing kind).flatten :=
  headerWith_eq_flatten (length_checksum _) named kind size

/-- A checksum can be replaced by another one. -/
theorem replaced_headerWith {sum other name : Bytes} (summed : sum.length = 8)
    (summed' : other.length = 8) (named : name.length = nameSize) (kind : Kind) (size : Nat) :
    (headerWith sum name kind size).take 148 ++ other ++ (headerWith sum name kind size).drop 156
      = headerWith other name kind size := by
  have before := length_leading named kind size
  have through : ((leading name kind size).flatten ++ sum).length = 156 := by
    simpa only [List.flatten_append, List.flatten_singleton]
      using length_leading_append summed named kind size
  rw [headerWith_eq_flatten summed named, headerWith_eq_flatten summed' named,
    List.flatten_append, List.flatten_append, List.flatten_cons, List.flatten_cons,
    List.take_left' before, ← List.append_assoc _ sum, List.drop_left' through, List.append_assoc]

theorem isHeader_header {name : Bytes} (named : name.length = nameSize) (kind : Kind) (size : Nat) :
    isHeader (header name kind size) = true := by
  have atMost := byteSum_le (headerWith (List.replicate 8 0x20) name kind size)
  rw [length_headerWith (by simp) named] at atMost
  have small : byteSum (headerWith (List.replicate 8 0x20) name kind size) < 8 ^ 7 := by
    simp only [blockSize] at atMost
    omega
  have told : ((header name kind size).drop 148).take 8
      = octal 7 (byteSum (headerWith (List.replicate 8 0x20) name kind size)) ++ [0] := by
    rw [header_eq_flatten named]
    exact slice_flatten _ (length_leading named kind size) (length_checksum _)
  rw [isHeader, told, octalNumber_octal small]
  simp only [header, length_headerWith (length_checksum _) named,
    replaced_headerWith (length_checksum _) List.length_replicate named, decide_true, Bool.and_self]

/-- A header tells what was written into it. -/
theorem tells_header {name : Bytes} (named : name.length = nameSize) (kind : Kind) {size : Nat}
    (small : size < 2 ^ 64) : Tells (header name kind size) name kind size := by
  have split := header_eq_flatten named kind size
  constructor
  case whole => exact length_headerWith (length_checksum _) named kind size
  case checked => exact isHeader_header named kind size
  case named =>
    rw [split]
    exact slice_flatten [] rfl named
  case mode =>
    have field : ((header name kind size).drop 100).take 8 = octal 7 0o644 ++ [0] := by
      rw [split]
      exact slice_flatten [name] (by simp [named, nameSize]) rfl
    rw [field, octalNumber_octal (by decide)]
  case sized =>
    have field : ((header name kind size).drop 124).take 12 = sizeField size := by
      rw [split]
      exact slice_flatten [name, octal 7 0o644 ++ [0], kind.owner]
        (by simp [named, nameSize, length_octal, length_owner]) (length_sizeField size)
    rw [field, sizeNumber_sizeField small]
  case time =>
    have field : ((header name kind size).drop 136).take 12 = octal 11 0 ++ [0] := by
      rw [split]
      exact slice_flatten [name, octal 7 0o644 ++ [0], kind.owner, sizeField size]
        (by simp [named, nameSize, length_octal, length_owner, length_sizeField]) rfl
    rw [field, octalNumber_octal (by decide)]
  case letter =>
    have field : ((header name kind size).drop 156).take 1 = [kind.letter] := by
      rw [split]
      rw [List.append_cons]
      exact slice_flatten _ (length_leading_append (length_checksum _) named kind size) rfl
    cases rest : (header name kind size).drop 156 with
    | nil => simp [rest] at field
    | cons first others => simpa [rest] using field
  case old =>
    have summed := length_checksum (byteSum (headerWith (List.replicate 8 0x20) name kind size))
    have through := length_leading_append summed named kind size
    rw [split]
    refine slice_flatten (leading name kind size ++ [_, [kind.letter], List.replicate 100 0]) ?_ rfl
    rw [List.append_cons, List.flatten_append, List.length_append, through]
    rfl

theorem Tells.not_all_zero {block name : Bytes} {kind : Kind} {size : Nat}
    (tells : Tells block name kind size) : block.all (· = 0) = false := by
  rw [List.all_eq_false]
  refine ⟨kind.letter, ?_, by cases kind <;> decide⟩
  have letter := tells.letter
  cases rest : block.drop 156 with
  | nil =>
    rw [rest] at letter
    cases kind <;> cases letter
  | cons first others =>
    rw [rest, List.headD_cons] at letter
    exact List.mem_of_mem_drop (i := 156) (by simp [rest, letter])

end CheckedBuild.Tar
