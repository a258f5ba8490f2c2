import Mathlib.Tactic.Ring
import CheckedBuild.Archive.Gzip
import CheckedBuild.Proofs.Archive.Listings

/-!
# Unpacking what was packed

What a compressed stream expands to does not depend on the bytes behind it, so a packed stream can
be unpacked although its trailer follows directly. A stream that is stored expands block by block.
Nothing is said about how small a packed stream is.
-/

namespace CheckedBuild

namespace Deflate

/-! ## What follows is not looked at -/

/-- The reader with more bytes behind those that are left. -/
def Reader.followedBy (reader : Reader) (more : Bytes) : Reader :=
  ⟨reader.held, reader.rest ++ more⟩

@[simp] theorem Reader.held_followedBy (reader : Reader) (more : Bytes) :
    (reader.followedBy more).held = reader.held := rfl

@[simp] theorem Reader.rest_followedBy (reader : Reader) (more : Bytes) :
    (reader.followedBy more).rest = reader.rest ++ more := rfl

/-- What one reading reads, the other reads too, whatever follows the bytes that were read. -/
def Continues {α : Type} (read other : Reader → Option (α × Reader)) : Prop :=
  ∀ ⦃reader value after⦄, read reader = some (value, after) →
    ∀ more, other (reader.followedBy more) = some (value, after.followedBy more)

/-- A reading that goes the same way whatever follows the bytes it has read. -/
def Steady {α : Type} (read : Reader → Option (α × Reader)) : Prop := Continues read read

theorem steady_done {α : Type} (value : α) : Steady fun reader => some (value, reader) := by
  intro reader other after h more
  obtain ⟨rfl, rfl⟩ := Prod.mk.inj (Option.some.inj h)
  rfl

theorem continues_none {α : Type} {other : Reader → Option (α × Reader)} :
    Continues (fun _ => none) other := by
  intro reader value after h
  cases h

/-- Readings in sequence. -/
theorem Continues.bind {α β : Type} {first first' : Reader → Option (α × Reader)}
    {next next' : α × Reader → Option (β × Reader)} (one : Continues first first')
    (other : ∀ value, Continues (fun reader => next (value, reader))
      fun reader => next' (value, reader)) :
    Continues (fun reader => first reader >>= next) fun reader => first' reader >>= next' := by
  intro reader value after h more
  obtain ⟨⟨read, between⟩, had, rest⟩ := Option.bind_eq_some_iff.mp h
  simp only [one had more]
  exact other read rest more

theorem Continues.ite {α : Type} {condition : Prop} [Decidable condition]
    {one one' other other' : Reader → Option (α × Reader)} (met : Continues one one')
    (unmet : Continues other other') :
    Continues (fun reader => if condition then one reader else other reader)
      fun reader => if condition then one' reader else other' reader := by
  by_cases holds : condition
  · simpa only [if_pos holds] using met
  · simpa only [if_neg holds] using unmet

theorem Steady.bind {α β : Type} {first : Reader → Option (α × Reader)}
    {next : α × Reader → Option (β × Reader)} (one : Steady first)
    (other : ∀ value, Steady fun reader => next (value, reader)) :
    Steady fun reader => first reader >>= next := Continues.bind one other

theorem Steady.map {α β : Type} {read : Reader → Option (α × Reader)} (steady : Steady read)
    (f : α → β) : Steady fun reader => (read reader).map fun found => (f found.1, found.2) := by
  intro reader value after h more
  obtain ⟨⟨found, between⟩, had, same⟩ := Option.map_eq_some_iff.mp h
  obtain ⟨rfl, rfl⟩ := Prod.mk.inj same
  simp only [steady had more, Option.map_some]

theorem Steady.ite {α : Type} {condition : Prop} [Decidable condition]
    {one other : Reader → Option (α × Reader)} (steady : Steady one) (steady' : Steady other) :
    Steady fun reader => if condition then one reader else other reader :=
  Continues.ite steady steady'

/-- A reading that needs a value known beforehand. -/
theorem Steady.given {α β : Type} {next : α → Reader → Option (β × Reader)}
    (steady : ∀ value, Steady (next value)) (known : Option α) :
    Steady fun reader => known >>= fun value => next value reader := by
  cases known with
  | none => exact continues_none
  | some value => exact steady value

theorem steady_bit : Steady Reader.bit? := by
  intro reader bit after h more
  obtain ⟨held, rest⟩ := reader
  cases held with
  | cons first held =>
    obtain ⟨rfl, rfl⟩ := Prod.mk.inj (Option.some.inj h)
    rfl
  | nil =>
    cases rest with
    | nil => cases h
    | cons byte rest =>
      obtain ⟨rfl, rfl⟩ := Prod.mk.inj (Option.some.inj h)
      rfl

theorem steady_bits (count : Nat) : Steady fun reader => reader.bits? count := by
  induction count with
  | zero => exact steady_done []
  | succ count ih => exact steady_bit.bind fun bit => ih.bind fun bits => steady_done (bit :: bits)

theorem steady_number (width : Nat) : Steady fun reader => reader.number? width :=
  (steady_bits width).map ofBits

theorem steady_read (tree : Tree) : Steady fun reader => tree.read? reader := by
  induction tree with
  | empty => intro reader symbol after h; cases h
  | leaf symbol => exact steady_done symbol
  | branch zero one ihZero ihOne =>
    intro reader symbol after h more
    cases read : reader.bit? with
    | none => simp [Tree.read?, read] at h
    | some found =>
      obtain ⟨bit, between⟩ := found
      cases bit with
      | true =>
        simp only [Tree.read?, read, steady_bit read more] at h ⊢
        exact ihOne h more
      | false =>
        simp only [Tree.read?, read, steady_bit read more] at h ⊢
        exact ihZero h more

theorem steady_readClass (classes : List NumberClass) (index : Nat) :
    Steady fun reader => readClass? classes index reader :=
  Steady.given (fun numbers =>
    (steady_number _).bind fun extra => steady_done (numbers.least + extra)) classes[index]?

theorem steady_readOrder (lengths : Array Nat) (order : List Nat) :
    Steady fun reader => readOrder? lengths reader order := by
  induction order generalizing lengths with
  | nil => exact steady_done lengths
  | cons symbol rest ih =>
    exact (steady_number 3).bind fun length => ih (lengths.setIfInBounds symbol length)

theorem steady_readLengths (tree : Tree) (steps count : Nat) (lengths : List Nat) :
    Steady fun reader => readLengths? tree steps count lengths reader := by
  induction steps generalizing lengths with
  | zero => exact continues_none
  | succ steps ih =>
    refine Steady.ite (steady_done lengths.reverse) (Steady.ite continues_none ?_)
    refine (steady_read tree).bind fun symbol => ?_
    refine Steady.ite ?_ (Steady.ite ?_ (Steady.ite ?_ (ih (symbol :: lengths))))
    · exact (steady_number 2).bind fun extra =>
        Steady.given (fun last => ih (List.replicate (extra + 3) last ++ lengths)) lengths.head?
    · exact (steady_number 3).bind fun extra => ih (List.replicate (extra + 3) 0 ++ lengths)
    · exact (steady_number 7).bind fun extra => ih (List.replicate (extra + 11) 0 ++ lengths)

theorem steady_readTrees : Steady readTrees? :=
  (steady_number 5).bind fun _ => (steady_number 5).bind fun _ => (steady_number 4).bind fun _ =>
    (steady_readOrder _ _).bind fun _ => (steady_readLengths _ _ _ _).bind fun _ => steady_done _

/-- A stored block holds all of its bytes, so more of them behind it are not taken. -/
theorem steady_expandStored (bytes : Array UInt8) :
    Steady fun reader => expandStored bytes reader := by
  intro reader value after h more
  simp only [expandStored] at h ⊢
  cases sized : (⟨[], reader.rest⟩ : Reader).number? 16 with
  | none => simp [sized] at h
  | some first =>
    obtain ⟨size, between⟩ := first
    cases checked : between.number? 16 with
    | none => simp [sized, checked] at h
    | some second =>
      obtain ⟨check, last⟩ := second
      have sized' : (⟨[], reader.rest ++ more⟩ : Reader).number? 16
          = some (size, between.followedBy more) := steady_number 16 sized more
      have checked' := steady_number 16 checked more
      simp only [sized, checked] at h
      by_cases wrong : size + check ≠ 65535 ∨ last.rest.length < size
      · rw [if_pos wrong] at h
        cases h
      · rw [if_neg wrong] at h
        obtain ⟨rfl, rfl⟩ := Prod.mk.inj (Option.some.inj h)
        simp only [not_or, ne_eq, Decidable.not_not, Nat.not_lt] at wrong
        obtain ⟨whole, within⟩ := wrong
        have right : ¬ (size + check ≠ 65535 ∨ (last.rest ++ more).length < size) := by
          rw [List.length_append]
          omega
        simp only [Reader.rest_followedBy, sized', checked', if_neg right,
          List.take_append_of_le_length within, List.drop_append_of_le_length within]
        rfl

theorem bitCount_le_followedBy (reader : Reader) (more : Bytes) :
    reader.bitCount ≤ (reader.followedBy more).bitCount := by
  simp only [Reader.bitCount, Reader.held_followedBy, Reader.rest_followedBy, List.length_append]
  omega

theorem steady_expandToken (trees : Trees) (bytes : Array UInt8) :
    Steady fun reader => expandToken trees bytes reader := by
  refine (steady_read trees.literals).bind fun symbol => ?_
  refine Steady.ite (steady_done _) (Steady.ite (steady_done (bytes, true)) ?_)
  refine (steady_readClass _ _).bind fun length => ?_
  refine (steady_read trees.distances).bind fun symbol => ?_
  exact (steady_readClass _ _).bind fun distance =>
    Steady.ite continues_none (steady_done (copyBytes distance bytes length, false))

/-- One token is expanded, and then the others unless it ends the block. -/
theorem expandTokens_succ (trees : Trees) (steps : Nat) (bytes : Array UInt8) (reader : Reader) :
    expandTokens trees (steps + 1) bytes reader = (do
      let ((bytes, ends), reader) ← expandToken trees bytes reader
      if ends then some (bytes, reader) else expandTokens trees steps bytes reader) := by
  rw [expandTokens]
  cases expandToken trees bytes reader <;> rfl

/-- Tokens are expanded the same way with more steps than needed. -/
theorem continues_expandTokens (trees : Trees) {steps enough : Nat} (atLeast : steps ≤ enough)
    (bytes : Array UInt8) :
    Continues (expandTokens trees steps bytes) (expandTokens trees enough bytes) := by
  induction steps generalizing bytes enough with
  | zero => exact continues_none
  | succ steps ih =>
    obtain ⟨enough, rfl⟩ : ∃ n, enough = n + 1 := ⟨enough - 1, by omega⟩
    rw [funext (expandTokens_succ trees steps bytes), funext (expandTokens_succ trees enough bytes)]
    refine Continues.bind (steady_expandToken trees bytes) fun ⟨bytes, ends⟩ => ?_
    exact Continues.ite (steady_done bytes) (ih (Nat.le_of_succ_le_succ atLeast) bytes)

theorem steady_expandTokens (trees : Trees) (bytes : Array UInt8) :
    Steady fun reader => expandTokens trees (reader.bitCount + 1) bytes reader := by
  intro reader value after h more
  -- how many steps there are depends on the bytes that are left, so there are more of them now
  have atLeast := Nat.succ_le_succ (bitCount_le_followedBy reader more)
  exact continues_expandTokens trees atLeast bytes h more

theorem steady_expandBlock (kind : Nat) (bytes : Array UInt8) :
    Steady fun reader => expandBlock kind bytes reader := by
  match kind with
  | 0 => exact steady_expandStored bytes
  | 1 => exact steady_expandTokens _ bytes
  | 2 =>
    have read (reader : Reader) : expandBlock 2 bytes reader = readTrees? reader >>= fun found =>
        expandTokens found.1 (found.2.bitCount + 1) bytes found.2 := by
      rw [expandBlock]
      cases readTrees? reader <;> rfl
    simp only [read]
    exact steady_readTrees.bind fun trees => steady_expandTokens trees bytes
  | _ + 3 => exact continues_none

/-- One block is expanded, and then the others unless it is marked as the last one. -/
theorem expandBlocks_succ (steps : Nat) (bytes : Array UInt8) (reader : Reader) :
    expandBlocks (steps + 1) bytes reader = (do
      let (last, reader) ← reader.bit?
      let (kind, reader) ← reader.number? 2
      let (bytes, reader) ← expandBlock kind bytes reader
      if last then some (bytes, reader) else expandBlocks steps bytes reader) := by
  rw [expandBlocks]
  cases reader.bit? with
  | none => rfl
  | some last =>
    cases told : last.2.number? 2 with
    | none => simp [told]
    | some kind => cases block : expandBlock kind.1 bytes kind.2 <;> simp [told, block]

theorem continues_expandBlocks {steps enough : Nat} (atLeast : steps ≤ enough)
    (bytes : Array UInt8) :
    Continues (expandBlocks steps bytes) (expandBlocks enough bytes) := by
  induction steps generalizing bytes enough with
  | zero => exact continues_none
  | succ steps ih =>
    obtain ⟨enough, rfl⟩ : ∃ n, enough = n + 1 := ⟨enough - 1, by omega⟩
    rw [funext (expandBlocks_succ steps bytes), funext (expandBlocks_succ enough bytes)]
    refine Continues.bind steady_bit fun last => ?_
    refine Continues.bind (steady_number 2) fun kind => ?_
    refine Continues.bind (steady_expandBlock kind bytes) fun bytes => ?_
    exact Continues.ite (steady_done bytes) (ih (Nat.le_of_succ_le_succ atLeast) bytes)

/-- A stream that can be expanded is expanded the same way in front of other bytes. -/
theorem expand?_append {stream expanded rest : Bytes} (h : expand? stream = some (expanded, rest))
    (more : Bytes) : expand? (stream ++ more) = some (expanded, rest ++ more) := by
  obtain ⟨⟨bytes, after⟩, blocks, same⟩ := Option.map_eq_some_iff.mp h
  obtain ⟨rfl, rfl⟩ := Prod.mk.inj same
  have atLeast : stream.length + 1 ≤ (stream ++ more).length + 1 := by
    rw [List.length_append]
    omega
  have all := continues_expandBlocks atLeast #[] blocks more
  rw [expand?]
  exact Option.map_eq_some_iff.mpr ⟨_, all, rfl⟩

/-! ## Bits of whole bytes -/

theorem ofBits_append (first second : List Bool) :
    ofBits (first ++ second) = ofBits first + 2 ^ first.length * ofBits second := by
  induction first with
  | nil => simp [ofBits]
  | cons bit rest ih =>
    simp only [ofBits] at ih
    simp only [ofBits, List.cons_append, List.foldr_cons, ih, List.length_cons, Nat.pow_succ]
    ring

theorem length_bitsOf (width n : Nat) : (bitsOf width n).length = width := by
  induction width generalizing n with
  | zero => rfl
  | succ width ih => simp [bitsOf, ih]

theorem ofBits_bitsOf (width n : Nat) : ofBits (bitsOf width n) = n % 2 ^ width := by
  induction width generalizing n with
  | zero => simp [bitsOf, ofBits, Nat.mod_one]
  | succ width ih =>
    have lowest : (n % 2 == 1).toNat = n % 2 := by
      rcases Nat.mod_two_eq_zero_or_one n with even | odd
      · simp [even]
      · simp [odd]
    have higher : ofBits (bitsOf width (n / 2)) = n / 2 % 2 ^ width := ih (n / 2)
    simp only [ofBits] at higher
    simp only [bitsOf, ofBits, List.foldr_cons, higher, lowest]
    rw [Nat.pow_succ, Nat.mul_comm (2 ^ width) 2, Nat.mod_mul]

/-- Two bytes are a number of sixteen bits, the lower byte first. -/
theorem number_of_two_bytes (low high : UInt8) (rest : Bytes) :
    (⟨[], low :: high :: rest⟩ : Reader).number? 16
      = some (low.toNat + 256 * high.toNat, ⟨[], rest⟩) := by
  have bits : (⟨[], low :: high :: rest⟩ : Reader).bits? 16
      = some (bitsOf 8 low.toNat ++ bitsOf 8 high.toNat, ⟨[], rest⟩) := rfl
  have small := low.toNat_lt
  have small' := high.toNat_lt
  simp only [Reader.number?, bits, Option.map_some]
  rw [ofBits_append, length_bitsOf, ofBits_bitsOf, ofBits_bitsOf, Nat.mod_eq_of_lt (by omega),
    Nat.mod_eq_of_lt (by omega), (by decide : 2 ^ 8 = 256)]

end Deflate

namespace Gzip

open Deflate

/-! ## Stored blocks -/

/-- A number below 65536 is read back from its two bytes. -/
theorem number_of_littleEndian {n : Nat} (small : n ≤ 65535) (rest : Bytes) :
    (⟨[], littleEndian 2 n ++ rest⟩ : Reader).number? 16 = some (n, ⟨[], rest⟩) := by
  have bytes : littleEndian 2 n ++ rest = UInt8.ofNat n :: UInt8.ofNat (n / 256) :: rest := rfl
  have low : (UInt8.ofNat n).toNat = n % 256 := by simp
  have high : (UInt8.ofNat (n / 256)).toNat = n / 256 := by
    simpa using Nat.mod_eq_of_lt (by omega : n / 256 < 256)
  rw [bytes, number_of_two_bytes, low, high, Nat.mod_add_div]

/-- A stored block is expanded to what it stores. Whatever bits of its first byte are left over are
not looked at. -/
theorem expandStored_of_piece (bytes : Array UInt8) (held : List Bool) {piece : Bytes}
    (short : piece.length ≤ blockSize) (rest : Bytes) :
    expandStored bytes ⟨held, littleEndian 2 piece.length
        ++ (littleEndian 2 (65535 - piece.length) ++ (piece ++ rest))⟩
      = some (bytes ++ piece.toArray, ⟨[], rest⟩) := by
  have sized := number_of_littleEndian short
    (littleEndian 2 (65535 - piece.length) ++ (piece ++ rest))
  have checked := number_of_littleEndian (Nat.sub_le 65535 piece.length) (piece ++ rest)
  have right : ¬ (piece.length + (65535 - piece.length) ≠ 65535
      ∨ (piece ++ rest).length < piece.length) := by
    rw [List.length_append]
    simp only [blockSize] at short
    omega
  simp only [expandStored, sized, checked, if_neg right, List.take_left, List.drop_left]

theorem expandBlocks_storedBlock (steps : Nat) (bytes : Array UInt8) (last : Bool) {piece : Bytes}
    (short : piece.length ≤ blockSize) (rest : Bytes) :
    expandBlocks (steps + 1) bytes ⟨[], storedBlock last piece ++ rest⟩
      = if last then some (bytes ++ piece.toArray, ⟨[], rest⟩)
        else expandBlocks steps (bytes ++ piece.toArray) ⟨[], rest⟩ := by
  have marked (body : Bytes) : (⟨[], (if last then 1 else 0) :: body⟩ : Reader).bit?
      = some (last, ⟨List.replicate 7 false, body⟩) := by
    cases last <;> rfl
  have kind (body : Bytes) : (⟨List.replicate 7 false, body⟩ : Reader).number? 2
      = some (Kind.stored.number, ⟨List.replicate 5 false, body⟩) := rfl
  have stored := expandStored_of_piece bytes (List.replicate 5 false) short rest
  simp only [storedBlock, List.cons_append, List.append_assoc, expandBlocks, marked, kind,
    Kind.number, expandBlock, stored]

theorem length_le_storedBlocks (pieces : List Bytes) :
    pieces.length ≤ (storedBlocks pieces).length := by
  fun_induction storedBlocks pieces with
  | case1 => simp
  | case2 piece => simp [storedBlock]
  | case3 piece rest more ih =>
    simp only [List.length_cons, List.length_append, storedBlock] at ih ⊢
    omega

/-- Stored blocks are expanded to their pieces in a row. -/
theorem expandBlocks_storedBlocks {pieces : List Bytes}
    (short : ∀ piece ∈ pieces, piece.length ≤ blockSize) {steps : Nat}
    (enough : pieces.length < steps) (bytes : Array UInt8) (rest : Bytes) :
    expandBlocks steps bytes ⟨[], storedBlocks pieces ++ rest⟩
      = some (bytes ++ pieces.flatten.toArray, ⟨[], rest⟩) := by
  obtain ⟨steps, rfl⟩ : ∃ n, steps = n + 1 := ⟨steps - 1, by omega⟩
  fun_induction storedBlocks pieces generalizing bytes steps with
  | case1 =>
    rw [expandBlocks_storedBlock steps bytes true (by simp)]
    simp
  | case2 piece =>
    rw [expandBlocks_storedBlock steps bytes true (short piece (by simp))]
    simp
  | case3 piece pieces more ih =>
    obtain ⟨first, others⟩ := List.forall_mem_cons.mp short
    simp only [List.length_cons] at enough
    obtain ⟨steps, rfl⟩ : ∃ n, steps = n + 1 := ⟨steps - 1, by omega⟩
    simp only [List.append_assoc, expandBlocks_storedBlock _ bytes false first,
      Bool.false_eq_true, if_false]
    rw [ih others _ steps (by omega)]
    simp

end Gzip

/-! ## A stream and what it packs -/

namespace Gzip

open Deflate

/-- Whichever form a stream is packed in, it expands to the stream in front of anything. -/
theorem expand?_body_append (bytes rest : Bytes) :
    expand? (body bytes ++ rest) = some (bytes, rest) := by
  have stored : expand? (storedBlocks (chunks blockSize bytes) ++ rest) = some (bytes, rest) := by
    have short : ∀ piece ∈ chunks blockSize bytes, piece.length ≤ blockSize :=
      fun piece member => length_le_of_mem_chunks (by decide) member
    have enough : (chunks blockSize bytes).length
        < (storedBlocks (chunks blockSize bytes) ++ rest).length + 1 := by
      have := length_le_storedBlocks (chunks blockSize bytes)
      rw [List.length_append]
      omega
    rw [expand?, expandBlocks_storedBlocks short enough, flatten_chunks]
    simp
  cases expanded : expand? (compress bytes) with
  | none => simpa only [body, expanded] using stored
  | some found =>
    obtain ⟨again, left⟩ := found
    cases left with
    | cons byte left => simpa only [body, expanded] using stored
    | nil =>
      by_cases same : (again == bytes) = true
      · have alike : again = bytes := by simpa using same
        simp only [body, expanded, if_pos same]
        rw [expand?_append expanded rest, alike, List.nil_append]
      · simpa only [body, expanded, if_neg same] using stored

/-- Unpacking gives back what was packed. -/
theorem unpack?_pack (bytes : Bytes) : unpack? (pack bytes) = some bytes := by
  have front : (pack bytes).take header.length = header := by
    rw [pack, List.append_assoc, List.take_left]
  have back : (pack bytes).drop header.length = body bytes ++ trailer bytes := by
    rw [pack, List.append_assoc, List.drop_left]
  rw [unpack?, front, back, expand?_body_append]
  simp

end Gzip

end CheckedBuild
