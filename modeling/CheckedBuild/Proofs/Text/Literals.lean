import Mathlib.Algebra.Ring.Parity
import Mathlib.Data.List.Basic
import Mathlib.Data.List.Induction
import CheckedBuild.Text.Literal

/-!
# Literals and numbers read again

A text in a literal is read back as itself, whatever follows it. Each of its escapes is complete:
none takes a character that comes after it, and no quote ends the literal early. A number in
decimal digits is read as itself, too, and its first digit is a zero only if it is zero.
-/

namespace CheckedBuild.Text

/-! ## Reading a literal -/

/-- The value of an octal digit. -/
def octalDigit? (c : Char) : Option Nat :=
  if '0' ≤ c ∧ c ≤ '7' then some (c.toNat - '0'.toNat) else none

/-- The number whose digits so far denote `value`, of which at most `more` digits follow, and what
follows the number. -/
def readOctal (value : Nat) : Nat → List Char → Nat × List Char
  | 0, s => (value, s)
  | _ + 1, [] => (value, [])
  | more + 1, c :: rest =>
    match octalDigit? c with
    | some d => readOctal (8 * value + d) more rest
    | none => (value, c :: rest)

/-- What an escape denotes, read from behind its backslash, and what follows it. As many octal
digits are taken as there are, but no more than three. -/
def readEscape : List Char → Option (Char × List Char)
  | [] => none
  | c :: rest =>
    if c = '\\' ∨ c = '"' then some (c, rest)
    else if c = 'n' then some ('\n', rest)
    else if c = 't' then some ('\t', rest)
    else (octalDigit? c).map fun d =>
      (Char.ofNat (readOctal d 2 rest).1, (readOctal d 2 rest).2)

theorem length_readOctal_le (value more : Nat) (s : List Char) :
    (readOctal value more s).2.length ≤ s.length := by
  fun_induction readOctal value more s with
  | case1 | case2 | case4 => exact Nat.le_refl _
  | case3 value more c rest d digit ih => exact Nat.le_succ_of_le ih

theorem length_lt_of_readEscape {s rest : List Char} {c : Char}
    (read : readEscape s = some (c, rest)) : rest.length < s.length := by
  cases s with
  | nil => cases read
  | cons first others =>
    suffices short : rest.length ≤ others.length from Nat.lt_succ_of_le short
    rw [readEscape] at read
    split_ifs at read with itself lineFeed tab
    · cases read
      exact Nat.le_refl _
    · cases read
      exact Nat.le_refl _
    · cases read
      exact Nat.le_refl _
    · obtain ⟨d, -, denoted⟩ := Option.map_eq_some_iff.mp read
      cases denoted
      exact length_readOctal_le d 2 others

/-- What a literal denotes, read from behind its opening quote, and what follows its closing one. -/
def readLiteral : List Char → Option (List Char × List Char)
  | [] => none
  | c :: rest =>
    if c = '"' then some ([], rest)
    else if c = '\\' then
      match _ : readEscape rest with
      | some (denoted, after) => (readLiteral after).map fun (s, left) => (denoted :: s, left)
      | none => none
    else if c = '\n' then none
    else (readLiteral rest).map fun (s, left) => (c :: s, left)
termination_by s => s.length
decreasing_by
  · have := length_lt_of_readEscape ‹_›
    simp only [List.length_cons]
    omega
  · simp

/-- A character that stands for itself in a literal. -/
def isPlain (c : Char) : Bool := c != '"' && c != '\\' && c != '\n'

theorem readLiteral_plain {c : Char} (plain : isPlain c = true) (rest : List Char) :
    readLiteral (c :: rest) = (readLiteral rest).map fun (s, left) => (c :: s, left) := by
  simp only [isPlain, Bool.and_eq_true, bne_iff_ne, ne_eq] at plain
  obtain ⟨⟨noQuote, noBackslash⟩, noLineFeed⟩ := plain
  rw [readLiteral, if_neg noQuote, if_neg noBackslash, if_neg noLineFeed]

theorem readLiteral_escape {c : Char} {s rest : List Char}
    (escape : readEscape s = some (c, rest)) :
    readLiteral ('\\' :: s) = (readLiteral rest).map fun (t, left) => (c :: t, left) := by
  rw [readLiteral, if_neg (by decide), if_pos rfl]
  split
  · rename_i denoted after found
    rw [escape, Option.some.injEq, Prod.mk.injEq] at found
    rw [← found.1, ← found.2]
  · rename_i found
    rw [escape] at found
    cases found

theorem digit_octal {d : Nat} (below : d < 8) : octalDigit? (digit d) = some d
    ∧ (digit d).isDigit = true ∧ isControl (digit d) = false := by
  have all : ∀ d < 8, octalDigit? (digit d) = some d
      ∧ (digit d).isDigit = true ∧ isControl (digit d) = false := by decide
  exact all d below

theorem ne_of_isDigit {c other : Char} (decimal : c.isDigit = true)
    (noDigit : other.isDigit = false) : c ≠ other := by
  rintro rfl
  rw [noDigit] at decimal
  cases decimal

/-- Three digits are all that an octal escape takes. -/
theorem readEscape_octal {n : Nat} (small : n < 512) (rest : List Char) :
    readEscape (octal n ++ rest) = some (Char.ofNat n, rest) := by
  obtain ⟨first, decimal, -⟩ := digit_octal (show n / 64 < 8 by omega)
  obtain ⟨second, -⟩ := digit_octal (show n / 8 % 8 < 8 by omega)
  obtain ⟨third, -⟩ := digit_octal (show n % 8 < 8 by omega)
  have value : 8 * (8 * (n / 64) + n / 8 % 8) + n % 8 = n := by omega
  have noBackslash := ne_of_isDigit decimal (show '\\'.isDigit = false from rfl)
  have noQuote := ne_of_isDigit decimal (show '"'.isDigit = false from rfl)
  have noLineFeed := ne_of_isDigit decimal (show 'n'.isDigit = false from rfl)
  have noTab := ne_of_isDigit decimal (show 't'.isDigit = false from rfl)
  simp [readEscape, octal, readOctal, first, second, third, value, noBackslash, noQuote,
    noLineFeed, noTab]

theorem toNat_lt_of_isControl {c : Char} (control : isControl c = true) : c.toNat < 512 := by
  simp only [isControl, Bool.or_eq_true, decide_eq_true_eq, beq_iff_eq] at control
  omega

/-- Every character is read back from what is written for it. -/
theorem readLiteral_literalCharacter (c : Char) (rest : List Char) :
    readLiteral (literalCharacter c ++ rest)
      = (readLiteral rest).map fun (s, left) => (c :: s, left) := by
  rw [literalCharacter]
  split_ifs with backslash quote lineFeed tab control
  · subst backslash
    exact readLiteral_escape rfl
  · subst quote
    exact readLiteral_escape rfl
  · subst lineFeed
    exact readLiteral_escape rfl
  · subst tab
    exact readLiteral_escape rfl
  · have escape := readEscape_octal (toNat_lt_of_isControl control) rest
    rw [Char.ofNat_toNat] at escape
    exact readLiteral_escape escape
  · exact readLiteral_plain (by simp [isPlain, backslash, quote, lineFeed]) rest

theorem readLiteral_flatMap {write : Char → List Char} {s : List Char}
    (each : ∀ c ∈ s, ∀ rest, readLiteral (write c ++ rest)
      = (readLiteral rest).map fun (t, left) => (c :: t, left)) (rest : List Char) :
    readLiteral (s.flatMap write ++ rest)
      = (readLiteral rest).map fun (t, left) => (s ++ t, left) := by
  induction s with
  | nil => simp
  | cons c s ih =>
    obtain ⟨first, others⟩ := List.forall_mem_cons.mp each
    rw [List.flatMap_cons, List.append_assoc, first, ih others]
    simp [Option.map_map, Function.comp_def]

theorem readLiteral_literal (s rest : List Char) :
    readLiteral (literal s ++ rest)
      = (readLiteral rest).map fun (t, left) => (s ++ t, left) :=
  readLiteral_flatMap (fun c _ => readLiteral_literalCharacter c) rest

theorem readLiteral_of_isPlain {s : List Char} (plain : ∀ c ∈ s, isPlain c = true)
    (rest : List Char) :
    readLiteral (s ++ rest) = (readLiteral rest).map fun (t, left) => (s ++ t, left) := by
  have each : ∀ c ∈ s, ∀ rest, readLiteral ([c] ++ rest)
      = (readLiteral rest).map fun (t, left) => (c :: t, left) :=
    fun c member => readLiteral_plain (plain c member)
  have read := readLiteral_flatMap each rest
  rwa [List.flatMap_singleton'] at read

/-! ## Quotes and backslashes -/

/-- How many backslashes a text ends with. -/
def backslashes (s : List Char) : Nat := (s.reverse.takeWhile (· == '\\')).length

/-- Each quote in the text comes behind an odd run of backslashes. -/
def Guarded (written : List Char) : Prop :=
  ∀ before after, written = before ++ '"' :: after → Odd (backslashes before)

theorem backslashes_concat (s : List Char) (c : Char) :
    backslashes (s ++ [c]) = if c = '\\' then backslashes s + 1 else 0 := by
  by_cases backslash : c = '\\'
  · simp [backslashes, backslash]
  · simp [backslashes, backslash]

theorem guarded_concat {written : List Char} {c : Char} :
    Guarded (written ++ [c]) ↔ Guarded written ∧ (c = '"' → Odd (backslashes written)) := by
  constructor
  · intro guarded
    constructor
    · intro before after split
      exact guarded before (after ++ [c]) (by simp [split])
    · rintro rfl
      exact guarded written [] rfl
  · rintro ⟨guarded, last⟩ before after split
    rcases List.eq_nil_or_concat after with rfl | ⟨others, other, rfl⟩
    · obtain ⟨rfl, same⟩ := List.append_inj' split rfl
      exact last (List.head_eq_of_cons_eq same)
    · rw [List.concat_eq_append, ← List.cons_append, ← List.append_assoc] at split
      exact guarded before others (List.append_inj' split rfl).1

/-- A text after which a quote would end the literal, and not before. -/
structure Closable (written : List Char) : Prop where
  guarded : Guarded written
  even : Even (backslashes written)

theorem closable_nil : Closable [] where
  guarded := by
    intro before after split
    simp at split
  even := ⟨0, rfl⟩

theorem Closable.plain {written : List Char} (closable : Closable written) {c : Char}
    (noQuote : c ≠ '"') (noBackslash : c ≠ '\\') : Closable (written ++ [c]) where
  guarded := guarded_concat.mpr ⟨closable.guarded, fun quote => absurd quote noQuote⟩
  even := by
    rw [backslashes_concat, if_neg noBackslash]
    exact ⟨0, rfl⟩

/-- An escape does not change whether a quote behind it would end the literal. -/
theorem Closable.escape {written : List Char} (closable : Closable written) (c : Char) :
    Closable (written ++ ['\\', c]) := by
  have odd : Odd (backslashes (written ++ ['\\'])) := by
    rw [backslashes_concat, if_pos rfl]
    exact closable.even.add_one
  have guarded : Guarded (written ++ ['\\']) :=
    guarded_concat.mpr ⟨closable.guarded, fun quote => absurd quote (by decide)⟩
  rw [show written ++ ['\\', c] = written ++ ['\\'] ++ [c] by simp]
  constructor
  · exact guarded_concat.mpr ⟨guarded, fun _ => odd⟩
  · rw [backslashes_concat]
    split_ifs
    · exact odd.add_one
    · exact ⟨0, rfl⟩

theorem Closable.octal {written : List Char} (closable : Closable written) (n : Nat) :
    Closable (written ++ '\\' :: octal n) := by
  obtain ⟨-, second, -⟩ := digit_octal (show n / 8 % 8 < 8 by omega)
  obtain ⟨-, third, -⟩ := digit_octal (show n % 8 < 8 by omega)
  have closed := ((closable.escape (digit (n / 64))).plain (ne_of_isDigit second rfl)
    (ne_of_isDigit second rfl)).plain (ne_of_isDigit third rfl) (ne_of_isDigit third rfl)
  simpa [Text.octal] using closed

theorem Closable.literalCharacter {written : List Char} (closable : Closable written) (c : Char) :
    Closable (written ++ literalCharacter c) := by
  rw [Text.literalCharacter]
  split_ifs with backslash quote lineFeed tab control
  · exact closable.escape _
  · exact closable.escape _
  · exact closable.escape _
  · exact closable.escape _
  · exact closable.octal c.toNat
  · exact closable.plain quote backslash

theorem closable_literal (s : List Char) : Closable (literal s) := by
  induction s using List.reverseRecOn with
  | nil => exact closable_nil
  | append_singleton s c ih =>
    rw [literal, List.flatMap_append, ← literal]
    simpa using ih.literalCharacter c

/-! ## A text as it is written -/

theorem all_literalCharacter (c : Char) :
    (literalCharacter c).all (fun d => !isControl d) = true := by
  rw [literalCharacter]
  split_ifs with backslash quote lineFeed tab control
  · rfl
  · rfl
  · rfl
  · rfl
  · have small := toNat_lt_of_isControl control
    obtain ⟨-, -, first⟩ := digit_octal (show c.toNat / 64 < 8 by omega)
    obtain ⟨-, -, second⟩ := digit_octal (show c.toNat / 8 % 8 < 8 by omega)
    obtain ⟨-, -, third⟩ := digit_octal (show c.toNat % 8 < 8 by omega)
    have backslash : isControl '\\' = false := rfl
    simp [octal, backslash, first, second, third]
  · simpa using control

/-- What is written may stand between the quotes of a literal, and denotes the text there. -/
structure Denotes (written s : List Char) : Prop extends Closable written where
  printable : ∀ c ∈ written, isControl c = false
  read : ∀ rest, readLiteral (written ++ '"' :: rest) = some (s, rest)

theorem denotes_literal (s : List Char) : Denotes (literal s) s where
  toClosable := closable_literal s
  printable := by
    intro d member
    obtain ⟨c, -, written⟩ := List.mem_flatMap.mp member
    simpa using List.all_eq_true.mp (all_literalCharacter c) d written
  read := by
    intro rest
    rw [readLiteral_literal, readLiteral, if_pos rfl]
    simp

/-- Different texts are written differently. -/
theorem Denotes.unique {written s t : List Char} (denotes : Denotes written s)
    (other : Denotes written t) : s = t := by
  have same := (denotes.read []).symm.trans (other.read [])
  exact congrArg Prod.fst (Option.some.inj same)

/-! ## Numbers -/

theorem digitValue?_digitChar {digit : Nat} (below : digit < 10) :
    digitValue? (Nat.digitChar digit) = some digit := by
  have all : ∀ digit < 10, digitValue? (Nat.digitChar digit) = some digit := by decide
  exact all digit below

theorem naturalFrom?_append (read : Nat) (first second : List Char) :
    naturalFrom? read (first ++ second) = (naturalFrom? read first).bind (naturalFrom? · second) := by
  induction first generalizing read with
  | nil => rfl
  | cons c rest ih =>
    rw [List.cons_append, naturalFrom?, naturalFrom?]
    cases digitValue? c with
    | none => rfl
    | some value => exact ih (10 * read + value)

theorem naturalFrom?_toDigits (n : Nat) : naturalFrom? 0 (Nat.toDigits 10 n) = some n := by
  induction n using Nat.base_induction 10 (by decide) with
  | single n below => simp [Nat.toDigits_of_lt_base below, naturalFrom?, digitValue?_digitChar below]
  | digit n digit below positive ih =>
    rw [← Nat.toDigits_append_toDigits (by decide) positive below, naturalFrom?_append, ih,
      Nat.toDigits_of_lt_base below]
    simp [naturalFrom?, digitValue?_digitChar below]

theorem natural?_toDigits (n : Nat) : natural? (Nat.toDigits 10 n) = some n := by
  rw [natural?, if_neg Nat.toDigits_ne_nil, naturalFrom?_toDigits]

/-- No digit is needless. -/
theorem eq_zero_of_head?_toDigits {n : Nat} (zero : (Nat.toDigits 10 n).head? = some '0') :
    n = 0 := by
  induction n using Nat.base_induction 10 (by decide) with
  | single n below =>
    rw [Nat.toDigits_of_lt_base below, List.head?_cons, Option.some.injEq] at zero
    have value := digitValue?_digitChar below
    rw [zero] at value
    exact (Option.some.inj value).symm
  | digit n digit below positive ih =>
    rw [← Nat.toDigits_append_toDigits (by decide) positive below,
      List.head?_append_of_ne_nil _ Nat.toDigits_ne_nil] at zero
    exact absurd (ih zero) (Nat.ne_of_gt positive)

end CheckedBuild.Text
