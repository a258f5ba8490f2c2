import Mathlib.Algebra.Group.Nat.Defs
import Mathlib.Data.List.TakeWhile
import CheckedBuild.Proofs.Instrumentation.Flags
import CheckedBuild.Proofs.Path.Directories
import CheckedBuild.Proofs.Text.Literals

/-!
# The version that a banner announces

A banner may say anything before and behind the version. What counts is the first place where the
phrase stands, in any case, with a version behind it, and the longest version there. Its first two
numbers are taken at their value or not at all, and its text, having no slash in it, is one component
of a path. Nothing is said about a third number but that it belongs to the text.
-/

namespace CheckedBuild

open Text

/-- One or more digits of any script. -/
structure IsNumber (s : List Char) : Prop where
  nonempty : s ≠ []
  digits : ∀ c ∈ s, isDigit c = true

/-- Two or three numbers with dots between. -/
structure IsVersion (text : List Char) : Prop where
  count : (pieces '.' text).length = 2 ∨ (pieces '.' text).length = 3
  numbers : ∀ part ∈ pieces '.' text, IsNumber part

/-- The phrase in front of a version, in any case. -/
def IsPhrase (s : List Char) : Prop := s.map foldCase = "clang version ".toList

/-- Behind `before` the banner has the phrase and then the version `text`. -/
def Announces (banner before text : List Char) : Prop :=
  IsVersion text ∧ ∃ phrase rest, IsPhrase phrase ∧ banner = before ++ (phrase ++ (text ++ rest))

/-- The version that is announced first, and the longest of those that start where it does. -/
def AnnouncedFirst (banner text : List Char) : Prop :=
  ∃ before, Announces banner before text ∧ ∀ before' text', Announces banner before' text' →
    before.length < before'.length
      ∨ (before.length = before'.length ∧ text'.length ≤ text.length)

/-! ## Numbers -/

theorem IsNumber.notMem {s : List Char} (number : IsNumber s) {c : Char}
    (other : isDigit c = false) : c ∉ s := by
  intro member
  rw [number.digits c member] at other
  cases other

/-- A number goes on as long as digits follow. -/
theorem takeNumber?_append {digits : List Char} (number : IsNumber digits) (rest : List Char) :
    takeNumber? (digits ++ rest)
      = some (digits ++ rest.takeWhile isDigit, rest.dropWhile isDigit) := by
  unfold takeNumber?
  rw [List.takeWhile_append_of_pos number.digits, List.dropWhile_append_of_pos number.digits]
  cases digits with
  | nil => exact absurd rfl number.nonempty
  | cons c digits => rfl

theorem takeNumber?_eq_some {s digits rest : List Char} (read : takeNumber? s = some (digits, rest)) :
    IsNumber digits ∧ s = digits ++ rest := by
  unfold takeNumber? at read
  split at read
  · cases read
  · next some =>
    cases read
    exact ⟨⟨some, fun c => List.mem_takeWhile_imp⟩, List.takeWhile_append_dropWhile.symm⟩

theorem isNumber_toDigits (n : Nat) : IsNumber (Nat.toDigits 10 n) where
  nonempty := Nat.toDigits_ne_nil
  digits c member := by
    have digit := Nat.isDigit_of_mem_toDigits (by decide) (by decide) member
    simp only [Char.isDigit, Bool.and_eq_true, decide_eq_true_eq] at digit
    have least : 48 ≤ c.toNat := UInt32.le_iff_toNat_le.mp digit.1
    have most : c.toNat ≤ 57 := UInt32.le_iff_toNat_le.mp digit.2
    exact List.any_eq_true.mpr ⟨(48, 57), List.mem_cons_self, by simp only [least, most]; rfl⟩

/-! ## The first place -/

theorem firstTail?_eq_some {α : Type} {read? : List Char → Option α} {s : List Char} {found : α}
    (h : firstTail? read? s = some found) :
    ∃ before rest, s = before ++ rest ∧ read? rest = some found
      ∧ ∀ before' rest', s = before' ++ rest' → (read? rest').isSome = true →
        before.length ≤ before'.length := by
  induction s with
  | nil =>
    exact ⟨[], [], rfl, h, fun _ _ _ _ => Nat.zero_le _⟩
  | cons c rest ih =>
    unfold firstTail? at h
    cases here : read? (c :: rest) with
    | some value =>
      rw [here] at h
      exact ⟨[], c :: rest, rfl, here.trans h, fun _ _ _ _ => Nat.zero_le _⟩
    | none =>
      rw [here] at h
      obtain ⟨before, behind, rfl, read, least⟩ := ih h
      refine ⟨c :: before, behind, rfl, read, fun before' rest' split reads => ?_⟩
      cases before' with
      | nil =>
        rw [← (show c :: (before ++ behind) = rest' from split), here] at reads
        cases reads
      | cons d before' =>
        exact Nat.succ_le_succ (least before' rest' (List.cons.inj split).2 reads)

theorem isSome_firstTail? {α : Type} {read? : List Char → Option α} {rest : List Char}
    (reads : (read? rest).isSome = true) (before : List Char) :
    (firstTail? read? (before ++ rest)).isSome = true := by
  induction before with
  | nil =>
    cases rest with
    | nil => exact reads
    | cons c rest =>
      obtain ⟨found, here⟩ := Option.isSome_iff_exists.mp reads
      simp [firstTail?, here]
  | cons c before ih =>
    rw [List.cons_append, firstTail?]
    split
    · rfl
    · exact ih

/-! ## Versions -/

theorem isVersion_joinWith {parts : List (List Char)} (count : parts.length = 2 ∨ parts.length = 3)
    (numbers : ∀ part ∈ parts, IsNumber part) :
    IsVersion (joinWith ['.'] parts) ∧ pieces '.' (joinWith ['.'] parts) = parts := by
  have some : parts ≠ [] := by
    rintro rfl
    simp at count
  have dot : isDigit '.' = false := by decide
  have split := pieces_joinWith some fun part member => (numbers part member).notMem dot
  exact ⟨⟨by rwa [split], by rwa [split]⟩, split⟩

/-- A version consists of two numbers, or of three. -/
theorem isVersion_cases {text : List Char} (version : IsVersion text) :
    ∃ major minor, IsNumber major ∧ IsNumber minor
      ∧ (text = major ++ '.' :: minor
        ∨ ∃ patch, IsNumber patch ∧ text = major ++ '.' :: (minor ++ '.' :: patch)) := by
  have whole := joinWith_pieces '.' text
  obtain ⟨count, numbers⟩ := version
  generalize pieces '.' text = parts at whole count numbers
  match parts, count with
  | [major, minor], _ =>
    refine ⟨major, minor, numbers _ (by simp), numbers _ (by simp), Or.inl ?_⟩
    simpa [joinWith_cons] using whole.symm
  | [major, minor, patch], _ =>
    refine ⟨major, minor, numbers _ (by simp), numbers _ (by simp),
      Or.inr ⟨patch, numbers _ (by simp), ?_⟩⟩
    simpa [joinWith_cons] using whole.symm

namespace CompilerVersion

/-- What is read behind two numbers as the third, with its dot. -/
def Spelling.patch (s : List Char) : List Char :=
  match after? ['.'] s >>= takeNumber? with
  | some (digits, _) => '.' :: digits
  | none => []

theorem Spelling.read?_append {major minor : List Char} (number : IsNumber major)
    (number' : IsNumber minor) (rest : List Char) :
    read? (major ++ '.' :: (minor ++ rest)) = some
      ⟨major ++ '.' :: (minor ++ rest.takeWhile isDigit) ++ patch (rest.dropWhile isDigit), major,
        minor ++ rest.takeWhile isDigit⟩ := by
  have dot : isDigit '.' = false := by decide
  have first := takeNumber?_append number ('.' :: (minor ++ rest))
  rw [List.takeWhile_cons_of_neg (by simp [dot]), List.dropWhile_cons_of_neg (by simp [dot]),
    List.append_nil] at first
  have behind : after? ['.'] ('.' :: (minor ++ rest)) = some (minor ++ rest) :=
    after?_eq_some_iff.mpr rfl
  simp only [read?, first, behind, Option.bind_eq_bind, Option.bind_some,
    takeNumber?_append number' rest]
  rfl

/-- A second number is complete where a dot stands behind it. -/
theorem Spelling.read?_append_dot {major minor : List Char} (number : IsNumber major)
    (number' : IsNumber minor) (rest : List Char) :
    read? (major ++ '.' :: (minor ++ '.' :: rest))
      = some ⟨major ++ '.' :: minor ++ patch ('.' :: rest), major, minor⟩ := by
  have dot : ¬ isDigit '.' = true := by decide
  rw [read?_append number number', List.takeWhile_cons_of_neg dot, List.dropWhile_cons_of_neg dot,
    List.append_nil]

theorem Spelling.patch_append {digits : List Char} (number : IsNumber digits) (rest : List Char) :
    patch ('.' :: (digits ++ rest)) = '.' :: (digits ++ rest.takeWhile isDigit) := by
  have behind : after? ['.'] ('.' :: (digits ++ rest)) = some (digits ++ rest) :=
    after?_eq_some_iff.mpr rfl
  simp only [patch, behind, Option.bind_eq_bind, Option.bind_some, takeNumber?_append number rest]

theorem Spelling.patch_cases (s : List Char) :
    patch s = [] ∨ ∃ digits rest, IsNumber digits ∧ patch s = '.' :: digits
      ∧ s = '.' :: (digits ++ rest) := by
  unfold patch
  cases third : after? ['.'] s >>= takeNumber? with
  | none => exact Or.inl rfl
  | some found =>
    obtain ⟨digits, rest⟩ := found
    obtain ⟨behind, dot, taken⟩ := Option.bind_eq_some_iff.mp third
    obtain ⟨number, rfl⟩ := takeNumber?_eq_some taken
    exact Or.inr ⟨digits, rest, number, rfl, after?_eq_some_iff.mp dot⟩

/-- What is read is a version at the front of the text, with its first two numbers. -/
theorem Spelling.read?_eq_some {s : List Char} {spelling : Spelling}
    (read : read? s = some spelling) :
    IsVersion spelling.text
      ∧ (∃ more, pieces '.' spelling.text = spelling.major :: spelling.minor :: more)
      ∧ ∃ rest, s = spelling.text ++ rest := by
  obtain ⟨⟨major, afterMajor⟩, first, others⟩ := Option.bind_eq_some_iff.mp read
  obtain ⟨⟨minor, afterMinor⟩, second, spelled⟩ := Option.bind_eq_some_iff.mp others
  obtain ⟨behind, dot, third⟩ := Option.bind_eq_some_iff.mp second
  obtain ⟨number, whole⟩ := takeNumber?_eq_some first
  obtain ⟨number', whole'⟩ := takeNumber?_eq_some third
  have dotted : afterMajor = '.' :: behind := after?_eq_some_iff.mp dot
  obtain rfl : spelling = ⟨major ++ '.' :: minor ++ patch afterMinor, major, minor⟩ :=
    (Option.some.inj spelled).symm
  rw [whole, dotted, whole']
  rcases patch_cases afterMinor with none | ⟨digits, rest, number'', third, rfl⟩
  · have numbers : ∀ part ∈ [major, minor], IsNumber part := by simp [number, number']
    obtain ⟨version, split⟩ := isVersion_joinWith (Or.inl rfl) numbers
    have text : joinWith ['.'] [major, minor] = major ++ '.' :: minor := by simp [joinWith_cons]
    rw [text] at version split
    simp only [none, List.append_nil]
    exact ⟨version, ⟨[], split⟩, afterMinor, by simp⟩
  · have numbers : ∀ part ∈ [major, minor, digits], IsNumber part := by
      simp [number, number', number'']
    obtain ⟨version, split⟩ := isVersion_joinWith (Or.inr rfl) numbers
    have text : joinWith ['.'] [major, minor, digits]
        = major ++ '.' :: minor ++ '.' :: digits := by simp [joinWith_cons]
    rw [text] at version split
    simp only [third]
    exact ⟨version, ⟨[digits], split⟩, rest, by simp⟩

/-- Where a version starts one is read, and none that starts there is longer. -/
theorem Spelling.exists_read? {text : List Char} (version : IsVersion text) (rest : List Char) :
    ∃ spelling, read? (text ++ rest) = some spelling ∧ text.length ≤ spelling.text.length := by
  obtain ⟨major, minor, number, number', rfl | ⟨patch, number'', rfl⟩⟩ := isVersion_cases version
  · refine ⟨_, by simpa using read?_append number number' rest, ?_⟩
    simp only [List.length_append, List.length_cons]
    omega
  · have read := read?_append_dot number number' (patch ++ rest)
    rw [patch_append number''] at read
    refine ⟨_, by simpa using read, ?_⟩
    simp only [List.length_append, List.length_cons]
    omega

theorem Spelling.length_le {text rest : List Char} (version : IsVersion text) {spelling : Spelling}
    (read : read? (text ++ rest) = some spelling) : text.length ≤ spelling.text.length := by
  obtain ⟨longest, read', atLeast⟩ := exists_read? version rest
  rw [read, Option.some.injEq] at read'
  exact read' ▸ atLeast

/-- A version with no digit behind it is read as it is. -/
theorem Spelling.read?_ofNumbers (major minor patch : Nat) {rest : List Char}
    (ends : ∀ c ∈ rest.head?, isDigit c = false) :
    ∃ spelling, read? ((ofNumbers major minor patch).full.toList ++ rest) = some spelling
      ∧ spelling.text = (ofNumbers major minor patch).full.toList := by
  have stops : rest.takeWhile isDigit = [] := by
    cases rest with
    | nil => rfl
    | cons c rest => exact List.takeWhile_cons_of_neg (by simp [ends c rfl])
  have read := read?_append_dot (isNumber_toDigits major) (isNumber_toDigits minor)
    (Nat.toDigits 10 patch ++ rest)
  rw [patch_append (isNumber_toDigits patch), stops, List.append_nil] at read
  exact ⟨_, by simpa [ofNumbers] using read, by simp [ofNumbers]⟩

end CompilerVersion

/-! ## The first version of a banner -/

theorem IsPhrase.length {phrase : List Char} (same : IsPhrase phrase) :
    phrase.length = "clang version ".toList.length := by
  rw [← same, List.length_map]

/-- Phrases at one place of a banner have the same text behind them. -/
theorem IsPhrase.behind_eq {phrase phrase' before before' behind behind' : List Char}
    (phrased : IsPhrase phrase) (phrased' : IsPhrase phrase')
    (whole : before ++ (phrase ++ behind) = before' ++ (phrase' ++ behind'))
    (place : before.length = before'.length) : behind = behind' := by
  obtain ⟨-, same⟩ := List.append_inj whole place
  exact (List.append_inj same (phrased.length.trans phrased'.length.symm)).2

theorem afterBanner?_eq_some_iff {s rest : List Char} :
    afterBanner? s = some rest ↔ ∃ phrase, IsPhrase phrase ∧ s = phrase ++ rest := by
  constructor
  · intro read
    simp only [afterBanner?] at read
    split_ifs at read with same
    obtain rfl := Option.some.inj read
    exact ⟨_, same, (List.take_append_drop _ s).symm⟩
  · rintro ⟨phrase, phrased, rfl⟩
    have same : phrase.map foldCase = "clang version ".toList := phrased
    have whole : (phrase ++ rest).take "clang version ".toList.length = phrase := by
      rw [← phrased.length, List.take_left]
    simp only [afterBanner?]
    rw [whole, if_pos same, ← phrased.length, List.drop_left]

/-- Only one version is announced first. -/
theorem AnnouncedFirst.unique {banner text text' : List Char} (one : AnnouncedFirst banner text)
    (other : AnnouncedFirst banner text') : text = text' := by
  obtain ⟨before, announces, least⟩ := one
  obtain ⟨before', announces', least'⟩ := other
  have ahead := least before' text' announces'
  have ahead' := least' before text announces
  obtain ⟨-, phrase, rest, phrased, whole⟩ := announces
  obtain ⟨-, phrase', rest', phrased', whole'⟩ := announces'
  have behind := phrased.behind_eq phrased' (whole.symm.trans whole') (by omega)
  exact (List.append_inj behind (by omega)).1

namespace CompilerVersion

theorem exists_spelling? {banner before text : List Char} (announces : Announces banner before text) :
    ∃ spelling, spelling? banner = some spelling := by
  obtain ⟨version, phrase, rest, phrased, rfl⟩ := announces
  obtain ⟨spelling, read, -⟩ := Spelling.exists_read? version rest
  refine Option.isSome_iff_exists.mp (isSome_firstTail? ?_ before)
  rw [afterBanner?_eq_some_iff.mpr ⟨phrase, phrased, rfl⟩]
  simp [read]

/-- What is read of a banner is the version that is announced first. -/
theorem announcedFirst_of_spelling? {banner : List Char} {spelling : Spelling}
    (h : spelling? banner = some spelling) :
    AnnouncedFirst banner spelling.text
      ∧ ∃ more, pieces '.' spelling.text = spelling.major :: spelling.minor :: more := by
  obtain ⟨before, tail, rfl, here, least⟩ := firstTail?_eq_some h
  obtain ⟨behind, introduced, read⟩ := Option.bind_eq_some_iff.mp here
  obtain ⟨phrase, phrased, rfl⟩ := afterBanner?_eq_some_iff.mp introduced
  obtain ⟨version, numbers, rest, rfl⟩ := Spelling.read?_eq_some read
  refine ⟨⟨before, ⟨version, phrase, rest, phrased, rfl⟩, fun before' text' announces => ?_⟩,
    numbers⟩
  obtain ⟨version', phrase', rest', phrased', whole⟩ := announces
  obtain ⟨longest, read', -⟩ := Spelling.exists_read? version' rest'
  have reads : (afterBanner? (phrase' ++ (text' ++ rest')) >>= Spelling.read?).isSome = true := by
    rw [afterBanner?_eq_some_iff.mpr ⟨phrase', phrased', rfl⟩]
    simp [read']
  rcases Nat.lt_or_eq_of_le (least before' _ whole reads) with later | same
  · exact Or.inl later
  · rw [phrased.behind_eq phrased' whole same] at read
    exact Or.inr ⟨same, Spelling.length_le version' read⟩

theorem parse?_eq_some_iff {banner : String} {version : CompilerVersion} :
    parse? banner = some version ↔ AnnouncedFirst banner.toList version.full.toList
      ∧ ∃ major minor more, pieces '.' version.full.toList = major :: minor :: more
        ∧ word? major = some version.major ∧ word? minor = some version.minor := by
  constructor
  · intro read
    obtain ⟨spelling, spelled, read⟩ := Option.bind_eq_some_iff.mp read
    obtain ⟨major, first, read⟩ := Option.bind_eq_some_iff.mp read
    obtain ⟨minor, second, read⟩ := Option.bind_eq_some_iff.mp read
    obtain rfl := Option.some.inj read
    obtain ⟨announced, more, numbers⟩ := announcedFirst_of_spelling? spelled
    rw [String.toList_ofList]
    exact ⟨announced, _, _, more, numbers, first, second⟩
  · rintro ⟨announced, major, minor, more, numbers, first, second⟩
    obtain ⟨before, announces, -⟩ := id announced
    obtain ⟨spelling, spelled⟩ := exists_spelling? announces
    obtain ⟨announced', more', numbers'⟩ := announcedFirst_of_spelling? spelled
    have same := announced'.unique announced
    rw [same, numbers] at numbers'
    obtain ⟨rfl, rest⟩ := List.cons.inj numbers'
    obtain ⟨rfl, -⟩ := List.cons.inj rest
    refine Option.bind_eq_some_iff.mpr ⟨spelling, spelled, ?_⟩
    refine Option.bind_eq_some_iff.mpr ⟨version.major, first, ?_⟩
    refine Option.bind_eq_some_iff.mpr ⟨version.minor, second, ?_⟩
    rw [same, String.ofList_toList]

end CompilerVersion

/-! ## Versions written out -/

theorem word?_eq_some_iff {digits : List Char} {n : Nat} :
    word? digits = some n ↔ natural? digits = some n ∧ n < 2 ^ 32 := by
  have power : Nat.pow 2 32 = 2 ^ 32 := rfl
  simp only [word?, Option.filter_eq_some_iff, decide_eq_true_iff, power]

theorem isVersion_ofNumbers (major minor patch : Nat) :
    IsVersion (CompilerVersion.ofNumbers major minor patch).full.toList
      ∧ pieces '.' (CompilerVersion.ofNumbers major minor patch).full.toList
        = [Nat.toDigits 10 major, Nat.toDigits 10 minor, Nat.toDigits 10 patch] := by
  have text : joinWith ['.'] [Nat.toDigits 10 major, Nat.toDigits 10 minor, Nat.toDigits 10 patch]
      = (CompilerVersion.ofNumbers major minor patch).full.toList := by
    simp [joinWith_cons, CompilerVersion.ofNumbers]
  rw [← text]
  exact isVersion_joinWith (Or.inr rfl) (by simp [isNumber_toDigits])

/-- No version is announced before the phrase if the phrase does not occur before: of its letters
only the first is one that it may start with. -/
theorem length_le_of_announces {before tail before' text : List Char}
    (silent : ∀ phrase, IsPhrase phrase → ¬ phrase <:+: before)
    (announces : Announces (before ++ ("clang version ".toList ++ tail)) before' text) :
    before.length ≤ before'.length := by
  obtain ⟨-, phrase, rest, phrased, whole⟩ := announces
  have length : phrase.length = 14 := phrased.length
  refine Nat.le_of_not_lt fun earlier => ?_
  by_cases inside : before'.length + 14 ≤ before.length
  · have first : before' ++ phrase <+: before ++ ("clang version ".toList ++ tail) :=
      ⟨text ++ rest, by rw [whole, List.append_assoc]⟩
    obtain ⟨more, rfl⟩ := List.prefix_of_prefix_length_le first (List.prefix_append _ _)
      (by rw [List.length_append, length]; exact inside)
    exact silent phrase phrased ⟨before', more, rfl⟩
  · have here : phrase[before.length - before'.length]? = some 'c' := calc
      _ = (phrase ++ (text ++ rest))[before.length - before'.length]? :=
          (List.getElem?_append_left (by omega)).symm
      _ = (before' ++ (phrase ++ (text ++ rest)))[before.length]? :=
          (List.getElem?_append_right (Nat.le_of_lt earlier)).symm
      _ = (before ++ ("clang version ".toList ++ tail))[before.length]? := by rw [whole]
      _ = some 'c' := by rw [List.getElem?_append_right (Nat.le_refl _), Nat.sub_self]; rfl
    have folded := congrArg (Option.map foldCase) here
    rw [← List.getElem?_map, phrased] at folded
    have others : ∀ place < 14, 0 < place →
        "clang version ".toList[place]? ≠ (some 'c').map foldCase := by decide
    exact others _ (by omega) (by omega) folded

theorem announcedFirst_ofNumbers (major minor patch : Nat) {before after : List Char}
    (silent : ∀ phrase, IsPhrase phrase → ¬ phrase <:+: before)
    (ends : ∀ c ∈ after.head?, isDigit c = false) :
    AnnouncedFirst (before ++ ("clang version ".toList
      ++ ((CompilerVersion.ofNumbers major minor patch).full.toList ++ after)))
      (CompilerVersion.ofNumbers major minor patch).full.toList := by
  have phrased : IsPhrase "clang version ".toList := by unfold IsPhrase; decide
  refine ⟨before, ⟨(isVersion_ofNumbers major minor patch).1, _, after, phrased, rfl⟩,
    fun before' text' announces => ?_⟩
  rcases Nat.lt_or_eq_of_le (length_le_of_announces silent announces) with later | same
  · exact Or.inl later
  · obtain ⟨version', phrase', rest', phrased', whole⟩ := announces
    obtain ⟨spelling, read, text⟩ := CompilerVersion.Spelling.read?_ofNumbers major minor patch ends
    rw [phrased.behind_eq phrased' whole same] at read
    exact Or.inr ⟨same, text ▸ CompilerVersion.Spelling.length_le version' read⟩

namespace CompilerVersion

theorem parse?_ofNumbers {major minor : ℕ} (patch : ℕ) (small : major < 2 ^ 32)
    (small' : minor < 2 ^ 32) {before after : String}
    (silent : ∀ phrase, IsPhrase phrase → ¬ phrase <:+: before.toList)
    (ends : ∀ c ∈ after.toList.head?, isDigit c = false) :
    parse? (before ++ "clang version " ++ (ofNumbers major minor patch).full ++ after)
      = some (ofNumbers major minor patch) := by
  refine parse?_eq_some_iff.mpr ⟨?_, _, _, _, (isVersion_ofNumbers major minor patch).2,
    word?_eq_some_iff.mpr ⟨natural?_toDigits major, small⟩,
    word?_eq_some_iff.mpr ⟨natural?_toDigits minor, small'⟩⟩
  simpa only [String.toList_append, List.append_assoc]
    using announcedFirst_ofNumbers major minor patch silent ends

/-- A number that is too large is not taken at another value. -/
theorem parse?_eq_none {banner : String} {text : List Char}
    (announced : AnnouncedFirst banner.toList text)
    (large : ∃ part ∈ (pieces '.' text).take 2, ∃ n, natural? part = some n ∧ 2 ^ 32 ≤ n) :
    parse? banner = none := by
  refine Option.eq_none_iff_forall_ne_some.mpr fun version read => ?_
  obtain ⟨announced', major, minor, more, split, first, second⟩ := parse?_eq_some_iff.mp read
  obtain ⟨part, member, n, value, large⟩ := large
  rw [announced.unique announced', split] at member
  have small : ∀ number, word? part = some number → False := by
    intro number read
    obtain ⟨same, small⟩ := word?_eq_some_iff.mp read
    rw [same, Option.some.injEq] at value
    omega
  rcases List.mem_pair.mp member with rfl | rfl
  · exact small _ first
  · exact small _ second

end CompilerVersion

/-! ## Directories -/

theorem isName_of_isNumber {s : List Char} (number : IsNumber s) : Path.IsName s where
  nonempty := number.nonempty
  notCurrent := by
    rintro rfl
    exact number.notMem (by decide) List.mem_cons_self
  notParent := by
    rintro rfl
    exact number.notMem (by decide) List.mem_cons_self
  whole := number.notMem (by decide)

theorem IsNumber.exists_cons {s : List Char} (number : IsNumber s) :
    ∃ digit rest, isDigit digit = true ∧ s = digit :: rest := by
  obtain ⟨digit, rest, rfl⟩ := List.exists_cons_of_ne_nil number.nonempty
  exact ⟨digit, rest, number.digits digit List.mem_cons_self, rfl⟩

theorem isName_of_isVersion {text : List Char} (version : IsVersion text) : Path.IsName text := by
  have slash : isDigit '/' = false := by decide
  obtain ⟨major, minor, number, number', written⟩ := isVersion_cases version
  have none : '/' ∉ text := by
    rcases written with rfl | ⟨patch, number'', rfl⟩
    · simp [number.notMem slash, number'.notMem slash]
    · simp [number.notMem slash, number'.notMem slash, number''.notMem slash]
  have starts : ∃ digit rest, isDigit digit = true ∧ text = digit :: rest := by
    obtain ⟨digit, more, counts, rfl⟩ := number.exists_cons
    rcases written with rfl | ⟨patch, -, rfl⟩ <;> exact ⟨digit, _, counts, rfl⟩
  obtain ⟨digit, rest, counts, rfl⟩ := starts
  have dot : digit ≠ '.' := by
    rintro rfl
    exact absurd counts (by decide)
  exact ⟨List.cons_ne_nil _ _, by simp [dot], by simp [dot], none⟩

/-- A name is one directory below the root. -/
theorem components_runtimeDirectory {name : String} (isName : Path.IsName name.toList)
    (root : String) :
    Path.components (runtimeDirectory root name).toList
      = Path.components root.toList
        ++ [.named name.toList, .named "lib".toList, .named "linux".toList] := by
  have lib : Path.IsName "lib".toList := ⟨by decide, by decide, by decide, by decide⟩
  have linux : Path.IsName "linux".toList := ⟨by decide, by decide, by decide, by decide⟩
  simp only [runtimeDirectory, Path.joinText, String.toList_ofList,
    Path.components_join_name linux, Path.components_join_name lib,
    Path.components_join_name isName, List.append_assoc, List.cons_append, List.nil_append]

/-- A version has a dot and its first number has none, so their directories are two. -/
theorem runtimeDirectories_of_isVersion (root : String) {version : CompilerVersion}
    (isVersion : IsVersion version.full.toList) :
    ∃ own shared, runtimeDirectories root version = [own, shared]
      ∧ Path.components own.toList ≠ Path.components shared.toList
      ∧ Path.components own.toList = Path.components root.toList
        ++ [.named version.full.toList, .named "lib".toList, .named "linux".toList]
      ∧ Path.components shared.toList = Path.components root.toList
        ++ [.named (toString version.major).toList, .named "lib".toList, .named "linux".toList] := by
  have number : IsNumber (toString version.major).toList := by
    simpa using isNumber_toDigits version.major
  have own := components_runtimeDirectory (isName_of_isVersion isVersion) root
  have shared := components_runtimeDirectory (isName_of_isNumber number) root
  have dotted : '.' ∈ version.full.toList := by
    obtain ⟨major, minor, -, -, written | ⟨patch, -, written⟩⟩ := isVersion_cases isVersion
    · simp [written]
    · simp [written]
  have different : Path.components (runtimeDirectory root version.full).toList
      ≠ Path.components (runtimeDirectory root (toString version.major)).toList := by
    rw [own, shared]
    intro same
    have names := List.append_cancel_left same
    rw [List.cons.injEq, Path.Component.named.injEq] at names
    exact number.notMem (by decide) (names.1 ▸ dotted)
  refine ⟨_, _, ?_, different, own, shared⟩
  rw [runtimeDirectories]
  exact if_neg different

/-! ## What is read of a banner -/

/-- A version that is announced behind text without the phrase, and with no digit behind it, is read
as it is, and compared by its first two numbers. Whatever a banner says, what is read is the version
that it announces first, with the values of its first two numbers; if one of these is too large for
a word nothing is read. The version's directories are two, one component below the root. -/
theorem parse?_announced :
    (∀ major minor patch : ℕ, major < 2 ^ 32 → minor < 2 ^ 32 → ∀ before after : String,
      (∀ phrase, IsPhrase phrase → ¬ phrase <:+: before.toList) →
      (∀ c ∈ after.toList.head?, isDigit c = false) →
      CompilerVersion.parse? (before ++ "clang version "
          ++ (CompilerVersion.ofNumbers major minor patch).full ++ after)
        = some (CompilerVersion.ofNumbers major minor patch))
    ∧ (∀ major minor patch wantedMajor wantedMinor : ℕ,
      (CompilerVersion.ofNumbers major minor patch).atLeast wantedMajor wantedMinor = true
        ↔ toLex (wantedMajor, wantedMinor) ≤ toLex (major, minor))
    ∧ (∀ (banner : String) (version : CompilerVersion),
      CompilerVersion.parse? banner = some version
        ↔ AnnouncedFirst banner.toList version.full.toList
          ∧ ∃ major minor more, pieces '.' version.full.toList = major :: minor :: more
            ∧ (natural? major = some version.major ∧ version.major < 2 ^ 32)
            ∧ natural? minor = some version.minor ∧ version.minor < 2 ^ 32)
    ∧ (∀ (banner : String) (text : List Char), AnnouncedFirst banner.toList text →
      (∃ part ∈ (pieces '.' text).take 2, ∃ n, natural? part = some n ∧ 2 ^ 32 ≤ n) →
      CompilerVersion.parse? banner = none)
    ∧ ∀ (banner : String) (version : CompilerVersion) (root : String),
      CompilerVersion.parse? banner = some version →
      ∃ own shared, runtimeDirectories root version = [own, shared]
        ∧ Path.components own.toList ≠ Path.components shared.toList
        ∧ Path.components own.toList = Path.components root.toList
          ++ [.named version.full.toList, .named "lib".toList, .named "linux".toList]
        ∧ Path.components shared.toList = Path.components root.toList
          ++ [.named (toString version.major).toList, .named "lib".toList,
            .named "linux".toList] := by
  refine ⟨fun major minor patch small small' before after silent ends =>
      CompilerVersion.parse?_ofNumbers patch small small' silent ends,
    fun major minor patch wantedMajor wantedMinor => Instrumentation.versionAtLeast_iff,
    fun banner version => ?_,
    fun banner text announced large => CompilerVersion.parse?_eq_none announced large,
    fun banner version root read => ?_⟩
  · simp only [CompilerVersion.parse?_eq_some_iff, word?_eq_some_iff]
  · obtain ⟨⟨before, ⟨isVersion, -⟩, -⟩, -⟩ := CompilerVersion.parse?_eq_some_iff.mp read
    exact runtimeDirectories_of_isVersion root isVersion

theorem parse?_announced_behind_a_name :
    CompilerVersion.parse? ("Apple CLANG " ++ "clang version "
        ++ (CompilerVersion.ofNumbers 14 0 6).full ++ ".1git")
      = some (CompilerVersion.ofNumbers 14 0 6)
    ∧ CompilerVersion.parse? ("" ++ "clang version "
        ++ (CompilerVersion.ofNumbers (2 ^ 32) 1 0).full ++ "") = none
    ∧ ∃ own shared, runtimeDirectories "/opt/clang" (CompilerVersion.ofNumbers 14 0 6) = [own, shared]
      ∧ Path.components own.toList ≠ Path.components shared.toList := by
  obtain ⟨written, -, -, large, directories⟩ := parse?_announced
  have silent : ∀ before : String, before.toList.length < "clang version ".toList.length →
      ∀ phrase, IsPhrase phrase → ¬ phrase <:+: before.toList := by
    intro before short phrase phrased inside
    have length := inside.length_le
    rw [phrased.length] at length
    exact absurd short (Nat.not_lt.mpr length)
  have ends : ∀ c ∈ ".1git".toList.head?, isDigit c = false := by
    rintro c ⟨⟩
    decide
  have read := written 14 0 6 (by decide) (by decide) "Apple CLANG " ".1git"
    (silent _ (by decide)) ends
  have announced : AnnouncedFirst ("" ++ "clang version "
      ++ (CompilerVersion.ofNumbers (2 ^ 32) 1 0).full ++ "").toList
      (CompilerVersion.ofNumbers (2 ^ 32) 1 0).full.toList := by
    simpa only [String.toList_append, List.append_assoc]
      using announcedFirst_ofNumbers (2 ^ 32) 1 0 (silent "" (by decide)) (by simp)
  refine ⟨read, large _ _ announced ⟨Nat.toDigits 10 (2 ^ 32), ?_, _, natural?_toDigits _,
    Nat.le_refl _⟩, ?_⟩
  · rw [(isVersion_ofNumbers _ _ _).2]
    exact List.mem_cons_self
  · obtain ⟨own, shared, same, different, -⟩ := directories _ _ "/opt/clang" read
    exact ⟨own, shared, same, different⟩

end CheckedBuild
