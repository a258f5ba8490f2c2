import Mathlib.Data.List.TakeWhile
import CheckedBuild.Path.Mount

/-!
# Which mount points are replaced

A home directory is mounted in one of four shapes, of which two are for the same kind of server.
Where a path begins with one of them and the place of the deep shapes occurs nowhere else, `/home/`
and the rest come out. Where that place does not occur at all and the path begins with none of the
other shapes, the path comes out as it is.
-/

namespace CheckedBuild.Path

open Text

/-- The component in front of the deep mount points. -/
def farm : List Char := "/tmp_amd/".toList

/-- A component all of whose characters are allowed. -/
structure IsMadeOf (allowed : Char → Bool) (name : List Char) : Prop where
  nonempty : name ≠ []
  chars : ∀ c ∈ name, allowed c = true

instance (allowed : Char → Bool) (name : List Char) : Decidable (IsMadeOf allowed name) :=
  decidable_of_iff (name ≠ [] ∧ name.all allowed = true)
    ⟨fun ⟨nonempty, chars⟩ => ⟨nonempty, List.all_eq_true.mp chars⟩,
      fun ⟨nonempty, chars⟩ => ⟨nonempty, List.all_eq_true.mpr chars⟩⟩

/-- A component of word characters. -/
abbrev IsWord (name : List Char) : Prop := IsMadeOf isWordCharacter name

/-- A component of digits. -/
abbrev IsNumeral (name : List Char) : Prop := IsMadeOf isDigit name

/-- A word of at least four characters that ends in `ort`. -/
structure IsPort (name : List Char) : Prop where
  word : IsWord name
  long : 4 ≤ name.length
  ends : "ort".toList <:+ name

instance (name : List Char) : Decidable (IsPort name) :=
  decidable_of_iff (IsWord name ∧ 4 ≤ name.length ∧ "ort".toList <:+ name)
    ⟨fun ⟨word, long, ends⟩ => ⟨word, long, ends⟩, fun ⟨word, long, ends⟩ => ⟨word, long, ends⟩⟩

/-- The path is a deep mount point and then the rest. -/
def DeepMounted (path rest : List Char) : Prop :=
  ∃ a b c d, IsWord a ∧ IsPort b ∧ IsWord c ∧ IsNumeral d
    ∧ path = farm ++ (a ++ '/' :: (b ++ '/' :: (c ++ '/' :: (d ++ '/' :: rest))))

/-- The path is a mount point that is one component shorter, and then the rest. -/
def ShortMounted (path rest : List Char) : Prop :=
  ∃ a b d, IsWord a ∧ IsPort b ∧ IsNumeral d
    ∧ path = farm ++ (a ++ '/' :: (b ++ '/' :: (d ++ '/' :: rest)))

/-- The path is the mount point of an import or an export and then the rest. -/
def Exported (path rest : List Char) : Prop :=
  ∃ a d, IsWord a ∧ IsNumeral d
    ∧ (path = "/import/".toList ++ (a ++ '/' :: (d ++ '/' :: rest))
      ∨ path = "/export/".toList ++ (a ++ '/' :: (d ++ '/' :: rest)))

/-- The path is a mount point, whose shape leaves no doubt, and then the rest. A short one must not
be the beginning of a deep one, and nothing further down may look like a deep one. -/
inductive Mounted : List Char → List Char → Prop
  | deep {path rest : List Char} (mounted : DeepMounted path rest) (once : ¬ farm <:+: path.tail) :
      Mounted path rest
  | short {path rest : List Char} (mounted : ShortMounted path rest)
      (once : ¬ farm <:+: path.tail)
      (shallow : ¬ ∃ d more, IsNumeral d ∧ rest = d ++ '/' :: more) : Mounted path rest
  | exported {path rest : List Char} (mounted : Exported path rest) (never : ¬ farm <:+: path) :
      Mounted path rest

/-! ## Components -/

/-- A component is taken up to the slash behind it. -/
theorem takeComponent?_eq_some_iff {allowed : Char → Bool} (apart : allowed '/' = false)
    {s name rest : List Char} :
    takeComponent? allowed s = some (name, rest) ↔
      IsMadeOf allowed name ∧ s = name ++ '/' :: rest := by
  constructor
  · intro taken
    have whole : s.takeWhile allowed ++ s.dropWhile allowed = s := List.takeWhile_append_dropWhile
    have chars : ∀ c ∈ s.takeWhile allowed, allowed c = true := fun c => List.mem_takeWhile_imp
    unfold takeComponent? at taken
    split at taken
    · cases taken
    · next tail behind some =>
      cases taken
      exact ⟨⟨fun none => some none, chars⟩, by rw [← behind, whole]⟩
    · cases taken
  · rintro ⟨⟨some, chars⟩, rfl⟩
    have begins : (name ++ '/' :: rest).takeWhile allowed = name := by
      rw [List.takeWhile_append_of_pos chars, List.takeWhile_cons, apart]
      simp
    have ends : (name ++ '/' :: rest).dropWhile allowed = '/' :: rest := by
      rw [List.dropWhile_append_of_pos chars, List.dropWhile_cons, apart]
      simp
    unfold takeComponent?
    rw [begins, ends]
    cases name with
    | nil => exact absurd rfl some
    | cons c name => rfl

theorem IsMadeOf.notMem {allowed : Char → Bool} {name : List Char} (made : IsMadeOf allowed name)
    {c : Char} (other : allowed c = false) : c ∉ name := by
  intro member
  rw [made.chars c member] at other
  cases other

/-- What stands behind the first slash. -/
theorem behind_unique {name name' rest rest' : List Char} (whole : '/' ∉ name)
    (whole' : '/' ∉ name') (same : name ++ '/' :: rest = name' ++ '/' :: rest') : rest = rest' := by
  have drops {s t : List Char} (whole : '/' ∉ s) :
      (s ++ '/' :: t).dropWhile (· ≠ '/') = '/' :: t := by
    have others : ∀ c ∈ s, decide (c ≠ '/') = true := by
      intro c member
      exact decide_eq_true (ne_of_mem_of_not_mem member whole)
    rw [List.dropWhile_append_of_pos others]
    simp
  have both : '/' :: rest = '/' :: rest' := by rw [← drops whole, same, drops whole']
  exact (List.cons.inj both).2

theorem isWordCharacter_slash : isWordCharacter '/' = false := by decide +kernel

theorem isDigit_slash : isDigit '/' = false := by decide +kernel

theorem afterWord?_eq_some_iff {s rest : List Char} :
    afterWord? s = some rest ↔ ∃ name, IsWord name ∧ s = name ++ '/' :: rest := by
  simp [afterWord?, takeComponent?_eq_some_iff isWordCharacter_slash]

theorem afterNumber?_eq_some_iff {s rest : List Char} :
    afterNumber? s = some rest ↔ ∃ name, IsNumeral name ∧ s = name ++ '/' :: rest := by
  simp [afterNumber?, takeComponent?_eq_some_iff isDigit_slash]

theorem afterOrt?_eq_some_iff {s rest : List Char} :
    afterOrt? s = some rest ↔ ∃ name, IsPort name ∧ s = name ++ '/' :: rest := by
  unfold afterOrt?
  constructor
  · intro taken
    obtain ⟨⟨name, behind⟩, component, checked⟩ := Option.bind_eq_some_iff.mp taken
    obtain ⟨word, rfl⟩ := (takeComponent?_eq_some_iff isWordCharacter_slash).mp component
    dsimp only at checked
    split at checked
    · next long =>
      cases checked
      exact ⟨name, ⟨word, long.1, List.isSuffixOf_iff_suffix.mp long.2⟩, rfl⟩
    · cases checked
  · rintro ⟨name, ⟨word, long, ends⟩, rfl⟩
    have taken : takeComponent? isWordCharacter (name ++ '/' :: rest) = some (name, rest) :=
      (takeComponent?_eq_some_iff isWordCharacter_slash).mpr ⟨word, rfl⟩
    refine Option.bind_eq_some_iff.mpr ⟨(name, rest), taken, ?_⟩
    exact if_pos ⟨long, List.isSuffixOf_iff_suffix.mpr ends⟩

/-! ## Shapes -/

theorem afterDeepMount?_eq_some_iff {path rest : List Char} :
    afterDeepMount? path = some rest ↔ DeepMounted path rest := by
  unfold afterDeepMount? DeepMounted
  simp only [Option.bind_eq_bind, Option.bind_eq_some_iff, after?_eq_some_iff,
    afterWord?_eq_some_iff, afterOrt?_eq_some_iff, afterNumber?_eq_some_iff]
  constructor
  · rintro ⟨_, ⟨_, ⟨_, ⟨_, rfl, a, wordA, rfl⟩, b, port, rfl⟩, c, wordC, rfl⟩, d, numeral, rfl⟩
    exact ⟨a, b, c, d, wordA, port, wordC, numeral, rfl⟩
  · rintro ⟨a, b, c, d, wordA, port, wordC, numeral, rfl⟩
    exact ⟨_, ⟨_, ⟨_, ⟨_, rfl, a, wordA, rfl⟩, b, port, rfl⟩, c, wordC, rfl⟩, d, numeral, rfl⟩

theorem afterMount?_eq_some_iff {path rest : List Char} :
    afterMount? path = some rest ↔ ShortMounted path rest := by
  unfold afterMount? ShortMounted
  simp only [Option.bind_eq_bind, Option.bind_eq_some_iff, after?_eq_some_iff,
    afterWord?_eq_some_iff, afterOrt?_eq_some_iff, afterNumber?_eq_some_iff]
  constructor
  · rintro ⟨_, ⟨_, ⟨_, rfl, a, wordA, rfl⟩, b, port, rfl⟩, d, numeral, rfl⟩
    exact ⟨a, b, d, wordA, port, numeral, rfl⟩
  · rintro ⟨a, b, d, wordA, port, numeral, rfl⟩
    exact ⟨_, ⟨_, ⟨_, rfl, a, wordA, rfl⟩, b, port, rfl⟩, d, numeral, rfl⟩

/-- No path begins like an import and like an export. -/
theorem afterExport_or_import_eq_some_iff {path rest : List Char} :
    (after? "/import/".toList path <|> after? "/export/".toList path) = some rest ↔
      path = "/import/".toList ++ rest ∨ path = "/export/".toList ++ rest := by
  rw [← after?_eq_some_iff, ← after?_eq_some_iff]
  cases imported : after? "/import/".toList path with
  | none => simp
  | some behind =>
    have other : after? "/export/".toList path ≠ some rest := by
      rw [ne_eq, after?_eq_some_iff, after?_eq_some_iff.mp imported]
      intro same
      cases same
    exact (or_iff_left other).symm

theorem afterExport?_eq_some_iff {path rest : List Char} :
    afterExport? path = some rest ↔ Exported path rest := by
  unfold afterExport? Exported
  simp only [Option.bind_eq_bind, Option.bind_eq_some_iff, afterExport_or_import_eq_some_iff,
    afterWord?_eq_some_iff, afterNumber?_eq_some_iff]
  constructor
  · rintro ⟨_, ⟨_, begins, a, word, rfl⟩, d, numeral, rfl⟩
    exact ⟨a, d, word, numeral, begins⟩
  · rintro ⟨a, d, word, numeral, begins⟩
    exact ⟨_, ⟨_, begins, a, word, rfl⟩, d, numeral, rfl⟩

/-! ## Rewriting -/

/-- Where no suffix has the shape, nothing is rewritten. -/
theorem rewriteAll_of_absent {afterShape? : List Char → Option (List Char)} {s : List Char}
    (absent : ∀ t, t <:+ s → afterShape? t = none) : rewriteAll afterShape? s = s := by
  induction s with
  | nil => rw [rewriteAll]
  | cons c s ih =>
    have further : rewriteAll afterShape? s = s :=
      ih fun t suffix => absent t (suffix.trans (List.suffix_cons c s))
    rw [rewriteAll, absent (c :: s) (List.suffix_refl _), further]

theorem afterDeepMount?_eq_none {path : List Char} (never : ¬ farm <+: path) :
    afterDeepMount? path = none := by
  rw [Option.eq_none_iff_forall_ne_some]
  intro rest taken
  obtain ⟨a, b, c, d, -, -, -, -, rfl⟩ := afterDeepMount?_eq_some_iff.mp taken
  exact never (List.prefix_append _ _)

theorem afterMount?_eq_none {path : List Char} (never : ¬ farm <+: path) :
    afterMount? path = none := by
  rw [Option.eq_none_iff_forall_ne_some]
  intro rest taken
  obtain ⟨a, b, d, -, -, -, rfl⟩ := afterMount?_eq_some_iff.mp taken
  exact never (List.prefix_append _ _)

theorem rewriteAll_of_never {path : List Char} (never : ¬ farm <:+: path) :
    rewriteAll afterDeepMount? path = path := by
  refine rewriteAll_of_absent fun t suffix => afterDeepMount?_eq_none fun begins => never ?_
  exact begins.isInfix.trans suffix.isInfix

theorem rewriteStart_of_none {afterShape? : List Char → Option (List Char)} {path : List Char}
    (other : afterShape? path = none) : rewriteStart afterShape? path = path := by
  rw [rewriteStart, other]

/-- What was rewritten does not begin like a mount point again. -/
theorem afterMount?_home (rest : List Char) : afterMount? (home ++ rest) = none := by
  refine afterMount?_eq_none ?_
  rintro ⟨more, same⟩
  cases same

theorem afterExport?_home (rest : List Char) : afterExport? (home ++ rest) = none := by
  rw [Option.eq_none_iff_forall_ne_some]
  intro more taken
  obtain ⟨a, d, -, -, same | same⟩ := afterExport?_eq_some_iff.mp taken
  · cases same
  · cases same

theorem suffix_tail_of_farm (s : List Char) {rest : List Char} (suffix : rest <:+ s) :
    rest <:+ (farm ++ s).tail :=
  suffix.trans (List.suffix_append "tmp_amd/".toList s)

/-- A deep mount point at the start is replaced, and nothing further down. -/
theorem rewriteAll_of_deep {path rest : List Char} (mounted : DeepMounted path rest)
    (once : ¬ farm <:+: path.tail) : rewriteAll afterDeepMount? path = home ++ rest := by
  have taken : afterDeepMount? path = some rest := afterDeepMount?_eq_some_iff.mpr mounted
  have below : rest <:+ path.tail := by
    obtain ⟨a, b, c, d, -, -, -, -, rfl⟩ := mounted
    refine suffix_tail_of_farm _ ⟨a ++ '/' :: (b ++ '/' :: (c ++ '/' :: (d ++ ['/']))), ?_⟩
    simp
  have untouched : rewriteAll afterDeepMount? rest = rest :=
    rewriteAll_of_never fun occurs => once (occurs.trans below.isInfix)
  cases path with
  | nil =>
    obtain ⟨a, b, c, d, -, -, -, -, empty⟩ := mounted
    cases empty
  | cons first others =>
    rw [rewriteAll, taken]
    simp only [dif_pos (show rest.length ≤ others.length from below.length_le), untouched]

/-- A short mount point does not begin like a deep one if no number follows it. -/
theorem afterDeepMount?_of_short {path rest : List Char} (mounted : ShortMounted path rest)
    (shallow : ¬ ∃ d more, IsNumeral d ∧ rest = d ++ '/' :: more) :
    afterDeepMount? path = none := by
  rw [Option.eq_none_iff_forall_ne_some]
  intro more taken
  obtain ⟨a, b, d, wordA, portB, numeralD, rfl⟩ := mounted
  obtain ⟨a', b', c', d', wordA', portB', wordC', numeralD', same⟩ :=
    afterDeepMount?_eq_some_iff.mp taken
  have word {name : List Char} (isWord : IsWord name) : '/' ∉ name :=
    isWord.notMem isWordCharacter_slash
  have behindA := behind_unique (word wordA) (word wordA') (List.append_cancel_left same)
  have behindB := behind_unique (word portB.word) (word portB'.word) behindA
  have behindD := behind_unique (numeralD.notMem isDigit_slash) (word wordC') behindB
  exact shallow ⟨d', more, numeralD', behindD⟩

theorem rewriteAll_of_short {path rest : List Char} (mounted : ShortMounted path rest)
    (once : ¬ farm <:+: path.tail)
    (shallow : ¬ ∃ d more, IsNumeral d ∧ rest = d ++ '/' :: more) :
    rewriteAll afterDeepMount? path = path := by
  refine rewriteAll_of_absent fun t suffix => ?_
  cases path with
  | nil =>
    obtain rfl := List.suffix_nil.mp suffix
    rfl
  | cons first others =>
    rcases List.suffix_cons_iff.mp suffix with rfl | within
    · exact afterDeepMount?_of_short mounted shallow
    · refine afterDeepMount?_eq_none fun begins => once ?_
      exact begins.isInfix.trans within.isInfix

theorem rewritten_of_mounted {path rest : List Char} (mounted : Mounted path rest) :
    rewriteStart afterExport? (rewriteStart afterMount? (rewriteAll afterDeepMount? path))
      = home ++ rest := by
  cases mounted with
  | deep mounted once =>
    rw [rewriteAll_of_deep mounted once, rewriteStart_of_none (afterMount?_home rest),
      rewriteStart_of_none (afterExport?_home rest)]
  | short mounted once shallow =>
    have taken : afterMount? path = some rest := afterMount?_eq_some_iff.mpr mounted
    have replaced : rewriteStart afterMount? path = home ++ rest := by rw [rewriteStart, taken]
    rw [rewriteAll_of_short mounted once shallow, replaced,
      rewriteStart_of_none (afterExport?_home rest)]
  | exported mounted never =>
    have other : afterMount? path = none := afterMount?_eq_none fun begins => never begins.isInfix
    have taken : afterExport? path = some rest := afterExport?_eq_some_iff.mpr mounted
    rw [rewriteAll_of_never never, rewriteStart_of_none other, rewriteStart, taken]

/-- A mount point at the start of a path is replaced by `/home/`, and the rest comes through as it
is. A path in which the deep mount points have no place and that does not begin like an import or an
export comes through as a whole. -/
theorem fromHome_mounted (path : String) :
    (∀ rest : String, Mounted path.toList rest.toList → fromHome path = "/home/" ++ rest)
      ∧ (¬ farm <:+: path.toList → (¬ ∃ rest, Exported path.toList rest) →
        fromHome path = path) := by
  constructor
  · intro rest mounted
    rw [fromHome, rewritten_of_mounted mounted, String.ofList_append, String.ofList_toList, home,
      String.ofList_toList]
  · intro never other
    have unmounted : afterMount? path.toList = none :=
      afterMount?_eq_none fun begins => never begins.isInfix
    have unexported : afterExport? path.toList = none := by
      rw [Option.eq_none_iff_forall_ne_some]
      exact fun rest taken => other ⟨rest, afterExport?_eq_some_iff.mp taken⟩
    rw [fromHome, rewriteAll_of_never never, rewriteStart_of_none unmounted,
      rewriteStart_of_none unexported, String.ofList_toList]

/-- A home that is mounted deep below a farm, one that is a number and mounted one level higher, and
one that is imported; the driver of the system lies in none. -/
theorem fromHome_mounted_of_each_shape :
    (Mounted "/tmp_amd/cage/export/cage/3/z1/import/x/4/dcc".toList "z1/import/x/4/dcc".toList
        ∧ fromHome "/tmp_amd/cage/export/cage/3/z1/import/x/4/dcc" = "/home/" ++ "z1/import/x/4/dcc")
      ∧ (Mounted "/tmp_amd/adams/import/4/12".toList "12".toList
        ∧ fromHome "/tmp_amd/adams/import/4/12" = "/home/" ++ "12")
      ∧ (Mounted "/import/kamen/1/tmp_amd".toList "tmp_amd".toList
        ∧ fromHome "/import/kamen/1/tmp_amd" = "/home/" ++ "tmp_amd")
      ∧ ¬ farm <:+: "/usr/import/x/4/dcc".toList
      ∧ (¬ ∃ rest, Exported "/usr/import/x/4/dcc".toList rest)
      ∧ fromHome "/usr/import/x/4/dcc" = "/usr/import/x/4/dcc" := by
  have deep : Mounted "/tmp_amd/cage/export/cage/3/z1/import/x/4/dcc".toList
      "z1/import/x/4/dcc".toList :=
    .deep ⟨"cage".toList, "export".toList, "cage".toList, "3".toList, by decide +kernel,
      by decide +kernel, by decide +kernel, by decide +kernel, rfl⟩
      (mt occursIn_iff.mpr (by decide))
  have short : Mounted "/tmp_amd/adams/import/4/12".toList "12".toList := by
    refine .short ⟨"adams".toList, "import".toList, "4".toList, by decide +kernel,
      by decide +kernel, by decide +kernel, rfl⟩ (mt occursIn_iff.mpr (by decide)) ?_
    rintro ⟨d, more, -, same⟩
    have slash : '/' ∈ "12".toList := by simp [same]
    exact absurd slash (by decide)
  have imported : Mounted "/import/kamen/1/tmp_amd".toList "tmp_amd".toList :=
    .exported ⟨"kamen".toList, "1".toList, by decide +kernel, by decide +kernel, Or.inl rfl⟩
      (mt occursIn_iff.mpr (by decide))
  have never : ¬ farm <:+: "/usr/import/x/4/dcc".toList :=
    mt occursIn_iff.mpr (by decide)
  have other : ¬ ∃ rest, Exported "/usr/import/x/4/dcc".toList rest := by
    rintro ⟨rest, a, d, -, -, same | same⟩
    · cases same
    · cases same
  exact ⟨⟨deep, (fromHome_mounted _).1 _ deep⟩, ⟨short, (fromHome_mounted _).1 _ short⟩,
    ⟨imported, (fromHome_mounted _).1 _ imported⟩, never, other,
    (fromHome_mounted _).2 never other⟩

end CheckedBuild.Path
