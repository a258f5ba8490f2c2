import CheckedBuild.Proofs.Text.Literals
import CheckedBuild.Wrapper.Render

/-!
# Literals of a wrapper

A reader of C tells code, literals and comments apart. No value takes it from one to the other, as
long as the placeholder stands where a value of its kind may stand. So a literal that the template
opens in front of a text is open until the template closes it.
-/

namespace CheckedBuild.Wrapper

open Text

/-! ## A reader of C -/

/-- Where a reader of C stands in a source text. It gives up in a literal that its line ends, and
at a backslash where it could join two lines to the mark of a comment. -/
inductive Place where
  | code
  | slash
  | lineComment
  | blockComment
  | star
  | string
  | stringEscape
  | character
  | characterEscape
  | broken
deriving DecidableEq

namespace Place

/-- Behind a character of code. -/
def afterCode (c : Char) : Place :=
  if c = '"' then string
  else if c = '\'' then character
  else if c = '/' then slash
  else code

/-- Behind one more character. -/
def step (place : Place) (c : Char) : Place :=
  match place with
  | code => afterCode c
  | slash =>
    if c = '/' then lineComment
    else if c = '*' then blockComment
    else if c = '\\' then broken
    else afterCode c
  | lineComment => if c = '\n' then code else if c = '\\' then broken else lineComment
  | blockComment => if c = '*' then star else blockComment
  | star =>
    if c = '/' then code
    else if c = '*' then star
    else if c = '\\' then broken
    else blockComment
  | string =>
    if c = '"' then code
    else if c = '\\' then stringEscape
    else if c = '\n' then broken
    else string
  | stringEscape => string
  | character =>
    if c = '\'' then code
    else if c = '\\' then characterEscape
    else if c = '\n' then broken
    else character
  | characterEscape => character
  | broken => broken

/-- Behind a text. -/
def after (place : Place) (s : List Char) : Place := s.foldl step place

theorem after_append (place : Place) (s t : List Char) :
    place.after (s ++ t) = (place.after s).after t :=
  List.foldl_append

theorem after_append_eq_self {place : Place} {s t : List Char} (first : place.after s = place)
    (second : place.after t = place) : place.after (s ++ t) = place := by
  rw [after_append, first, second]

/-- A fixed text is read as a list of characters. -/
theorem after_toList_ofList {place : Place} {s : List Char} (kept : place.after s = place) :
    place.after (String.ofList s).toList = place := by
  rwa [String.toList_ofList]

theorem after_eq_self {place : Place} {s : List Char} (kept : ∀ c ∈ s, place.step c = place) :
    place.after s = place := by
  induction s with
  | nil => rfl
  | cons c rest ih =>
    obtain ⟨first, others⟩ := List.forall_mem_cons.mp kept
    rw [after, List.foldl_cons, first]
    exact ih others

/-! ## Values -/

/-- A character that means nothing special, neither in code nor in a literal. -/
def isInert (c : Char) : Bool := isPlain c && c != '\'' && c != '/'

theorem step_of_isInert {place : Place} (either : place = code ∨ place = string) {c : Char}
    (inert : isInert c = true) : place.step c = place := by
  simp only [isInert, isPlain, Bool.and_eq_true, bne_iff_ne, ne_eq] at inert
  rcases either with rfl | rfl
  · simp [step, afterCode, inert]
  · simp [step, inert]

theorem after_of_isInert {place : Place} (either : place = code ∨ place = string) {s : List Char}
    (inert : s.all isInert = true) : place.after s = place :=
  after_eq_self fun c member => step_of_isInert either (List.all_eq_true.mp inert c member)

theorem isInert_of_isDigit {c : Char} (decimal : c.isDigit = true) : isInert c = true := by
  simp only [isInert, isPlain, Bool.and_eq_true, bne_iff_ne]
  exact ⟨⟨⟨⟨ne_of_isDigit decimal rfl, ne_of_isDigit decimal rfl⟩, ne_of_isDigit decimal rfl⟩,
    ne_of_isDigit decimal rfl⟩, ne_of_isDigit decimal rfl⟩

theorem all_isInert_toDigits (n : Nat) : (Nat.toDigits 10 n).all isInert = true := by
  rw [List.all_eq_true]
  intro c member
  exact isInert_of_isDigit (Nat.isDigit_of_mem_toDigits (by decide) (by decide) member)

theorem string_after_literalCharacter (c : Char) :
    string.after (literalCharacter c) = string := by
  rw [literalCharacter]
  split_ifs with backslash quote lineFeed tab control
  · rfl
  · rfl
  · rfl
  · rfl
  · obtain ⟨-, second, -⟩ := digit_octal (show c.toNat / 8 % 8 < 8 by omega)
    obtain ⟨-, third, -⟩ := digit_octal (show c.toNat % 8 < 8 by omega)
    have inert : [digit (c.toNat / 8 % 8), digit (c.toNat % 8)].all isInert = true := by
      simp [isInert_of_isDigit second, isInert_of_isDigit third]
    -- the first digit belongs to the escape, whatever it is
    have behind : string.after [digit (c.toNat / 8 % 8), digit (c.toNat % 8)] = string :=
      after_of_isInert (.inr rfl) inert
    exact behind
  · simp [after, step, backslash, quote, lineFeed]

theorem string_after_literal (s : List Char) : string.after (literal s) = string := by
  induction s with
  | nil => rfl
  | cons c s ih =>
    rw [literal, List.flatMap_cons, after_append, string_after_literalCharacter]
    exact ih

theorem string_after_monitorCommand (values : Values) :
    string.after (monitorCommand values) = string := by
  cases archive : values.archive with
  | none =>
    simp only [monitorCommand, archive]
    exact after_append_eq_self (string_after_literal _) (after_toList_ofList (by decide))
  | some bytes =>
    simp only [monitorCommand, archive]
    repeat' apply after_append_eq_self
    any_goals exact after_toList_ofList (by decide)
    exact after_of_isInert (.inr rfl) (all_isInert_toDigits bytes.length)

theorem code_after_line (line : Bytes) :
    code.after (line.flatMap Archive.number ++ ['\n']) = code := by
  refine after_append_eq_self ?_ rfl
  induction line with
  | nil => rfl
  | cons byte line ih =>
    rw [List.flatMap_cons, Archive.number]
    have digits := after_of_isInert (.inl rfl) (all_isInert_toDigits byte.toNat)
    exact after_append_eq_self (after_append_eq_self digits rfl) ih

/-- In an array there is neither a quote nor a slash. -/
theorem code_after_listing (bytes : Bytes) : code.after (Archive.listing bytes) = code := by
  refine after_append_eq_self (after_append_eq_self (after_toList_ofList (by decide)) ?_)
    (after_toList_ofList (by decide))
  induction chunks Archive.numbersPerLine bytes with
  | nil => rfl
  | cons line lines ih => exact after_append_eq_self (code_after_line line) ih

end Place

/-- Where the value of a field may stand. -/
def Field.fits (field : Field) (place : Place) : Bool :=
  match field with
  | path | suppressionsFile | monitor => place == .string
  | embeddedArchive => place == .code
  | _ => place == .code || place == .string

/-- The other fields are numbers, flags and fixed names. -/
theorem all_isInert_value {values : Values} {field : Field}
    (other : field ∉ [.path, .suppressionsFile, .monitor, .embeddedArchive]) :
    (values.value field).all Place.isInert = true := by
  have flags : ∀ on, (flag on).all Place.isInert = true := by decide
  have answers : ∀ on : Bool, (if on then "yes" else "no").toList.all Place.isInert = true := by
    decide
  have names (checker : Sanitizer) : checker.name.toList.all Place.isInert = true := by
    cases checker <;> decide
  have symbols (way : Interception) : (mainSymbol way).toList.all Place.isInert = true := by
    cases way <;> decide
  cases field with
  | path | suppressionsFile | monitor | embeddedArchive => exact absurd other (by decide)
  | sanitizer => exact names _
  | mainSymbol => exact symbols _
  | leakCheckYesNo => exact answers _
  | compilerMajor | compilerMinor => exact Place.all_isInert_toDigits _
  | sanitizerIsAddress | sanitizerIsMemory | sanitizerIsValgrind | leakCheck | stackUseAfterReturn
  | noWrapMain | embedSource => exact flags _

/-- A value that fits its place leaves the reader there. -/
theorem after_value {values : Values} {field : Field} {place : Place}
    (fits : field.fits place = true) : place.after (values.value field) = place := by
  cases field with
  | path | suppressionsFile =>
    obtain rfl : place = .string := by simpa [Field.fits] using fits
    exact Place.string_after_literal _
  | monitor =>
    obtain rfl : place = .string := by simpa [Field.fits] using fits
    exact Place.string_after_monitorCommand values
  | embeddedArchive =>
    obtain rfl : place = .code := by simpa [Field.fits] using fits
    cases archive : values.archive with
    | none => simp [Values.value, archive, Place.after]
    | some bytes => simpa [Values.value, archive] using Place.code_after_listing bytes
  | _ =>
    have either : place = .code ∨ place = .string := by simpa [Field.fits] using fits
    exact Place.after_of_isInert either (all_isInert_value (by decide))

/-! ## Literals that hold a text -/

/-- The text of the user's that the value of a field spells out. -/
def Values.text? (values : Values) : Field → Option (List Char)
  | .path => some values.driverPath.toList
  | .suppressionsFile => some values.config.suppressions.toList
  | _ => none

/-- Whether the value of a field spells out a text. -/
def Field.isText (field : Field) : Bool := field matches .path | .suppressionsFile

theorem Values.value_of_text? {values : Values} {field : Field} {text : List Char}
    (found : values.text? field = some text) :
    field.isText = true ∧ values.value field = literal text := by
  cases field with
  | path | suppressionsFile =>
    cases found
    exact ⟨rfl, rfl⟩
  | _ => cases found

/-- What pieces of a template are replaced by. -/
def rendered (values : Values) (ps : List Piece) : List Char := ps.flatMap (Piece.filled values)

@[simp] theorem rendered_append (values : Values) (ps qs : List Piece) :
    rendered values (ps ++ qs) = rendered values ps ++ rendered values qs :=
  List.flatMap_append

@[simp] theorem rendered_character (values : Values) (c : Char) (ps : List Piece) :
    rendered values (.character c :: ps) = c :: rendered values ps := rfl

@[simp] theorem rendered_placeholder (values : Values) (field : Field) (ps : List Piece) :
    rendered values (.placeholder field.name.toList :: ps)
      = values.value field ++ rendered values ps := by
  simp [rendered, Piece.filled, Field.ofName?_name]

@[simp] theorem rendered_nil (values : Values) : rendered values [] = [] := rfl

@[simp] theorem rendered_map_character (values : Values) (s : List Char) :
    rendered values (s.map .character) = s := by
  simp [rendered, List.flatMap_map, Piece.filled]

/-- Whether each placeholder fits its place, and each text has nothing but plain characters between
itself and the quote that opens its literal, and the closing quote right behind it. Before these
pieces the reader stands at the place, and `led` tells whether plain characters are all that came
since an opening quote. -/
def wellPlaced (place : Place) (led : Bool) : List Piece → Bool
  | [] => true
  | .character c :: rest =>
    wellPlaced (place.step c) (if c = '"' then place == .code else led && isPlain c) rest
  | .placeholder name :: rest =>
    match Field.ofName? name with
    | some field =>
      field.fits place && (!field.isText || led && rest.head? == some (.character '"'))
        && wellPlaced place false rest
    | none => false

/-- The pieces take a reader to the place, and if `led`, through the beginning of a literal. -/
structure Leads (values : Values) (ps : List Piece) (place : Place) (led : Bool) : Prop where
  reached : Place.code.after (rendered values ps) = place
  opened : led = true → ∃ (before : List Piece) (lead : List Char),
    ps = before ++ .character '"' :: lead.map .character
      ∧ Place.code.after (rendered values before) = .code ∧ ∀ c ∈ lead, isPlain c = true

theorem leads_nil (values : Values) : Leads values [] .code false where
  reached := rfl
  opened := by
    intro led
    cases led

theorem Leads.character {values : Values} {ps : List Piece} {place : Place} {led : Bool}
    (leads : Leads values ps place led) (c : Char) :
    Leads values (ps ++ [.character c]) (place.step c)
      (if c = '"' then place == .code else led && isPlain c) where
  reached := by
    rw [rendered_append, Place.after_append, leads.reached]
    rfl
  opened := by
    intro further
    by_cases quote : c = '"'
    · rw [if_pos quote, beq_iff_eq] at further
      subst further
      exact ⟨ps, [], by rw [quote]; rfl, leads.reached, by simp⟩
    · rw [if_neg quote, Bool.and_eq_true] at further
      obtain ⟨before, lead, rfl, opens, plain⟩ := leads.opened further.1
      refine ⟨before, lead ++ [c], by simp, opens, ?_⟩
      exact List.forall_mem_append.mpr ⟨plain, by simpa using further.2⟩

theorem Leads.placeholder {values : Values} {ps : List Piece} {place : Place} {led : Bool}
    (leads : Leads values ps place led) {field : Field} (fits : field.fits place = true) :
    Leads values (ps ++ [.placeholder field.name.toList]) place false where
  reached := by
    rw [rendered_append, Place.after_append, leads.reached, rendered_placeholder, rendered_nil,
      List.append_nil, after_value fits]
  opened := by
    intro led
    cases led

/-- The reader comes to every part of a well-placed template. -/
theorem Leads.append {values : Values} {ps front back : List Piece} {place : Place} {led : Bool}
    (leads : Leads values ps place led) (placed : wellPlaced place led (front ++ back) = true) :
    ∃ place led, Leads values (ps ++ front) place led ∧ wellPlaced place led back = true := by
  induction front generalizing ps place led with
  | nil => exact ⟨place, led, by simpa using leads, placed⟩
  | cons piece front ih =>
    rw [List.append_cons]
    cases piece with
    | character c => exact ih (leads.character c) placed
    | placeholder name =>
      rw [List.cons_append, wellPlaced] at placed
      cases known : Field.ofName? name with
      | none =>
        rw [known] at placed
        cases placed
      | some field =>
        rw [known] at placed
        simp only [Bool.and_eq_true] at placed
        obtain rfl := Field.ofName?_eq_some_iff.mp known
        exact ih (leads.placeholder placed.1.1) placed.2

/-- A placeholder of a text in a well-placed template stands in a literal of its own. -/
theorem exists_literal_of_wellPlaced (values : Values) {front back : List Piece} {field : Field}
    (placed : wellPlaced .code false (front ++ .placeholder field.name.toList :: back) = true)
    (isText : field.isText = true) :
    ∃ (before : List Piece) (lead : List Char) (after : List Piece),
      front = before ++ .character '"' :: lead.map .character
      ∧ back = .character '"' :: after ∧ Place.code.after (rendered values before) = .code
      ∧ ∀ c ∈ lead, isPlain c = true := by
  obtain ⟨place, led, leads, rest⟩ := (leads_nil values).append placed
  rw [List.nil_append] at leads
  simp only [wellPlaced, Field.ofName?_name, isText, Bool.not_true, Bool.false_or,
    Bool.and_eq_true, beq_iff_eq] at rest
  obtain ⟨⟨-, led, closes⟩, -⟩ := rest
  obtain ⟨before, lead, rfl, opens, plain⟩ := leads.opened led
  obtain ⟨after, rfl⟩ := List.head?_eq_some_iff.mp closes
  exact ⟨before, lead, after, rfl, rfl, opens, plain⟩

/-- In the source there is a literal that opens behind `before` and closes in front of `after`. It
denotes the plain text `lead` and then the user's text. -/
structure Encloses (source before lead text after : List Char) : Prop where
  spelled : source = before ++ '"' :: (lead ++ literal text ++ '"' :: after)
  opens : Place.code.after before = .code
  read : ∀ suffix,
    readLiteral (lead ++ literal text ++ '"' :: suffix) = some (lead ++ text, suffix)

end CheckedBuild.Wrapper
