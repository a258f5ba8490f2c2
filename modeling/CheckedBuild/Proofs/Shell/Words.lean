import CheckedBuild.Shell.Token

/-!
# Words that stand for themselves

A text stands for itself in a word if none of its characters ends words or quotes, and none of its
dollar signs opens an expansion. Such a text is read as one bare text; and no other bare text is
ever found in a word. A dollar sign becomes bare text before the character behind it is taken, so
what has been found is told together with what comes next.
-/

namespace CheckedBuild.Shell

open Shell.Reading

/-! ## Inert texts -/

/-- Whether a character ends a bare word, or quotes. -/
def isMarked (c : Char) : Bool := endsWord c || "\\'\"\x60".toList.contains c

/-- Whether a character behind a dollar sign opens an expansion. -/
def opensExpansion (c : Char) : Bool :=
  c = '(' || c = '{' || beginsName c || c.isDigit || isSpecialParameter c

/-- Whether nothing in a bare text has a meaning to the reader: no character ends a word or quotes,
and no dollar sign opens an expansion. -/
def isInert : List Char → Bool
  | [] => true
  | c :: rest => !isMarked c && !(c = '$' && rest.head?.any opensExpansion) && isInert rest

theorem isMarked_eq_false_iff {c : Char} :
    isMarked c = false ↔ endsWord c = false ∧ c ≠ '\\' ∧ c ≠ '\'' ∧ c ≠ '"' ∧ c ≠ '\x60' := by
  simp [isMarked]

theorem isInert_cons {c : Char} {rest : List Char} :
    isInert (c :: rest) = true ↔
      isMarked c = false ∧ (c = '$' → ∀ d ∈ rest.head?, opensExpansion d = false)
        ∧ isInert rest = true := by
  cases rest with
  | nil => simp [isInert]
  | cons d rest =>
    rw [isInert, Bool.and_eq_true, Bool.and_eq_true, Bool.not_eq_true', Bool.not_eq_true',
      Bool.and_eq_false_imp, and_assoc]
    simp

theorem isInert_concat {s : List Char} {c : Char} :
    isInert (s ++ [c]) = true ↔
      isInert s = true ∧ isMarked c = false
        ∧ (s.getLast? = some '$' → opensExpansion c = false) := by
  induction s with
  | nil => simp [isInert]
  | cons d s ih =>
    rw [List.cons_append, isInert_cons, isInert_cons, ih]
    cases s with
    | nil =>
      simp only [List.nil_append, List.head?_cons, List.getLast?_singleton]
      grind
    | cons e s =>
      simp only [List.cons_append, List.head?_cons, List.getLast?_cons_cons]
      grind

/-- A word that is a bare text. -/
def bareWord (s : List Char) : Word := [.text false s]

/-! ## Inert texts read -/

section

variable {α β : Type} {step : Reading α} {next : α → Reading β} {reader between : Reader}
  {value : α}

theorem run_bind_of_ok (ran : step.run reader = .ok (value, between)) :
    (step >>= next).run reader = (next value).run between := by
  rw [StateT.run_bind, ran]
  rfl

theorem exists_of_run_bind {after : Reader} {result : β}
    (ran : (step >>= next).run reader = .ok (result, after)) :
    ∃ first between, step.run reader = .ok (first, between)
      ∧ (next first).run between = .ok (result, after) := by
  rw [StateT.run_bind] at ran
  cases stepped : step.run reader with
  | error fault =>
    rw [stepped] at ran
    cases ran
  | ok first =>
    rw [stepped] at ran
    exact ⟨first.1, first.2, rfl, ran⟩

theorem run_modifyGet (f : Reader → α × Reader) (reader : Reader) :
    (modifyGet f : Reading α).run reader = .ok (f reader) := rfl

theorem run_nextJoined {c : Char} {rest : List Char} (input : reader.input = c :: rest)
    (apart : c = '\\' → rest.head? ≠ some '\n') :
    nextJoined.run reader = .ok (some c, { reader with input := rest }) := by
  rw [nextJoined, run_modifyGet]
  split
  · next joined =>
    obtain ⟨rfl, rfl⟩ := List.cons.inj (input.symm.trans joined)
    exact absurd rfl (apart rfl)
  · next none => cases input.symm.trans none
  · next same =>
    obtain ⟨rfl, rfl⟩ := List.cons.inj (input.symm.trans same)
    rfl

theorem run_nextJoined_cons {c : Char} {rest : List Char} (input : reader.input = c :: rest)
    (plain : c ≠ '\\') :
    nextJoined.run reader = .ok (some c, { reader with input := rest }) :=
  run_nextJoined input fun joint => absurd joint plain

theorem run_nextJoined_nil (input : reader.input = []) :
    nextJoined.run reader = .ok (none, reader) := by
  obtain ⟨_⟩ := reader
  obtain rfl : _ = [] := input
  rfl

end

theorem run_unread {c : Char} {rest : List Char} {reader between : Reader}
    (input : reader.input = c :: rest) (taken : between = { reader with input := rest }) :
    (unread (some c)).run between = .ok ((), reader) := by
  subst taken
  obtain ⟨_⟩ := reader
  obtain rfl : _ = c :: rest := input
  rfl

theorem withInput_eq {reader : Reader} {s : List Char} (input : reader.input = s) :
    { reader with input := s } = reader := by
  subst input
  rfl

section

variable {nested : Nested} {reader between : Reader} {place : Place} {parts : List Part}
  {s after : List Char}

theorem run_readParts_end {fuel : Nat} (ended : nextJoined.run reader = .ok (none, between))
    (complete : place.fault? = none) :
    (readParts nested (fuel + 1) place parts).run reader = .ok (collected parts, between) := by
  rw [readParts, run_bind_of_ok ended]
  simp only [complete]
  rfl

/-- Most characters have the same meaning in all places, or none. -/
theorem run_readParts_character {fuel : Nat} {c : Char}
    (taken : nextJoined.run reader = .ok (some c, between))
    (plain : c ≠ '\\' ∧ c ≠ '$' ∧ c ≠ '\x60' ∧ c ≠ '\'') :
    (readParts nested (fuel + 1) place parts).run reader
      = (readCharacter nested fuel place c parts).run between := by
  obtain ⟨backslash, dollar, backquote, quote⟩ := plain
  rw [readParts, run_bind_of_ok taken]
  split <;> simp_all

/-- Behind a dollar sign there may be something that opens no expansion. -/
theorem run_readExpansion_none {fuel : Nat}
    (closed : ∀ c ∈ reader.input.head?, opensExpansion c = false ∧ c ≠ '\\') :
    (readExpansion nested (fuel + 1) .bare).run reader = .ok (none, reader) := by
  rw [readExpansion, if_neg (by decide)]
  cases input : reader.input with
  | nil =>
    rw [run_bind_of_ok (run_nextJoined_nil input)]
    rfl
  | cons c rest =>
    obtain ⟨closed, plain⟩ := closed c (by rw [input]; rfl)
    simp only [opensExpansion, Bool.or_eq_false_iff, decide_eq_false_iff_not] at closed
    obtain ⟨⟨⟨⟨parenthesis, brace⟩, letter⟩, digit⟩, special⟩ := closed
    have name : readName fuel false c = pure (none, some c) := by
      simp [readName, letter, digit, special]
    rw [run_bind_of_ok (run_nextJoined_cons input plain)]
    split
    · rename_i found
      exact absurd (Option.some.inj found) parenthesis
    · rename_i found
      exact absurd (Option.some.inj found) brace
    · rename_i found
      obtain rfl := Option.some.inj found
      rw [name, pure_bind, run_bind_of_ok (run_unread input rfl)]
      rfl
    · rename_i found
      cases found

/-- An inert text is added to what was found, up to the next blank or the end. -/
theorem run_readParts_inert (inert : isInert s = true) (blank : ∀ c ∈ after.head?, c = ' ')
    {fuel : Nat} (enough : 2 * s.length + 2 ≤ fuel) (parts : List Part)
    (input : reader.input = s ++ after) :
    (readParts nested fuel .bare parts).run reader
      = .ok (collected (s.foldl (fun parts c => addCharacter false c parts) parts),
          { reader with input := after }) := by
  induction s generalizing fuel parts reader with
  | nil =>
    obtain ⟨fuel, rfl⟩ : ∃ less, fuel = less + 2 := Nat.exists_eq_add_of_le' enough
    have input : reader.input = after := input
    rw [withInput_eq input]
    cases after with
    | nil => exact run_readParts_end (run_nextJoined_nil input) rfl
    | cons c rest =>
      obtain rfl := blank c rfl
      rw [run_readParts_character (run_nextJoined_cons input (by decide)) (by decide),
        readCharacter, if_pos (by decide), run_bind_of_ok (run_unread input rfl)]
      · rfl
      · decide
  | cons c s ih =>
    obtain ⟨unmarked, dollar, later⟩ := isInert_cons.mp inert
    obtain ⟨inside, backslash, quote, double, backquote⟩ := isMarked_eq_false_iff.mp unmarked
    rw [List.length_cons] at enough
    obtain ⟨fuel, rfl⟩ : ∃ less, fuel = less + 2 := Nat.exists_eq_add_of_le' (by omega)
    have taken : nextJoined.run reader = .ok (some c, { reader with input := s ++ after }) :=
      run_nextJoined_cons input backslash
    have continues {fuel : Nat} (enough : 2 * s.length + 2 ≤ fuel) :=
      @ih { reader with input := s ++ after } later fuel enough (addCharacter false c parts) rfl
    by_cases opens : c = '$'
    · -- nothing behind the dollar sign opens an expansion, so it is a character like the others
      subst opens
      have closed : ∀ d ∈ (s ++ after).head?, opensExpansion d = false ∧ d ≠ '\\' := by
        intro d head
        cases s with
        | nil =>
          obtain rfl := blank d head
          decide
        | cons e s =>
          obtain rfl := Option.some.inj head
          exact ⟨dollar rfl e rfl, (isMarked_eq_false_iff.mp (isInert_cons.mp later).1).2.1⟩
      rw [readParts, run_bind_of_ok taken]
      simp only
      rw [run_bind_of_ok (run_readExpansion_none closed)]
      exact continues (by omega)
    · rw [run_readParts_character taken ⟨backslash, opens, backquote, quote⟩, readCharacter,
        if_neg (by rw [inside]; decide)]
      · exact continues (by omega)
      · exact double

theorem foldl_addCharacter (s reversed : List Char) :
    s.foldl (fun parts c => addCharacter false c parts) [.text false reversed]
      = [.text false (s.reverse ++ reversed)] := by
  induction s generalizing reversed with
  | nil => rfl
  | cons c s ih =>
    have added : addCharacter false c [.text false reversed] = [.text false (c :: reversed)] := rfl
    rw [List.foldl_cons, added, ih, List.reverse_cons, List.append_assoc]
    rfl

theorem collected_foldl (nonempty : s ≠ []) :
    collected (s.foldl (fun parts c => addCharacter false c parts) []) = bareWord s := by
  obtain ⟨c, s, rfl⟩ := List.exists_cons_of_ne_nil nonempty
  have first : addCharacter false c [] = [.text false [c]] := rfl
  rw [List.foldl_cons, first, foldl_addCharacter]
  simp [collected, bareWord]

/-- The text of a bare word: nothing in it has a meaning, and no comment begins there. -/
structure Stands (s : List Char) : Prop where
  inert : isInert s = true
  nonempty : s ≠ []
  uncommented : s.head? ≠ some '#'

theorem run_readUnit_end {fuel : Nat} (input : reader.input = []) :
    (readUnit nested place (fuel + 1)).run reader
      = .ok (.endOfFile, { reader with token := .endOfFile }) := by
  rw [readUnit]
  simp only
  rw [run_bind_of_ok (run_nextJoined_nil input)]
  rfl

theorem run_readUnit_blank {fuel : Nat} {rest : List Char} (input : reader.input = ' ' :: rest) :
    (readUnit nested place (fuel + 1)).run reader
      = (readUnit nested place fuel).run { reader with input := rest } := by
  rw [readUnit]
  simp only
  rw [run_bind_of_ok (run_nextJoined_cons input (by decide))]
  rfl

/-- Reads a word, unless it is the number in front of a redirection. -/
def readWord (nested : Nested) (place : Place) : Reading Token := do
  let word ← readParts nested (← get).fuel place []
  match plainText? word, (← get).input with
  | some text, c :: rest =>
    if (c = '<' || c = '>') && text.length ≤ 1 && text.all Char.isDigit then
      modify fun reader => { reader with input := rest }
      readTarget c (Text.natural? text)
      return .redirection
    modify fun reader => { reader with word }
    found .word
  | _, _ =>
    modify fun reader => { reader with word }
    found .word

theorem run_readUnit_word {fuel : Nat} {c : Char}
    (taken : nextJoined.run reader = .ok (some c, between)) (inside : endsWord c = false)
    (uncommented : c ≠ '#') :
    (readUnit nested place (fuel + 1)).run reader
      = (unread (some c) >>= fun _ => readWord nested place).run between := by
  rw [readUnit]
  simp only
  rw [run_bind_of_ok taken]
  split
  case h_11 =>
    rename_i same
    obtain rfl := Option.some.inj same
    rfl
  all_goals
    rename_i same
    cases same
  case h_4 => exact absurd rfl uncommented
  all_goals exact absurd inside (by decide)

/-- The next unit is a word with the text, up to the next blank or the end. -/
theorem run_readUnit_stands (stands : Stands s) (blank : ∀ c ∈ after.head?, c = ' ') {fuel : Nat}
    (enough : 2 * s.length + 2 ≤ reader.fuel) (input : reader.input = s ++ after) :
    (readUnit nested .bare (fuel + 1)).run reader
      = .ok (.word, { reader with input := after, word := bareWord s, token := .word }) := by
  have read : (readParts nested reader.fuel .bare []).run reader = _ :=
    run_readParts_inert stands.inert blank enough [] input
  rw [collected_foldl stands.nonempty] at read
  obtain ⟨c, rest, rfl⟩ := List.exists_cons_of_ne_nil stands.nonempty
  have uncommented : c ≠ '#' := fun same => stands.uncommented (congrArg some same)
  obtain ⟨inside, backslash, -⟩ := isMarked_eq_false_iff.mp (isInert_cons.mp stands.inert).1
  rw [run_readUnit_word (run_nextJoined_cons input backslash) inside uncommented,
    run_bind_of_ok (run_unread input rfl)]
  unfold readWord
  rw [run_bind_of_ok rfl, run_bind_of_ok read]
  cases after with
  | nil => rfl
  | cons d after =>
    obtain rfl := blank d rfl
    rfl

theorem run_nextUnit_back (back : reader.isBack = true) :
    (nextUnit nested place).run reader = .ok (reader.token, { reader with isBack := false }) := by
  unfold nextUnit
  rw [run_bind_of_ok rfl, if_pos back]
  rfl

theorem run_nextUnit {fuel : Nat} (forth : reader.isBack = false) (steps : reader.fuel = fuel) :
    (nextUnit nested place).run reader = (readUnit nested place fuel).run reader := by
  unfold nextUnit
  rw [run_bind_of_ok rfl, if_neg (by rw [forth]; decide), steps]

/-- A unit that is no keyword is taken as it is. -/
theorem run_readToken {asKeyword : Bool} {token : Token}
    (taken : (nextUnit nested .bare).run reader = .ok (token, between))
    (free : asKeyword = true → token = .word →
      ∀ text ∈ plainText? between.word, String.ofList text ∉ keywords) :
    (readToken nested false asKeyword).run reader = .ok (token, between) := by
  unfold readToken
  simp only [Bool.false_eq_true, if_false]
  rw [run_bind_of_ok taken]
  split
  · rename_i word
    simp only [Bool.and_eq_true, decide_eq_true_eq] at word
    rw [run_bind_of_ok rfl]
    cases plain : plainText? between.word with
    | none => rfl
    | some text =>
      have unnamed := free word.2 word.1 text plain
      simp only
      rw [if_neg (by simpa using unnamed)]
      rfl
  · rfl

/-- A unit that was put back is taken again. -/
theorem run_readToken_back {asKeyword : Bool} (back : reader.isBack = true)
    (free : asKeyword = false ∨ reader.token ≠ .word) :
    (readToken nested false asKeyword).run reader
      = .ok (reader.token, { reader with isBack := false }) := by
  refine run_readToken (run_nextUnit_back back) fun keyword word => ?_
  rcases free with unasked | other
  · rw [unasked] at keyword
    cases keyword
  · exact absurd word other

end

/-! ## The bare text of a word -/

/-- A part as it is collected: a text is reversed. -/
def Part.turned : Part → Part
  | .text quoted s => .text quoted s.reverse
  | part => part

theorem foldl_turned {step : Word → Part → Word}
    (turns : ∀ word part, step word part = part.turned :: word) (parts : List Part) (word : Word) :
    parts.foldl step word = (parts.map Part.turned).reverse ++ word := by
  induction parts generalizing word with
  | nil => rfl
  | cons part parts ih =>
    rw [List.foldl_cons, ih, turns]
    simp

theorem mem_turned {quoted : Bool} {s : List Char} {parts : List Part} :
    .text quoted s ∈ (parts.map Part.turned).reverse ↔ .text quoted s.reverse ∈ parts := by
  rw [List.mem_reverse, List.mem_map]
  constructor
  · rintro ⟨part, member, turned⟩
    cases part <;> simp [Part.turned] at turned
    obtain ⟨rfl, rfl⟩ := turned
    rwa [List.reverse_reverse]
  · intro member
    exact ⟨_, member, by simp [Part.turned]⟩

theorem mem_collected {quoted : Bool} {s : List Char} {parts : List Part} :
    .text quoted s ∈ collected parts ↔ .text quoted s.reverse ∈ parts := by
  rw [collected, foldl_turned fun word part => by cases part <;> rfl, List.append_nil]
  exact mem_turned

theorem mem_reopened {quoted : Bool} {s : List Char} {word : Word} :
    .text quoted s ∈ reopened word ↔ .text quoted s.reverse ∈ word := by
  rw [reopened, foldl_turned fun word part => by cases part <;> rfl, List.append_nil]
  exact mem_turned

/-! ### The next character -/

theorem head?_afterJoints (count : Nat) (s : List Char) :
    (afterJoints count s).2.head? = some '\\' → (afterJoints count s).2.tail.head? ≠ some '\n' := by
  fun_induction afterJoints count s with
  | case1 count rest ih => exact ih
  | case2 count s other =>
    intro joint feed
    cases s with
    | nil => cases joint
    | cons c rest =>
      cases rest with
      | nil => cases feed
      | cons d rest =>
        obtain rfl := Option.some.inj joint
        obtain rfl := Option.some.inj feed
        exact other rest rfl

section

variable {reader between : Reader}

/-- Either nothing is left, or what is left does not join lines with the character. -/
theorem nextJoined_cases {next : Option Char}
    (taken : nextJoined.run reader = .ok (next, between)) :
    next = none ∧ between.input = []
      ∨ ∃ c, next = some c ∧ (c = '\\' → between.input.head? ≠ some '\n') := by
  rw [nextJoined, run_modifyGet] at taken
  split at taken
  · next rest input =>
    cases taken
    cases left : (afterJoints 1 rest).2 with
    | nil => exact Or.inl ⟨rfl, rfl⟩
    | cons c others =>
      refine Or.inr ⟨c, rfl, fun joint => ?_⟩
      have apart := head?_afterJoints 1 rest (by rw [left, joint]; rfl)
      rwa [left] at apart
  · next input =>
    cases taken
    exact Or.inl ⟨rfl, input⟩
  · next c rest other input =>
    cases taken
    refine Or.inr ⟨c, rfl, fun joint feed => ?_⟩
    cases rest with
    | nil => cases feed
    | cons d rest =>
      obtain rfl := Option.some.inj feed
      exact other rest joint rfl

/-- A character that was put back is the next one. -/
theorem run_nextJoined_unread {c : Char} (taken : nextJoined.run reader = .ok (some c, between)) :
    nextJoined.run { between with input := c :: between.input } = .ok (some c, between) := by
  obtain ⟨none, -⟩ | ⟨d, same, apart⟩ := nextJoined_cases taken
  · cases none
  · obtain rfl := Option.some.inj same
    exact run_nextJoined rfl apart

end

/-! ### Parts of a word -/

section

variable {nested : Nested} {reader after : Reader}

/-- No expansion is a text. -/
theorem ne_text_of_readExpansion {fuel : Nat} {place : Place} {part : Part}
    (read : (readExpansion nested fuel place).run reader = .ok (some part, after)) (quoted : Bool)
    (s : List Char) : part ≠ .text quoted s := by
  cases fuel with
  | zero => cases read
  | succ fuel =>
    rw [readExpansion] at read
    split at read
    · cases read
    obtain ⟨c, _, -, read⟩ := exists_of_run_bind read
    split at read
    · obtain ⟨d, _, -, read⟩ := exists_of_run_bind read
      split at read
      · obtain ⟨_, _, -, read⟩ := exists_of_run_bind read
        cases read
        simp
      · obtain ⟨_, _, -, read⟩ := exists_of_run_bind read
        obtain ⟨_, _, -, read⟩ := exists_of_run_bind read
        cases read
        simp
    · obtain ⟨opening, _, -, read⟩ := exists_of_run_bind read
      split at read
      · cases read
        simp
      · obtain ⟨_, _, -, read⟩ := exists_of_run_bind read
        cases read
        simp
    · obtain ⟨⟨name, _⟩, _, -, read⟩ := exists_of_run_bind read
      obtain ⟨_, _, -, read⟩ := exists_of_run_bind read
      cases name with
      | none => cases read
      | some name =>
        cases read
        simp
    · cases read

/-- A character that begins no name is kept. -/
theorem eq_of_readName_none {fuel : Nat} {c : Char} {next : Option Char}
    (read : (readName fuel false c).run reader = .ok ((none, next), after)) :
    (beginsName c = false ∧ c.isDigit = false ∧ isSpecialParameter c = false)
      ∧ next = some c ∧ after = reader := by
  unfold readName at read
  split at read
  · obtain ⟨_, _, -, read⟩ := exists_of_run_bind read
    cases read
  · split at read
    · rw [if_neg (by decide)] at read
      obtain ⟨_, _, -, read⟩ := exists_of_run_bind read
      cases read
    · split at read
      · obtain ⟨_, _, -, read⟩ := exists_of_run_bind read
        cases read
      · next letter digit special =>
        cases read
        refine ⟨⟨?_, ?_, ?_⟩, rfl, rfl⟩
        · simpa using letter
        · simpa using digit
        · simpa using special

/-- Where there is no expansion, what follows the dollar sign opens none. -/
theorem opensExpansion_of_readExpansion {fuel : Nat}
    (read : (readExpansion nested fuel .bare).run reader = .ok (none, after)) {c : Char}
    {later : Reader} (taken : nextJoined.run after = .ok (some c, later)) :
    opensExpansion c = false := by
  cases fuel with
  | zero => cases read
  | succ fuel =>
    rw [readExpansion, if_neg (by decide)] at read
    obtain ⟨d, between, first, read⟩ := exists_of_run_bind read
    split at read
    · obtain ⟨d, _, -, read⟩ := exists_of_run_bind read
      split at read
      · obtain ⟨_, _, -, read⟩ := exists_of_run_bind read
        cases read
      · obtain ⟨_, _, -, read⟩ := exists_of_run_bind read
        obtain ⟨_, _, -, read⟩ := exists_of_run_bind read
        cases read
    · obtain ⟨opening, _, -, read⟩ := exists_of_run_bind read
      split at read
      · cases read
      · obtain ⟨_, _, -, read⟩ := exists_of_run_bind read
        cases read
    · next d parenthesis brace =>
      obtain ⟨⟨name, next⟩, _, named, read⟩ := exists_of_run_bind read
      obtain ⟨⟨⟩, _, put, read⟩ := exists_of_run_bind read
      have none : name = none := by
        cases name with
        | none => rfl
        | some name => cases read
      subst none
      cases read
      obtain ⟨closed, rfl, rfl⟩ := eq_of_readName_none named
      cases put
      -- what was looked at has been put back, so it comes next
      rw [run_nextJoined_unread first] at taken
      cases taken
      simpa [opensExpansion, closed] using ⟨parenthesis, brace⟩
    · cases read
      obtain ⟨-, input⟩ | ⟨_, some, -⟩ := nextJoined_cases first
      · rw [run_nextJoined_nil input] at taken
        cases taken
      · cases some

theorem mem_of_addCharacter_true {c : Char} {s : List Char} {parts : List Part}
    (member : .text false s ∈ addCharacter true c parts) : .text false s ∈ parts := by
  unfold addCharacter at member
  split at member
  · split at member
    · next other t rest quoted =>
      subst quoted
      simpa using member
    · simpa using member
  · simpa using member

theorem readCharacter_double {fuel : Nat} {inBraces : Bool} {c : Char} {parts : List Part}
    (inside : c ≠ '"') :
    readCharacter nested (fuel + 1) (.double inBraces) c parts
      = (do
        countLines [c]
        readParts nested fuel (.double inBraces) (addCharacter true c parts)) := by
  rw [readCharacter]
  · rfl
  all_goals simp [inside]

/-- Between double quotes every text counts as quoted. -/
theorem notMem_readParts_double {fuel : Nat} {inBraces : Bool} {parts : List Part} {word : Word}
    (read : (readParts nested fuel (.double inBraces) parts).run reader = .ok (word, after))
    (quoted : ∀ s, .text false s ∉ parts) (s : List Char) : .text false s ∉ word := by
  -- going on with a character takes a second step of fuel, so the induction is a strong one
  induction fuel using Nat.strongRecOn generalizing parts reader with
  | ind fuel ih =>
    cases fuel with
    | zero => cases read
    | succ fuel =>
      have next {parts : List Part} {reader : Reader} := @ih fuel (Nat.lt_succ_self _) reader parts
      have adds (c : Char) {parts : List Part} (quoted : ∀ s, .text false s ∉ parts) :
          ∀ s, .text false s ∉ addCharacter true c parts :=
        fun s member => quoted s (mem_of_addCharacter_true member)
      have puts (part : Part) (other : ∀ s, part ≠ .text false s) :
          ∀ s, .text false s ∉ part :: parts :=
        fun s member => (List.mem_cons.mp member).elim (fun same => other s same.symm) (quoted s)
      rw [readParts] at read
      obtain ⟨c, between, -, read⟩ := exists_of_run_bind read
      split at read
      · cases read
      · obtain ⟨d, _, -, read⟩ := exists_of_run_bind read
        cases d with
        | none => exact next read (adds _ quoted)
        | some d =>
          obtain ⟨_, _, -, read⟩ := exists_of_run_bind read
          refine next read (adds _ ?_)
          split
          · exact quoted
          · exact adds _ quoted
      · obtain ⟨part, _, expanded, read⟩ := exists_of_run_bind read
        cases part with
        | none => exact next read (adds _ quoted)
        | some part => exact next read (puts part (ne_text_of_readExpansion expanded false))
      · rw [if_neg (by simp)] at read
        obtain ⟨_, _, -, read⟩ := exists_of_run_bind read
        obtain ⟨inside, _, -, read⟩ := exists_of_run_bind read
        exact next read (puts _ fun s => by simp)
      · exact next read (adds _ quoted)
      · next c _ _ _ _ =>
        cases fuel with
        | zero => cases read
        | succ fuel =>
          have later {parts : List Part} {reader : Reader} := @ih fuel (by omega) reader parts
          by_cases closes : c = '"'
          · subst closes
            rw [readCharacter] at read
            cases read
            exact fun member => quoted _ (mem_collected.mp member)
          · rw [readCharacter_double closes] at read
            obtain ⟨_, _, -, read⟩ := exists_of_run_bind read
            exact later read (adds _ quoted)

/-- The parts that were found hold inert bare texts only, and what follows them does not turn a
dollar sign at their end into an expansion. -/
structure InertParts (parts : List Part) (reader : Reader) : Prop where
  inert : ∀ s, .text false s ∈ parts → isInert s.reverse = true
  ahead : ∀ s rest, parts = .text false ('$' :: s) :: rest → ∀ c between,
    nextJoined.run reader = .ok (some c, between) → opensExpansion c = false

theorem InertParts.nil : InertParts [] reader where
  inert _ member := by cases member
  ahead _ _ found := by cases found

/-- Parts that are no bare texts may be added. -/
theorem InertParts.append {parts : List Part} (inertParts : InertParts parts reader)
    (part : Part) (found : List Part) (others : ∀ s, .text false s ∉ part :: found) :
    InertParts (part :: found ++ parts) after where
  inert s member := by
    obtain inFound | inParts := List.mem_append.mp member
    · exact absurd inFound (others s)
    · exact inertParts.inert s inParts
  ahead s rest found := by
    obtain ⟨rfl, -⟩ := List.cons.inj found
    exact absurd (List.mem_cons_self ..) (others _)

theorem InertParts.quoted {parts : List Part} (inertParts : InertParts parts reader) (c : Char) :
    InertParts (addCharacter true c parts) after where
  inert s member := inertParts.inert s (mem_of_addCharacter_true member)
  ahead s rest found := by
    unfold addCharacter at found
    split at found
    · split at found <;> cases found
    · cases found

/-- A character without a meaning may be added, unless it is part of an expansion. -/
theorem inert_addCharacter {parts : List Part} {c : Char}
    (inert : ∀ s, .text false s ∈ parts → isInert s.reverse = true) (unmarked : isMarked c = false)
    (closed : ∀ s rest, parts = .text false ('$' :: s) :: rest → opensExpansion c = false) :
    ∀ s, .text false s ∈ addCharacter false c parts → isInert s.reverse = true := by
  have single : isInert [c] = true := by simp [isInert, unmarked]
  intro s member
  unfold addCharacter at member
  split at member
  · next other t rest =>
    split at member
    · next bare =>
      subst bare
      obtain same | inRest := List.mem_cons.mp member
      · cases same
        rw [List.reverse_cons, isInert_concat, List.getLast?_reverse]
        refine ⟨inert t (List.mem_cons_self ..), unmarked, fun dollar => ?_⟩
        cases t with
        | nil => cases dollar
        | cons d t =>
          obtain rfl := Option.some.inj dollar
          exact closed t rest rfl
      · exact inert s (List.mem_cons_of_mem _ inRest)
    · obtain same | inParts := List.mem_cons.mp member
      · cases same
        exact single
      · exact inert s inParts
  · obtain same | inParts := List.mem_cons.mp member
    · cases same
      exact single
    · exact inert s inParts

theorem InertParts.character {parts : List Part} {c : Char}
    (inertParts : InertParts parts reader) (taken : nextJoined.run reader = .ok (some c, between))
    (unmarked : isMarked c = false) (plain : c ≠ '$') :
    InertParts (addCharacter false c parts) after where
  inert := inert_addCharacter inertParts.inert unmarked fun s rest found =>
    inertParts.ahead s rest found c between taken
  ahead s rest found := by
    unfold addCharacter at found
    split at found
    · split at found
      · cases found
        exact absurd rfl plain
      · cases found
        exact absurd rfl plain
    · cases found
      exact absurd rfl plain

/-- A dollar sign that opens no expansion may be added. -/
theorem InertParts.dollar {fuel : Nat} {parts : List Part} (inertParts : InertParts parts reader)
    (taken : nextJoined.run reader = .ok (some '$', between))
    (read : (readExpansion nested fuel .bare).run between = .ok (none, after)) :
    InertParts (addCharacter false '$' parts) after where
  inert := inert_addCharacter inertParts.inert (by decide) fun s rest found =>
    inertParts.ahead s rest found '$' between taken
  ahead _ _ _ _ _ next := opensExpansion_of_readExpansion read next

theorem readCharacter_bare {fuel : Nat} {c : Char} {parts : List Part} (unquoted : c ≠ '"') :
    readCharacter nested (fuel + 1) .bare c parts
      = (if endsWord c then do
          unread (some c)
          return collected parts
        else readParts nested fuel .bare (addCharacter false c parts)) := by
  rw [readCharacter]
  · rfl
  · exact unquoted

/-- What bare text is found in a word is inert. -/
theorem inert_readParts {fuel : Nat} {parts : List Part} {word : Word}
    (read : (readParts nested fuel .bare parts).run reader = .ok (word, after))
    (inertParts : InertParts parts reader) (s : List Char) (member : .text false s ∈ word) :
    isInert s = true := by
  have ends {parts : List Part} (inert : ∀ s, .text false s ∈ parts → isInert s.reverse = true)
      (member : .text false s ∈ collected parts) : isInert s = true := by
    simpa using inert _ (mem_collected.mp member)
  induction fuel using Nat.strongRecOn generalizing parts reader with
  | ind fuel ih =>
    cases fuel with
    | zero => cases read
    | succ fuel =>
      have next {parts : List Part} {reader : Reader} := @ih fuel (Nat.lt_succ_self _) reader parts
      rw [readParts] at read
      obtain ⟨c, between, taken, read⟩ := exists_of_run_bind read
      split at read
      · cases read
        exact ends inertParts.inert member
      · obtain ⟨d, _, -, read⟩ := exists_of_run_bind read
        cases d with
        | none => exact next read (inertParts.quoted _)
        | some d =>
          obtain ⟨_, _, -, read⟩ := exists_of_run_bind read
          exact next read (inertParts.quoted _)
      · obtain ⟨part, _, expanded, read⟩ := exists_of_run_bind read
        cases part with
        | none => exact next read (inertParts.dollar taken expanded)
        | some part =>
          have other := ne_text_of_readExpansion expanded false
          exact next read (inertParts.append part [] fun s same =>
            other s (List.mem_singleton.mp same).symm)
      · rw [if_neg (by simp)] at read
        obtain ⟨_, _, -, read⟩ := exists_of_run_bind read
        obtain ⟨inside, _, -, read⟩ := exists_of_run_bind read
        exact next read (inertParts.append _ [] (by simp))
      · rw [if_neg (by decide)] at read
        obtain ⟨text, _, -, read⟩ := exists_of_run_bind read
        exact next read (inertParts.append .mark [.text true text.reverse, .mark] (by simp))
      · next c backslash dollar backquote quote =>
        cases fuel with
        | zero => cases read
        | succ fuel =>
          have later {parts : List Part} {reader : Reader} := @ih fuel (by omega) reader parts
          by_cases double : c = '"'
          · -- the quotes hold no bare text, and their marks keep it apart from what comes later
            subst double
            rw [readCharacter] at read
            obtain ⟨inside, _, quoted, read⟩ := exists_of_run_bind read
            have others := notMem_readParts_double quoted (by simp)
            have shape : .mark :: reopened inside ++ .mark :: parts
                = .mark :: (reopened inside ++ [.mark]) ++ parts := by simp
            rw [shape] at read
            exact later read (inertParts.append .mark (reopened inside ++ [.mark])
              (by simp [mem_reopened, others]))
          · rw [readCharacter_bare double] at read
            split at read
            · cases read
              exact ends inertParts.inert member
            · next inside =>
              refine later read (inertParts.character taken ?_ dollar)
              exact isMarked_eq_false_iff.mpr
                ⟨by simpa using inside, backslash, quote, double, backquote⟩

/-! ### The first unit -/

theorem inert_readWord {token : Token}
    (read : (readWord nested .bare).run reader = .ok (token, after)) (word : token = .word) :
    after.token = .word ∧ ∀ s, .text false s ∈ after.word → isInert s = true := by
  unfold readWord at read
  obtain ⟨_, _, got, read⟩ := exists_of_run_bind read
  cases got
  obtain ⟨found, _, parts, read⟩ := exists_of_run_bind read
  have inert := inert_readParts parts .nil
  obtain ⟨_, _, got, read⟩ := exists_of_run_bind read
  cases got
  split at read
  · split at read
    · obtain ⟨_, _, -, read⟩ := exists_of_run_bind read
      obtain ⟨_, _, -, read⟩ := exists_of_run_bind read
      cases read
      cases word
    · obtain ⟨_, _, got, read⟩ := exists_of_run_bind read
      cases got
      cases read
      exact ⟨rfl, inert⟩
  · obtain ⟨_, _, got, read⟩ := exists_of_run_bind read
    cases got
    cases read
    exact ⟨rfl, inert⟩

/-- Reads an operator that one more character makes another one. -/
def readOperator (second : Char) (yes no : Token) : Reading Token := do
  let after ← nextJoined
  if after = some second then found yes
  else
    unread after
    found no

theorem ne_word_of_readOperator {second : Char} {yes no token : Token}
    (others : yes ≠ .word ∧ no ≠ .word)
    (read : (readOperator second yes no).run reader = .ok (token, after)) : token ≠ .word := by
  unfold readOperator at read
  obtain ⟨_, _, -, read⟩ := exists_of_run_bind read
  split at read
  · cases read
    exact others.1
  · obtain ⟨_, _, -, read⟩ := exists_of_run_bind read
    cases read
    exact others.2

/-- Where the next unit is a word, its bare texts are inert. -/
theorem inert_readUnit {fuel : Nat}
    (read : (readUnit nested .bare fuel).run reader = .ok (.word, after)) :
    after.token = .word ∧ ∀ s, .text false s ∈ after.word → isInert s = true := by
  induction fuel generalizing reader with
  | zero => cases read
  | succ fuel ih =>
    rw [readUnit] at read
    simp only at read
    obtain ⟨c, between, taken, read⟩ := exists_of_run_bind read
    split at read
    · cases read
    · exact ih read
    · exact ih read
    · obtain ⟨_, _, -, read⟩ := exists_of_run_bind read
      exact ih read
    · obtain ⟨_, _, -, read⟩ := exists_of_run_bind read
      cases read
    · exact absurd rfl (ne_word_of_readOperator (by decide) read)
    · exact absurd rfl (ne_word_of_readOperator (by decide) read)
    · exact absurd rfl (ne_word_of_readOperator (by decide) read)
    · cases read
    · cases read
    · obtain ⟨_, _, -, read⟩ := exists_of_run_bind read
      exact inert_readWord read rfl

/-- A comment is no word. -/
theorem uncommented_readUnit {fuel : Nat} {rest : List Char} (input : reader.input = '#' :: rest)
    (read : (readUnit nested .bare fuel).run reader = .ok (.word, after)) : False := by
  cases fuel with
  | zero => cases read
  | succ fuel =>
    rw [readUnit] at read
    simp only at read
    rw [run_bind_of_ok (run_nextJoined_cons input (by decide))] at read
    obtain ⟨_, _, got, read⟩ := exists_of_run_bind read
    cases got
    cases fuel with
    | zero => cases read
    | succ fuel =>
      -- a comment ends at a line feed or at the end of the input
      cases left : rest.dropWhile (· ≠ '\n') with
      | nil =>
        rw [run_readUnit_end left] at read
        cases read
      | cons c others =>
        have feed : c = '\n' := by
          have none := List.head?_dropWhile_not (· ≠ '\n') rest
          rw [left] at none
          simpa using none
        subst feed
        rw [readUnit] at read
        simp only at read
        rw [run_bind_of_ok (run_nextJoined_cons left (by decide))] at read
        cases read

end

end CheckedBuild.Shell
