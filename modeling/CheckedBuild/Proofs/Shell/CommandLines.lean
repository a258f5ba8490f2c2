import CheckedBuild.Proofs.Shell.Words
import CheckedBuild.Shell.Expand
import CheckedBuild.Shell.Grammar

/-!
# Command lines of bare words

A line of bare texts is read as a simple command that has these texts as its words, provided that
the first one is neither a keyword nor an assignment. It is read so in no other case: whatever
comes of a line that begins with a word, a simple command there begins with that word, and its
bare text is inert. What is expanded of bare words are tildes and wild characters only.
-/

namespace CheckedBuild.Shell

open Shell.Reading

/-! ## Lines of bare texts -/

/-- Texts, each behind a blank. -/
def spaced (texts : List (List Char)) : List Char := texts.flatMap fun s => ' ' :: s

theorem head?_spaced (texts : List (List Char)) : ∀ c ∈ (spaced texts).head?, c = ' ' := by
  intro c head
  cases texts with
  | nil => cases head
  | cons s rest => exact (Option.some.inj head).symm

theorem length_spaced (s : List Char) (texts : List (List Char)) :
    (spaced (s :: texts)).length = s.length + (spaced texts).length + 1 := by
  simp only [spaced, List.flatMap_cons, List.length_append, List.length_cons]
  omega

theorem length_le_spaced (texts : List (List Char)) : texts.length ≤ (spaced texts).length := by
  induction texts with
  | nil => exact Nat.le_refl _
  | cons s rest ih =>
    rw [length_spaced, List.length_cons]
    omega

section

variable {nested : Nested} {reader : Reader} {s : List Char} {texts : List (List Char)}

theorem run_nextUnit_spaced (stands : Stands s) (forth : reader.isBack = false)
    (enough : 2 * s.length + 2 ≤ reader.fuel) (input : reader.input = spaced (s :: texts)) :
    (nextUnit nested .bare).run reader
      = .ok (.word, { reader with input := spaced texts, word := bareWord s, token := .word }) := by
  obtain ⟨fuel, more⟩ : ∃ less, reader.fuel = less + 2 := Nat.exists_eq_add_of_le' (by omega)
  have input : reader.input = ' ' :: (s ++ spaced texts) := input
  rw [run_nextUnit forth more, run_readUnit_blank input]
  exact run_readUnit_stands stands (head?_spaced texts) enough rfl

theorem run_nextUnit_end (forth : reader.isBack = false) (enough : 0 < reader.fuel)
    (input : reader.input = []) :
    (nextUnit nested .bare).run reader = .ok (.endOfFile, { reader with token := .endOfFile }) := by
  obtain ⟨fuel, more⟩ : ∃ less, reader.fuel = less + 1 := Nat.exists_eq_add_of_le' enough
  rw [run_nextUnit forth more, run_readUnit_end input]

/-- A word goes on with a simple command; in front of the others it may be an assignment. -/
theorem run_readSimple_word {between : Reader} {fuel : Nat} {gathered : Gathered}
    (taken : (readToken nested false false).run reader = .ok (.word, between))
    (unassigned : gathered.words = [] → isAssignment between.word = false) :
    (readSimple nested (fuel + 1) gathered).run reader
      = (readSimple nested fuel
          { gathered with words := between.word :: gathered.words }).run between := by
  have named : (gathered.words.isEmpty && isAssignment between.word) = false := by
    cases words : gathered.words with
    | nil => rw [unassigned words, Bool.and_false]
    | cons => rfl
  rw [readSimple.eq_def]
  simp only
  rw [run_bind_of_ok taken]
  simp only
  rw [run_bind_of_ok rfl]
  simp only [named, Bool.false_eq_true, if_false]

theorem run_readSimple_end {between : Reader} {fuel : Nat} {gathered : Gathered}
    (taken : (readToken nested false false).run reader = .ok (.endOfFile, between)) :
    (readSimple nested (fuel + 1) gathered).run reader
      = .ok (.command gathered, { between with isBack := true }) := by
  rw [readSimple.eq_def]
  simp only
  rw [run_bind_of_ok taken]
  rfl

/-- Behind the first word every bare text is one more word of a simple command. -/
theorem run_readSimple_spaced (stand : ∀ s ∈ texts, Stands s) {fuel : Nat}
    (steps : texts.length < fuel) (gathered : Gathered) (begun : gathered.words ≠ [])
    (forth : reader.isBack = false) (enough : 2 * (spaced texts).length + 2 ≤ reader.fuel)
    (input : reader.input = spaced texts) :
    ∃ word, (readSimple nested fuel gathered).run reader
      = .ok (.command
          { gathered with words := (texts.map bareWord).reverse ++ gathered.words },
        { reader with input := [], word, token := .endOfFile, isBack := true }) := by
  induction texts generalizing fuel gathered reader with
  | nil =>
    obtain ⟨fuel, rfl⟩ : ∃ less, fuel = less + 1 := Nat.exists_eq_add_of_le' steps
    have input : reader.input = [] := input
    have ended : (readToken nested false false).run reader = _ :=
      run_readToken (run_nextUnit_end forth (by omega) input) fun asked => by cases asked
    refine ⟨reader.word, ?_⟩
    rw [run_readSimple_end ended, input]
    rfl
  | cons s texts ih =>
    obtain ⟨fuel, rfl⟩ : ∃ less, fuel = less + 1 := Nat.exists_eq_add_of_le' (by omega)
    rw [length_spaced] at enough
    rw [List.length_cons] at steps
    obtain ⟨first, others⟩ := List.forall_mem_cons.mp stand
    have taken : (readToken nested false false).run reader = _ :=
      run_readToken (run_nextUnit_spaced first forth (by omega) input) fun asked => by cases asked
    rw [run_readSimple_word taken fun none => absurd none begun]
    obtain ⟨word, read⟩ :=
      @ih { reader with input := spaced texts, word := bareWord s, token := .word } others fuel
        (by omega) { gathered with words := bareWord s :: gathered.words } (by simp) forth
        (by omega : 2 * (spaced texts).length + 2 ≤ reader.fuel) rfl
    exact ⟨word, by simpa using read⟩

/-- The reader has put back a word. -/
structure PutBack (word : Word) (reader : Reader) : Prop where
  back : reader.isBack = true
  token : reader.token = .word
  word : reader.word = word

theorem PutBack.again {word : Word} (held : PutBack word reader) :
    PutBack word { reader with isBack := true } where
  back := rfl
  token := held.token
  word := held.word

theorem PutBack.run_readToken {word : Word} (held : PutBack word reader) :
    (readToken nested false false).run reader = .ok (.word, { reader with isBack := false }) := by
  rw [run_readToken_back held.back (Or.inl rfl), held.token]

/-- The reader has put back a bare word, and bare texts follow it up to the end. -/
structure AtWord (s : List Char) (texts : List (List Char)) (reader : Reader) : Prop
    extends PutBack (bareWord s) reader where
  input : reader.input = spaced texts
  announced : reader.announced = []

/-- The reader has put back the end of the input. -/
structure AtEnd (reader : Reader) : Prop where
  back : reader.isBack = true
  token : reader.token = .endOfFile
  announced : reader.announced = []

theorem AtEnd.run_readToken {asKeyword : Bool} (ends : AtEnd reader) :
    (readToken nested false asKeyword).run reader
      = .ok (.endOfFile, { reader with isBack := false }) := by
  have other : reader.token ≠ .word := by
    rw [ends.token]
    decide
  rw [run_readToken_back ends.back (Or.inr other), ends.token]

theorem AtEnd.putBack (ends : AtEnd reader) : AtEnd { reader with isBack := true } where
  back := rfl
  token := ends.token
  announced := ends.announced

theorem AtWord.putBack (word : AtWord s texts reader) :
    AtWord s texts { reader with isBack := true } where
  toPutBack := word.toPutBack.again
  input := word.input
  announced := word.announced

/-- The words of a simple command are read up to the end. -/
theorem AtWord.run_readSimple (word : AtWord s texts reader) (stand : ∀ t ∈ texts, Stands t)
    (unassigned : isAssignment (bareWord s) = false) {fuel : Nat} (steps : texts.length + 1 < fuel)
    (enough : 2 * (spaced texts).length + 2 ≤ reader.fuel) :
    ∃ ends, AtEnd ends ∧ (readSimple nested fuel {}).run reader
      = .ok (.command { words := ((s :: texts).map bareWord).reverse }, ends) := by
  obtain ⟨fuel, rfl⟩ : ∃ less, fuel = less + 1 := Nat.exists_eq_add_of_le' (by omega)
  obtain ⟨last, read⟩ := @run_readSimple_spaced nested { reader with isBack := false } texts stand
    fuel (by omega) { words := [reader.word] } (by simp) rfl enough word.input
  let ends : Reader :=
    { reader with input := [], isBack := true, word := last, token := .endOfFile }
  refine ⟨ends, ⟨rfl, rfl, word.announced⟩, ?_⟩
  rw [run_readSimple_word word.run_readToken fun _ => by rw [word.word]; exact unassigned, read,
    word.word]
  simp [ends]

end

section

variable {reader : Reader} {s : List Char} {texts : List (List Char)}

theorem AtWord.run_readCommand (word : AtWord s texts reader) (stand : ∀ t ∈ texts, Stands t)
    (unassigned : isAssignment (bareWord s) = false) {fuel : Nat} (steps : texts.length + 2 < fuel)
    (enough : 2 * (spaced texts).length + 2 ≤ reader.fuel) :
    ∃ ends, AtEnd ends ∧ (readCommand fuel false false).run reader
      = .ok (.simple reader.line [] ((s :: texts).map bareWord) [], ends) := by
  obtain ⟨fuel, rfl⟩ : ∃ less, fuel = less + 1 := Nat.exists_eq_add_of_le' (by omega)
  obtain ⟨ends, atEnd, read⟩ :=
    @AtWord.run_readSimple (Reading.nested fuel) _ s texts word.putBack stand unassigned fuel
      (by omega) enough
  refine ⟨ends, atEnd, ?_⟩
  rw [readCommand.eq_def]
  simp only
  rw [run_bind_of_ok rfl, run_bind_of_ok word.run_readToken]
  simp only
  rw [run_bind_of_ok rfl, run_bind_of_ok rfl]
  refine (run_bind_of_ok read).trans ?_
  simp only [List.reverse_reverse]
  rfl

/-- At the end of the input there are no further stages. -/
theorem AtEnd.run_readStages (ends : AtEnd reader) (fuel : Nat) (reversed : List Script) :
    (readStages (fuel + 1) reversed).run reader
      = .ok (reversed.reverse, { reader with isBack := true }) := by
  rw [readStages.eq_def]
  simp only
  rw [run_bind_of_ok ends.run_readToken, if_neg (by decide)]
  rfl

theorem AtEnd.run_readAndOr (ends : AtEnd reader) (fuel : Nat) (left : Script) :
    (readAndOr (fuel + 1) (some left)).run reader
      = .ok (left, { reader with isBack := true }) := by
  rw [readAndOr.eq_def]
  simp only
  rw [run_bind_of_ok ends.run_readToken]
  rfl

theorem AtWord.run_readPipeline (word : AtWord s texts reader) (stand : ∀ t ∈ texts, Stands t)
    (unassigned : isAssignment (bareWord s) = false) {fuel : Nat} (steps : texts.length + 3 < fuel)
    (enough : 2 * (spaced texts).length + 2 ≤ reader.fuel) :
    ∃ ends, AtEnd ends ∧ (readPipeline fuel false).run reader
      = .ok (.simple reader.line [] ((s :: texts).map bareWord) [], ends) := by
  obtain ⟨fuel, rfl⟩ : ∃ less, fuel = less + 2 := Nat.exists_eq_add_of_le' (by omega)
  obtain ⟨ends, atEnd, read⟩ :=
    @AtWord.run_readCommand _ s texts word.putBack stand unassigned (fuel + 1) (by omega) enough
  refine ⟨{ ends with isBack := true }, atEnd.putBack, ?_⟩
  rw [readPipeline.eq_def]
  simp only
  rw [run_bind_of_ok word.run_readToken]
  have plain : decide (Token.word = .keyword "!") = false := by decide
  simp only [plain, Bool.not_false, if_true]
  rw [run_bind_of_ok rfl]
  refine (run_bind_of_ok read).trans ?_
  rw [run_bind_of_ok (atEnd.run_readStages fuel _)]
  rfl

theorem AtWord.run_readAndOr (word : AtWord s texts reader) (stand : ∀ t ∈ texts, Stands t)
    (unassigned : isAssignment (bareWord s) = false) {fuel : Nat} (steps : texts.length + 4 < fuel)
    (enough : 2 * (spaced texts).length + 2 ≤ reader.fuel) :
    ∃ ends, AtEnd ends ∧ (readAndOr fuel none).run reader
      = .ok (.simple reader.line [] ((s :: texts).map bareWord) [], ends) := by
  obtain ⟨fuel, rfl⟩ : ∃ less, fuel = less + 2 := Nat.exists_eq_add_of_le' (by omega)
  obtain ⟨ends, atEnd, read⟩ :=
    @AtWord.run_readPipeline _ s texts word stand unassigned (fuel + 1) (by omega) enough
  refine ⟨{ ends with isBack := true }, atEnd.putBack, ?_⟩
  rw [readAndOr.eq_def]
  simp only
  rw [run_bind_of_ok read, atEnd.run_readAndOr]

end

theorem run_readDocuments_none {nested : Nested} {reader : Reader}
    (none : reader.announced = []) : (readDocuments nested).run reader = .ok ((), reader) := by
  obtain ⟨_⟩ := reader
  obtain rfl : _ = [] := none
  rfl

/-! ## The first unit of a line -/

/-- The first unit of a line, as the reader of commands takes it. -/
def readFirst (text : List Char) : Except Fault (Token × Reader) :=
  (readToken (Reading.nested (8 * text.length + 63)) false true).run { input := text }

section

variable {s : List Char} {texts : List (List Char)}

theorem readFirst_bare (stands : Stands s) (free : String.ofList s ∉ keywords) :
    readFirst (s ++ spaced texts)
      = .ok (.word, { input := spaced texts, fuel := 8 * (s ++ spaced texts).length + 64
                      word := bareWord s, token := .word }) := by
  have taken : (nextUnit (Reading.nested (8 * (s ++ spaced texts).length + 63)) .bare).run
      { input := s ++ spaced texts } = _ :=
    (run_nextUnit rfl rfl).trans (run_readUnit_stands stands (head?_spaced texts)
      (by simp only [List.length_append]; omega) rfl)
  refine run_readToken taken fun _ _ text plain => ?_
  obtain rfl := Option.some.inj plain
  exact free

theorem run_readList_bare (stands : Stands s) (stand : ∀ t ∈ texts, Stands t)
    (free : String.ofList s ∉ keywords) (unassigned : isAssignment (bareWord s) = false) :
    ∃ ends, AtEnd ends
      ∧ (readList (8 * (s ++ spaced texts).length + 64) .line .nothing).run
        { input := s ++ spaced texts }
          = .ok (.simple 1 [] ((s :: texts).map bareWord) [], ends) := by
  have first := @readFirst_bare s texts stands free
  rw [readFirst] at first
  have steps := length_le_spaced texts
  have longer : (s ++ spaced texts).length = s.length + (spaced texts).length :=
    List.length_append
  let between : Reader :=
    { input := spaced texts, fuel := 8 * (s ++ spaced texts).length + 64, word := bareWord s
      token := .word, isBack := true }
  have word : AtWord s texts between := ⟨⟨rfl, rfl, rfl⟩, rfl, rfl⟩
  obtain ⟨ends, atEnd, read⟩ := word.run_readAndOr stand unassigned
    (show texts.length + 4 < 8 * (s ++ spaced texts).length + 63 by omega)
    (show 2 * (spaced texts).length + 2 ≤ 8 * (s ++ spaced texts).length + 64 by omega)
  refine ⟨{ ends with isBack := true }, atEnd.putBack, ?_⟩
  have stays : decide (Extent.line ≠ .line) = false := by decide
  have wanted : (decide (Extent.line = .optional) && Token.word.endsList) = false := by decide
  rw [readList.eq_def]
  simp only [stays]
  rw [run_bind_of_ok first]
  simp only [wanted]
  rw [run_bind_of_ok rfl]
  simp only [Bool.false_eq_true, if_false]
  refine (run_bind_of_ok read).trans ?_
  rw [if_neg (by decide), run_bind_of_ok atEnd.run_readToken]
  have none : ({ ends with isBack := false } : Reader).announced = [] := atEnd.announced
  refine (run_bind_of_ok (run_readDocuments_none none)).trans ?_
  rw [atEnd.token]
  rfl

/-- A line of bare texts is read as a simple command with these words, unless the first one is a
keyword or an assignment. -/
theorem run_readCommandLine_bare (stands : Stands s) (stand : ∀ t ∈ texts, Stands t)
    (free : String.ofList s ∉ keywords) (unassigned : isAssignment (bareWord s) = false) :
    ∃ reader, readCommandLine.run { input := s ++ spaced texts }
      = .ok (.command (.simple 1 [] ((s :: texts).map bareWord) []) true, reader) := by
  obtain ⟨ends, atEnd, read⟩ := run_readList_bare stands stand free unassigned
  have last : (ends.isBack && decide (ends.token = .endOfFile)) = true := by
    rw [atEnd.back, atEnd.token]
    decide
  refine ⟨ends, ?_⟩
  unfold readCommandLine
  rw [run_bind_of_ok rfl, run_bind_of_ok rfl]
  refine (run_bind_of_ok read).trans ?_
  rw [run_bind_of_ok rfl]
  simp only [last]
  rfl

end

/-- What the first unit of a line is if it is a word. -/
structure FirstWord (text : List Char) (reader : Reader) : Prop where
  token : reader.token = .word
  inert : ∀ s, .text false s ∈ reader.word → isInert s = true
  unnamed : ∀ s ∈ plainText? reader.word, String.ofList s ∉ keywords
  uncommented : text.head? ≠ some '#'

theorem firstWord_of_readFirst {text : List Char} {reader : Reader}
    (read : readFirst text = .ok (.word, reader)) : FirstWord text reader := by
  unfold readFirst readToken at read
  simp only [Bool.false_eq_true, if_false] at read
  obtain ⟨token, between, taken, read⟩ := exists_of_run_bind read
  have unit : (readUnit (Reading.nested (8 * text.length + 63)) .bare (8 * text.length + 64)).run
      { input := text } = .ok (token, between) := taken
  split at read
  · next word =>
    obtain rfl : token = .word := by simpa using word
    obtain ⟨same, inert⟩ := inert_readUnit unit
    obtain ⟨_, _, got, read⟩ := exists_of_run_bind read
    cases got
    have uncommented : text.head? ≠ some '#' := by
      intro sharp
      obtain ⟨rest, input⟩ := List.head?_eq_some_iff.mp sharp
      exact uncommented_readUnit input unit
    split at read
    · next s plain =>
      split at read
      · cases read
      · next unnamed =>
        cases read
        refine ⟨same, inert, fun t found => ?_, uncommented⟩
        obtain rfl := Option.some.inj (plain.symm.trans found)
        simpa using unnamed
    · next plain =>
      cases read
      refine ⟨same, inert, fun t found => ?_, uncommented⟩
      rw [plain] at found
      cases found
  · next other =>
    cases read
    exact absurd (by decide) other

/-! ## What a line opens with -/

section

variable {nested : Nested} {reader between after : Reader}

/-- In front of the other words there may be assignments. -/
theorem run_readSimple_assignment {fuel : Nat} {gathered : Gathered}
    (taken : (readToken nested false false).run reader = .ok (.word, between))
    (begins : gathered.words = []) (assigned : isAssignment between.word = true) :
    (readSimple nested (fuel + 1) gathered).run reader
      = (readSimple nested fuel
          { gathered with assignments := between.word :: gathered.assignments }).run between := by
  rw [readSimple.eq_def]
  simp only
  rw [run_bind_of_ok taken]
  simp only
  rw [run_bind_of_ok rfl]
  simp only [begins, assigned, List.isEmpty_nil, Bool.and_self, if_true]

/-- What was gathered of a simple command stays in it. -/
theorem suffix_readSimple {fuel : Nat} {gathered whole : Gathered}
    (read : (readSimple nested fuel gathered).run reader = .ok (.command whole, after)) :
    gathered.assignments <:+ whole.assignments ∧ gathered.words <:+ whole.words := by
  induction fuel generalizing gathered reader with
  | zero =>
    rw [readSimple.eq_def] at read
    cases read
  | succ fuel ih =>
    rw [readSimple.eq_def] at read
    simp only at read
    obtain ⟨token, _, -, read⟩ := exists_of_run_bind read
    split at read
    · obtain ⟨_, _, -, read⟩ := exists_of_run_bind read
      split at read
      · obtain ⟨assignments, words⟩ := ih read
        exact ⟨(List.suffix_cons ..).trans assignments, words⟩
      · obtain ⟨assignments, words⟩ := ih read
        exact ⟨assignments, (List.suffix_cons ..).trans words⟩
    · obtain ⟨_, _, -, read⟩ := exists_of_run_bind read
      have kept := ih read
      exact kept
    · split at read
      · obtain ⟨_, _, -, read⟩ := exists_of_run_bind read
        split at read
        · split at read
          · cases read
          · cases read
        · cases read
      · cases read
        exact ⟨List.suffix_refl _, List.suffix_refl _⟩
    · cases read
      exact ⟨List.suffix_refl _, List.suffix_refl _⟩

/-- If this is a simple command without assignments, then the word is its first one. -/
structure Opens (word : Word) (script : Script) : Prop where
  something : script ≠ .nothing
  first : ∀ line words redirections, script = .simple line [] words redirections →
    isAssignment word = false ∧ words.head? = some word

theorem Opens.of_compound {word : Word} {script : Script} (something : script ≠ .nothing)
    (compound : ∀ line words redirections, script ≠ .simple line [] words redirections) :
    Opens word script where
  something := something
  first line words redirections same := absurd same (compound line words redirections)

theorem Opens.followedBy {word : Word} {first : Script} (opens : Opens word first)
    (second : Script) : Opens word (first.followedBy second) := by
  have sequence : first.followedBy second = .sequence first second := by
    unfold Script.followedBy
    split
    · exact absurd rfl opens.something
    · rfl
  rw [sequence]
  exact .of_compound (by simp) (by simp)

theorem nothing_followedBy (script : Script) : Script.nothing.followedBy script = script := rfl

theorem PutBack.opens_readSimple {word : Word} {fuel : Nat} {whole : Gathered}
    {redirections : List Redirection} {line : Nat} (held : PutBack word reader)
    (read : (readSimple nested fuel {}).run reader = .ok (.command whole, after)) :
    Opens word (.simple line whole.assignments.reverse whole.words.reverse redirections) where
  something := by simp
  first line words redirections same := by
    obtain ⟨-, none, rfl, -⟩ := Script.simple.inj same
    have none : whole.assignments = [] := List.reverse_eq_nil_iff.mp none
    cases fuel with
    | zero =>
      rw [readSimple.eq_def] at read
      cases read
    | succ fuel =>
      cases assigned : isAssignment reader.word with
      | true =>
        -- an assignment in front would still be there
        rw [run_readSimple_assignment held.run_readToken rfl assigned] at read
        have kept := (suffix_readSimple read).1
        rw [none] at kept
        exact absurd (List.suffix_nil.mp kept) (by simp)
      | false =>
        rw [run_readSimple_word held.run_readToken fun _ => assigned] at read
        obtain ⟨later, words⟩ := (suffix_readSimple read).2
        rw [← held.word, ← words]
        exact ⟨assigned, by simp⟩

end

section

variable {reader after : Reader} {word : Word}

theorem PutBack.opens_readCommand {fuel : Nat} {script : Script} (held : PutBack word reader)
    (read : (readCommand fuel false false).run reader = .ok (script, after)) :
    Opens word script := by
  cases fuel with
  | zero =>
    rw [readCommand.eq_def] at read
    cases read
  | succ fuel =>
    rw [readCommand.eq_def] at read
    simp only at read
    rw [run_bind_of_ok rfl, run_bind_of_ok held.run_readToken] at read
    simp only at read
    rw [run_bind_of_ok rfl, run_bind_of_ok rfl] at read
    obtain ⟨simple, _, words, read⟩ := exists_of_run_bind read
    cases simple with
    | function name =>
      obtain ⟨body, _, -, read⟩ := exists_of_run_bind read
      cases read
      exact .of_compound (by simp) (by simp)
    | command whole =>
      cases read
      exact held.again.opens_readSimple words

/-- The first stage stays the first one. -/
theorem suffix_readStages {fuel : Nat} {reversed stages : List Script} {reader : Reader}
    (read : (readStages fuel reversed).run reader = .ok (stages, after)) :
    reversed.reverse <+: stages := by
  induction fuel generalizing reversed reader with
  | zero =>
    rw [readStages.eq_def] at read
    cases read
  | succ fuel ih =>
    rw [readStages.eq_def] at read
    simp only at read
    obtain ⟨token, _, -, read⟩ := exists_of_run_bind read
    split at read
    · obtain ⟨stage, _, -, read⟩ := exists_of_run_bind read
      have longer := ih read
      rw [List.reverse_cons] at longer
      exact (List.prefix_append ..).trans longer
    · cases read
      exact List.prefix_refl _

theorem PutBack.opens_readPipeline {fuel : Nat} {script : Script} (held : PutBack word reader)
    (read : (readPipeline fuel false).run reader = .ok (script, after)) :
    Opens word script := by
  cases fuel with
  | zero =>
    rw [readPipeline.eq_def] at read
    cases read
  | succ fuel =>
    rw [readPipeline.eq_def] at read
    simp only at read
    rw [run_bind_of_ok held.run_readToken] at read
    have plain : decide (Token.word = .keyword "!") = false := by decide
    simp only [plain, Bool.not_false, if_true] at read
    rw [run_bind_of_ok rfl] at read
    obtain ⟨first, _, command, read⟩ := exists_of_run_bind read
    have opens := held.again.opens_readCommand command
    obtain ⟨stages, _, further, read⟩ := exists_of_run_bind read
    obtain ⟨others, rfl⟩ := suffix_readStages further
    cases read
    cases others with
    | nil => exact opens
    | cons => exact .of_compound (by simp) (by simp)

theorem opens_readAndOr {fuel : Nat} {left script : Script} {reader : Reader}
    (opens : Opens word left)
    (read : (readAndOr fuel (some left)).run reader = .ok (script, after)) :
    Opens word script := by
  induction fuel generalizing left reader with
  | zero =>
    rw [readAndOr.eq_def] at read
    cases read
  | succ fuel ih =>
    rw [readAndOr.eq_def] at read
    simp only at read
    obtain ⟨token, _, -, read⟩ := exists_of_run_bind read
    split at read
    · obtain ⟨right, _, -, read⟩ := exists_of_run_bind read
      exact ih (.of_compound (by simp) (by simp)) read
    · obtain ⟨right, _, -, read⟩ := exists_of_run_bind read
      exact ih (.of_compound (by simp) (by simp)) read
    · cases read
      exact opens

theorem PutBack.opens_readAndOr {fuel : Nat} {script : Script} (held : PutBack word reader)
    (read : (readAndOr fuel none).run reader = .ok (script, after)) :
    Opens word script := by
  cases fuel with
  | zero =>
    rw [readAndOr.eq_def] at read
    cases read
  | succ fuel =>
    rw [readAndOr.eq_def] at read
    simp only at read
    obtain ⟨first, _, pipeline, read⟩ := exists_of_run_bind read
    exact Shell.opens_readAndOr (held.opens_readPipeline pipeline) read

/-- Further commands of a list do not change what it opens with. -/
theorem opens_readList {fuel : Nat} {extent : Extent} {before script : Script} {reader : Reader}
    (opens : Opens word before)
    (read : (readList fuel extent before).run reader = .ok (script, after)) :
    Opens word script := by
  induction fuel generalizing extent before reader with
  | zero =>
    rw [readList.eq_def] at read
    cases read
  | succ fuel ih =>
    rw [readList.eq_def] at read
    simp only at read
    obtain ⟨token, _, -, read⟩ := exists_of_run_bind read
    split at read
    · obtain ⟨_, _, -, read⟩ := exists_of_run_bind read
      cases read
      exact opens
    · obtain ⟨_, _, -, read⟩ := exists_of_run_bind read
      obtain ⟨_, _, -, read⟩ := exists_of_run_bind read
      obtain ⟨_, _, -, read⟩ := exists_of_run_bind read
      cases read
      exact opens
    · obtain ⟨_, _, -, read⟩ := exists_of_run_bind read
      split at read
      · cases read
        exact opens
      · obtain ⟨command, _, -, read⟩ := exists_of_run_bind read
        obtain ⟨ending, _, -, read⟩ := exists_of_run_bind read
        split at read
        · exact ih (opens.followedBy _) read
        · exact ih (opens.followedBy _) read
        · obtain ⟨_, _, -, read⟩ := exists_of_run_bind read
          exact ih (opens.followedBy _) read
        · obtain ⟨_, _, -, read⟩ := exists_of_run_bind read
          obtain ⟨_, _, -, read⟩ := exists_of_run_bind read
          obtain ⟨_, _, -, read⟩ := exists_of_run_bind read
          cases read
          exact opens.followedBy command
        · by_cases ends : (if extent = .block then Extent.optional else extent) = .line
          · rw [if_pos ends] at read
            obtain ⟨_, _, -, read⟩ := exists_of_run_bind read
            obtain ⟨_, _, -, read⟩ := exists_of_run_bind read
            cases read
            exact opens.followedBy command
          · rw [if_neg ends] at read
            obtain ⟨_, _, -, read⟩ := exists_of_run_bind read
            cases read
            exact opens.followedBy command

theorem opens_inBackground (command : Script) : Opens word command.inBackground := by
  unfold Script.inBackground
  split <;> exact .of_compound (by simp) (by simp)

/-- A line whose first unit is a word opens with it. -/
theorem opens_readLine {fuel : Nat} {script : Script} {reader between : Reader}
    (taken : (readToken (Reading.nested fuel) false true).run reader = .ok (.word, between))
    (same : between.token = .word)
    (read : (readList (fuel + 1) .line .nothing).run reader = .ok (script, after)) :
    Opens between.word script := by
  have held : PutBack between.word { between with isBack := true } := ⟨rfl, same, rfl⟩
  have stays : decide (Extent.line ≠ .line) = false := by decide
  have wanted : (decide (Extent.line = .optional) && Token.word.endsList) = false := by decide
  rw [readList.eq_def] at read
  simp only [stays] at read
  rw [run_bind_of_ok taken] at read
  simp only [wanted] at read
  rw [run_bind_of_ok rfl] at read
  simp only [Bool.false_eq_true, if_false, nothing_followedBy] at read
  obtain ⟨command, _, first, read⟩ := exists_of_run_bind read
  have opens := held.opens_readAndOr first
  obtain ⟨ending, _, -, read⟩ := exists_of_run_bind read
  split at read
  · exact opens_readList (opens_inBackground command) read
  · exact opens_readList opens read
  · obtain ⟨_, _, -, read⟩ := exists_of_run_bind read
    exact opens_readList opens read
  · obtain ⟨_, _, -, read⟩ := exists_of_run_bind read
    obtain ⟨_, _, -, read⟩ := exists_of_run_bind read
    obtain ⟨_, _, -, read⟩ := exists_of_run_bind read
    cases read
    exact opens
  · obtain ⟨_, _, -, read⟩ := exists_of_run_bind read
    obtain ⟨_, _, -, read⟩ := exists_of_run_bind read
    cases read
    exact opens

end

/-- A text is read as the simple command with these words. It begins with a word, so no keyword
and no parenthesis opens another command around them, and nothing follows the command. -/
structure ReadsAs (text : List Char) (words : List Word) : Prop where
  first : ∃ reader, readFirst text = .ok (.word, reader)
  command : ∃ reader, readCommandLine.run { input := text }
    = .ok (.command (.simple 1 [] words []) true, reader)

theorem exists_of_readCommandLine {text : List Char} {script : Script} {isLast : Bool}
    {after : Reader} (something : script ≠ .nothing)
    (read : readCommandLine.run { input := text } = .ok (.command script isLast, after)) :
    ∃ between, (readList (8 * text.length + 64) .line .nothing).run { input := text }
      = .ok (script, between) := by
  unfold readCommandLine at read
  rw [run_bind_of_ok rfl, run_bind_of_ok rfl] at read
  obtain ⟨found, between, list, read⟩ := exists_of_run_bind read
  rw [run_bind_of_ok rfl] at read
  split at read
  · dsimp only at read
    split at read
    · cases read
    · cases read
      exact absurd rfl something
  · cases read
    exact ⟨_, list⟩

/-- A text that is taken as the first word of a command. -/
structure StandsFirst (s : List Char) : Prop extends Stands s where
  unnamed : String.ofList s ∉ keywords
  unassigned : isAssignment (bareWord s) = false

/-- Exactly the texts that stand for themselves, and are neither keywords nor assignments, can
stand at the beginning of a line of bare texts. -/
theorem readsAs_bare_iff {s : List Char} {texts : List (List Char)} (nonempty : s ≠ [])
    (stand : ∀ t ∈ texts, Stands t) :
    ReadsAs (s ++ spaced texts) ((s :: texts).map bareWord) ↔ StandsFirst s := by
  constructor
  · rintro ⟨⟨reader, first⟩, _, read⟩
    obtain ⟨between, list⟩ := exists_of_readCommandLine (by simp) read
    have found := firstWord_of_readFirst first
    have opens := opens_readLine first found.token list
    obtain ⟨unassigned, head⟩ := opens.first 1 _ _ rfl
    -- the first word of the command is the first unit of the line
    have same : bareWord s = reader.word := Option.some.inj head
    have stands : Stands s := by
      refine ⟨found.inert s ?_, nonempty, fun sharp => found.uncommented ?_⟩
      · rw [← same]
        exact List.mem_singleton_self _
      · rw [List.head?_append, sharp]
        rfl
    have unnamed := found.unnamed s (by rw [← same]; rfl)
    rw [← same] at unassigned
    exact ⟨stands, unnamed, unassigned⟩
  · rintro ⟨stands, unnamed, unassigned⟩
    exact ⟨⟨_, readFirst_bare stands unnamed⟩,
      run_readCommandLine_bare stands stand unnamed unassigned⟩

/-! ## Bare words expanded -/

/-- Whether a character is wild in a bare text. -/
def isWildcard (c : Char) : Bool := c = '*' || c = '?' || c = '['

/-- A text without meaning to what expands bare words: no tilde in front, and nothing wild. -/
structure Tame (s : List Char) : Prop where
  untilded : s.head? ≠ some '~'
  plain : s.any isWildcard = false

section

variable {state : State} {s : List Char}

/-- Behind the first character no tilde stands for a home directory. -/
theorem tildePieces_unready {equals : Bool} {fuel : Nat} (enough : s.length < fuel) :
    tildePieces state false true fuel false equals s = s.map fun c => .text false [c] := by
  induction s generalizing fuel equals with
  | nil =>
    obtain ⟨fuel, rfl⟩ : ∃ less, fuel = less + 1 := Nat.exists_eq_add_of_le' enough
    rfl
  | cons c s ih =>
    obtain ⟨fuel, rfl⟩ : ∃ less, fuel = less + 1 := Nat.exists_eq_add_of_le' (by omega)
    rw [List.length_cons] at enough
    unfold tildePieces
    split
    · cases ‹_ = []›
    · next tilde =>
      cases tilde
      simp only [ih (by omega : s.length < fuel)]
      rfl
    · next plain =>
      cases plain
      simp only [Bool.false_and, Bool.or_self, ih (by omega : s.length < fuel)]
      rfl

theorem unsplit_characters (s : List Char) :
    unsplit [] (s.map fun c => .text false [c]) = s.map fun c => (c, false) := by
  induction s with
  | nil => rfl
  | cons c s ih =>
    rw [List.map_cons, List.map_cons, ← ih]
    rfl

theorem splits_characters (s : List Char) :
    (s.map fun c => Piece.text false [c]).any Piece.splits = false := by
  rw [List.any_map, List.any_eq_false]
  simp [Piece.splits]

/-- The text of a word is a field as it stands. -/
theorem fieldsOf_plainPieces (untilded : s.head? ≠ some '~') (separators : List Char) :
    fieldsOf separators (plainPieces state .atStart true true s)
      = [s.map fun c => (c, false)] := by
  unfold plainPieces
  split
  · simp [fieldsOf, Piece.splits, unsplit]
  · have pieces : tildePieces state false true (s.length + 1) true false s
        = s.map fun c => .text false [c] := by
      cases s with
      | nil => rfl
      | cons c s =>
        have other : c ≠ '~' := fun same => untilded (congrArg some same)
        rw [tildePieces]
        · simp [tildePieces_unready]
        · exact other
    change fieldsOf separators (tildePieces state false true (s.length + 1) true false s) = _
    rw [pieces, fieldsOf, if_neg (by rw [splits_characters]; decide), unsplit_characters]

theorem unmarked_bare (s : List Char) : unmarked (s.map fun c => (c, false)) = s := by
  simp [unmarked, Function.comp_def]

theorem pathsOf_bare (plain : s.any isWildcard = false) (files : Machine.FileSystem) :
    pathsOf files (s.map fun c => (c, false)) = [s] := by
  have tame : isWild (s.map fun c => (c, false)) = false := by
    rw [isWild, List.any_map]
    exact plain
  rw [pathsOf, if_neg (by rw [tame]; decide), unmarked_bare]

end

theorem expandFields_bare (engine : Engine) {s : List Char} (tame : Tame s) (state : State) :
    expandFields engine (bareWord s) state = .done [s] state := by
  have expanded : expandFields engine (bareWord s) state
      = (if state.isOn 'f' then
          pure ((fieldsOf state.separators
            (plainPieces state .atStart true true s ++ [])).map unmarked)
        else pure ((fieldsOf state.separators
            (plainPieces state .atStart true true s ++ [])).flatMap
              (pathsOf state.kernel.files)) : Run (List (List Char))) state := rfl
  rw [expanded, List.append_nil, fieldsOf_plainPieces tame.untilded]
  split
  · rw [List.map_singleton, unmarked_bare]
    rfl
  · rw [List.flatMap_singleton, pathsOf_bare tame.plain]
    rfl

/-- Tame words are expanded to themselves in every state. -/
theorem expandWords_bare (engine : Engine) {texts : List (List Char)} (tame : ∀ s ∈ texts, Tame s)
    (state : State) : expandWords engine (texts.map bareWord) state = .done texts state := by
  induction texts with
  | nil => rfl
  | cons s texts ih =>
    obtain ⟨first, others⟩ := List.forall_mem_cons.mp tame
    have step : expandWords engine ((s :: texts).map bareWord) state
        = Machine.Strand.bind (expandFields engine (bareWord s)) (fun fields =>
            Machine.Strand.bind (expandWords engine (texts.map bareWord)) fun more =>
              pure (fields ++ more)) state := rfl
    rw [step, Machine.Strand.bind, expandFields_bare engine first]
    simp only
    rw [Machine.Strand.bind, ih others]
    rfl

end CheckedBuild.Shell
