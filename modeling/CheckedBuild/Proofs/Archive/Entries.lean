import CheckedBuild.Proofs.Archive.Headers
import CheckedBuild.Proofs.Archive.StoredNames

/-!
# Entries of a written stream

The stream of some members is read back as entries with their names and data, in their order, each
an ordinary file that its owner may write and everyone may read. A name that does not fit into its
header is read from the record in front of it. The lengths of names and of data are less than what
64 bits can tell.
-/

namespace CheckedBuild.Tar

open CheckedBuild.Path CheckedBuild.Text

/-! ## Name fields -/

theorem length_overwrite {field : Bytes} (whole : field.length = nameSize) (placed : Bytes) :
    (overwrite field placed).length = nameSize := by
  unfold overwrite
  split
  · exact whole
  · simp only [List.length_take, List.length_append, List.length_cons, List.length_drop]
    omega

/-- A name is read back from its field, also if it fills the field and leaves no room for a zero. -/
theorem untilZero_overwrite {placed : Bytes} (noZero : 0 ∉ placed)
    (fits : placed.length ≤ nameSize) : untilZero (overwrite emptyName placed) = placed := by
  unfold overwrite untilZero
  by_cases nothing : placed = []
  · simp [nothing, emptyName, nameSize]
  · have ends (n : Nat) (rest : Bytes) :
        ((0 :: rest : Bytes).take n).takeWhile (· ≠ 0) = [] := by
      cases n <;> simp
    rw [if_neg nothing, List.take_append, List.take_of_length_le fits,
      List.takeWhile_append_of_pos, ends, List.append_nil]
    intro byte member
    simpa using fun zero : byte = 0 => noZero (zero ▸ member)

/-- If bytes were placed, then nothing had gone wrong before and they fit. -/
theorem place_cases {placing : Placing} {bytes : Bytes}
    (placed : (placing.place bytes).error = none) :
    placing.error = none ∧ (placing.place bytes).placed = placing.placed ++ bytes
      ∧ (placing.placed ++ bytes).length ≤ nameSize := by
  obtain ⟨before, error⟩ := placing
  unfold Placing.place at placed ⊢
  cases error with
  | some reason => simp at placed
  | none =>
    simp only [Option.isSome_none, Bool.false_eq_true, if_false, List.length_append] at placed ⊢
    by_cases long : nameSize < before.length + bytes.length
    · simp [long] at placed
    · by_cases zero : 0 ∈ bytes
      · simp [long, zero] at placed
      · simp only [if_neg long, if_neg zero, true_and]
        omega

theorem placeComponent_cases {parts : List (List Char)} {text : List Char}
    (nonempty : ∀ part ∈ parts, part ≠ [])
    (placed : ((⟨spelled parts, none⟩ : Placing).placeComponent text).error = none) :
    (⟨spelled parts, none⟩ : Placing).placeComponent text = ⟨spelled (parts ++ [text]), none⟩
      ∧ (spelled (parts ++ [text])).length ≤ nameSize := by
  obtain ⟨-, whole, fits⟩ := place_cases placed
  have spelling : ((⟨spelled parts, none⟩ : Placing).placeComponent text).placed
      = spelled (parts ++ [text]) := by
    refine whole.trans ?_
    by_cases first : parts = []
    · simp [first]
    · have started := mt (spelled_eq_nil_iff nonempty).mp first
      have before := (place_cases placed).1
      rw [if_neg started] at before ⊢
      rw [(place_cases before).2.1, spelled_append first (by simp), spelled_singleton]
  exact ⟨congrArg₂ Placing.mk spelling placed, spelling ▸ whole ▸ fits⟩

/-- Names that can be placed in a row fit. -/
theorem fits_of_placeComponents {cutOff alone : Bool} {parts names : List (List Char)}
    (nonempty : ∀ part ∈ parts ++ names, part ≠ []) (fits : (spelled parts).length ≤ nameSize)
    (placed : (placeComponents cutOff alone ⟨spelled parts, none⟩
      (names.map .named)).error = none) :
    (spelled (parts ++ names)).length ≤ nameSize := by
  induction names generalizing parts with
  | nil => simpa using fits
  | cons name names ih =>
    have regroup : parts ++ name :: names = (parts ++ [name]) ++ names := by simp
    rw [List.map_cons, placeComponents] at placed
    cases stopped : ((⟨spelled parts, none⟩ : Placing).placeComponent name).error with
    | some error => simp [stopped] at placed
    | none =>
      obtain ⟨whole, fits⟩ :=
        placeComponent_cases (fun part member => nonempty part (by simp [member])) stopped
      simp only [whole, Option.isSome_none, Bool.false_eq_true, if_false] at placed
      rw [regroup] at nonempty ⊢
      exact ih nonempty fits placed

theorem fits_of_placePath {path : List Char} (stored : Stored path) {cutOff : Bool}
    (placed : (placePath cutOff path).error = none) : (Utf8.encode path).length ≤ nameSize := by
  cases stored with
  | current => decide
  | below parts some names =>
    have unslashed := getLast?_joinWith_ne_slash some names
    rw [placePath] at placed
    simp only [components_joinWith some names, if_neg unslashed] at placed
    have fits : (spelled ([] ++ parts)).length ≤ nameSize :=
      fits_of_placeComponents (fun part member => (names part member).nonempty)
        (Nat.zero_le _) placed
    exact fits

/-- A name field is as long as every other, and it holds the name unless that has to be stored
elsewhere. -/
theorem nameField_cases {path : String} (stored : Stored path.toList)
    (noZero : '\x00' ∉ path.toList) {field : Bytes} {isLong : Bool}
    (h : nameField path = .ok (field, isLong)) :
    field.length = nameSize ∧ (isLong = false → untilZero field = Utf8.bytesOf path) := by
  by_cases fits : (Utf8.bytesOf path).length ≤ nameSize
  · rw [nameField_of_fits stored noZero fits] at h
    obtain ⟨rfl, rfl⟩ := Prod.mk.inj (Except.ok.inj h)
    exact ⟨length_overwrite List.length_replicate _,
      fun _ => untilZero_overwrite (Utf8.zero_notMem_encode noZero) fits⟩
  · have stopped : (placePath false path.toList).error ≠ none := mt (fits_of_placePath stored) fits
    obtain ⟨error, stopped⟩ := Option.ne_none_iff_exists'.mp stopped
    rw [nameField] at h
    simp only [stopped, if_neg (show ¬ (Utf8.bytesOf path).length < nameSize by omega)] at h
    cases cut : (placePath true (wholeCharacters ((Utf8.bytesOf path).take nameSize))).error with
    | some error => simp [cut] at h
    | none =>
      simp only [cut] at h
      obtain ⟨rfl, rfl⟩ := Prod.mk.inj (Except.ok.inj h)
      exact ⟨length_overwrite (length_overwrite List.length_replicate _) _, by simp⟩

/-! ## Blocks -/

theorem length_padded (data : Bytes) :
    (padded data).length = (data.length + blockSize - 1) / blockSize * blockSize := by
  simp only [padded, List.length_append, List.length_replicate, blockSize]
  omega

/-- What follows a header is split again into the data and the rest. -/
theorem take_padded (data rest : Bytes) : (padded data ++ rest).take data.length = data := by
  rw [padded, List.append_assoc, List.take_left]

theorem length_le_padded (data rest : Bytes) : data.length ≤ (padded data ++ rest).length := by
  simp only [padded, List.length_append]
  omega

/-- A record with a long name is kept in mind for what follows. -/
theorem readEntries_longName {block field text : Bytes} (noZero : 0 ∉ text)
    (tells : Tells block field .longName (text ++ [0]).length) (steps : Nat) (isFirst : Bool)
    (rest : Bytes) :
    readEntries (steps + 1) {} isFirst (block ++ (padded (text ++ [0]) ++ rest))
      = readEntries steps { name? := some text } false rest := by
  have data : (text ++ [0]).takeWhile (· ≠ 0) = text := by
    rw [List.takeWhile_append_of_pos fun byte member => by
      simpa using fun zero : byte = 0 => noZero (zero ▸ member)]
    simp
  rw [readEntries]
  simp only [List.take_left' tells.whole, List.drop_left' tells.whole, tells.whole,
    tells.not_all_zero, tells.checked, tells.letter, tells.sized, Kind.letter, take_padded, data,
    List.drop_left' (length_padded (text ++ [0])), Nat.lt_irrefl, if_false, Bool.not_true,
    Bool.false_eq_true, if_true]

/-- A member is read as an entry; its name may have been told before. -/
theorem readEntries_regular {block field data : Bytes}
    (tells : Tells block field .regular data.length) (ahead : Ahead) {name : Bytes}
    (named : ahead.name?.getD (untilZero field) = name) (unslashed : name.getLast? ≠ some 0x2f)
    (steps : Nat) (isFirst : Bool) (rest : Bytes) :
    readEntries (steps + 1) ahead isFirst (block ++ (padded data ++ rest))
      = (⟨name, .file, 0o644, 0, data⟩ :: (readEntries steps {} false rest).1,
        (readEntries steps {} false rest).2) := by
  have within := Nat.not_lt.mpr (length_le_padded data rest)
  rw [readEntries]
  simp only [List.take_left' tells.whole, List.drop_left' tells.whole, tells.whole,
    tells.not_all_zero, tells.checked, tells.letter, tells.sized, tells.named, tells.mode,
    tells.time, tells.old, Kind.letter, take_padded, List.drop_left' (length_padded data),
    Nat.lt_irrefl, if_false, Bool.not_true, Bool.false_eq_true, if_true, decide_true, Bool.true_or,
    named, unslashed, within]
  rfl

/-! ## Streams -/

/-- The entry that a member is read as: an ordinary file that its owner may write and everyone may
read, without a time. -/
def Member.entry (member : Member) : Entry := ⟨Utf8.bytesOf member.1, .file, 0o644, 0, member.2⟩

/-- A member that can be stored: its name is one that files may be stored under and has no zero byte
in it, and 64 bits can tell the lengths of its name, a zero behind it, and of its data. -/
structure Storable (member : Member) : Prop where
  stored : Stored member.1.toList
  noZero : '\x00' ∉ member.1.toList
  nameSize : (Utf8.bytesOf member.1).length + 1 < 2 ^ 64
  dataSize : member.2.length < 2 ^ 64

theorem getLast?_ne_slash_of_stored {path : List Char} (stored : Stored path) :
    path.getLast? ≠ some '/' := by
  cases stored with
  | current => decide
  | below parts some names => exact getLast?_joinWith_ne_slash some names

theorem Storable.unslashed {member : Member} (storable : Storable member) :
    (Utf8.bytesOf member.1).getLast? ≠ some 0x2f :=
  Utf8.getLast?_encode_ne (by decide) (getLast?_ne_slash_of_stored storable.stored)

/-- What is written for a member takes up one or more blocks and is read as its entry, whatever
follows. -/
theorem readEntries_member {path : String} {data bytes : Bytes} (storable : Storable (path, data))
    (written : member path data = .ok bytes) :
    ∃ spent, spent * blockSize ≤ bytes.length ∧ ∀ steps isFirst rest,
      readEntries (steps + spent) {} isFirst (bytes ++ rest)
        = (Member.entry (path, data) :: (readEntries steps {} false rest).1,
          (readEntries steps {} false rest).2) := by
  have noZero : 0 ∉ Utf8.bytesOf path := Utf8.zero_notMem_encode storable.noZero
  rw [member] at written
  cases placed : nameField path with
  | error reason => simp [placed] at written
  | ok named =>
    obtain ⟨field, isLong⟩ := named
    obtain ⟨whole, short⟩ := nameField_cases storable.stored storable.noZero placed
    have tells := tells_header whole .regular storable.dataSize
    simp only [placed, Except.ok.injEq] at written
    subst written
    cases isLong with
    | false =>
      refine ⟨1, ?_, fun steps isFirst rest => ?_⟩
      · simp [tells.whole]
      · simp only [Bool.false_eq_true, if_false, List.nil_append, List.append_assoc]
        exact readEntries_regular tells {} (short rfl) storable.unslashed steps isFirst rest
    | true =>
      have long : Tells (header longNameField .longName (Utf8.bytesOf path ++ [0]).length)
          longNameField .longName (Utf8.bytesOf path ++ [0]).length :=
        tells_header (length_overwrite List.length_replicate _) .longName
          (by simpa using storable.nameSize)
      refine ⟨2, ?_, fun steps isFirst rest => ?_⟩
      · rw [if_pos rfl, List.length_append, List.length_append, List.length_append, long.whole,
          tells.whole]
        omega
      · simp only [if_true, List.append_assoc]
        rw [readEntries_longName noZero long (steps + 1)]
        exact readEntries_regular tells { name? := some (Utf8.bytesOf path) } rfl
          storable.unslashed steps false rest

/-- The stream of a member and others is what is written for it and the stream of the others. -/
theorem stream_cons_cases {first : Member} {rest : List Member} {bytes : Bytes}
    (streamed : stream (first :: rest) = .ok bytes) :
    ∃ front back, member first.1 first.2 = .ok front ∧ stream rest = .ok back
      ∧ bytes = front ++ back := by
  rw [stream] at streamed
  cases written : member first.1 first.2 with
  | error reason => simp [written] at streamed
  | ok front =>
    cases later : stream rest with
    | error reason => simp [written, later, Except.map] at streamed
    | ok back =>
      simp only [written, later, Except.map, Except.ok.injEq] at streamed
      exact ⟨front, back, rfl, rfl, streamed.symm⟩

/-- A stream ends in two blocks of zeros. -/
theorem exists_records_of_stream {members : List Member} {bytes : Bytes}
    (streamed : stream members = .ok bytes) :
    ∃ records, bytes = records ++ List.replicate (2 * blockSize) 0 := by
  induction members generalizing bytes with
  | nil => exact ⟨[], (Except.ok.inj streamed).symm⟩
  | cons first rest ih =>
    obtain ⟨front, back, -, later, rfl⟩ := stream_cons_cases streamed
    obtain ⟨records, rfl⟩ := ih later
    exact ⟨front ++ records, (List.append_assoc _ _ _).symm⟩

/-- The stream of some members is read back as their entries, with a step for each of its blocks. -/
theorem readEntries_stream {members : List Member} (storable : ∀ member ∈ members, Storable member)
    {bytes : Bytes} (streamed : stream members = .ok bytes) {steps : Nat}
    (enough : bytes.length ≤ steps * blockSize) (isFirst : Bool) :
    readEntries steps {} isFirst bytes = (members.map Member.entry, none) := by
  induction members generalizing bytes steps isFirst with
  | nil =>
    obtain rfl := Except.ok.inj streamed
    obtain ⟨steps, rfl⟩ : ∃ n, steps = n + 1 := by
      refine ⟨steps - 1, ?_⟩
      simp only [List.length_replicate, blockSize] at enough
      omega
    rw [readEntries]
    simp [-List.reduceReplicate, blockSize]
  | cons first rest ih =>
    obtain ⟨one, others⟩ := List.forall_mem_cons.mp storable
    obtain ⟨front, back, written, later, rfl⟩ := stream_cons_cases streamed
    obtain ⟨spent, cost, read⟩ := readEntries_member one written
    rw [List.length_append] at enough
    obtain ⟨steps, rfl⟩ : ∃ n, steps = n + spent := by
      refine ⟨steps - spent, ?_⟩
      have := Nat.le_of_mul_le_mul_right (by omega : spent * blockSize ≤ steps * blockSize)
        (by decide)
      omega
    rw [Nat.add_mul] at enough
    rw [read, ih others later (by omega)]
    rfl

end CheckedBuild.Tar
