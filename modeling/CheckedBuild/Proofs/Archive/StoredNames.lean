import CheckedBuild.Archive.Tar
import CheckedBuild.Proofs.Path.Names
import CheckedBuild.Proofs.Text.Utf8

/-!
# Names in archives

Every name that a file may be stored under can be written, if it has no zero byte. A name that fits
is placed whole. Of a longer one the header keeps as many whole characters as fit: its last
component may be cut off anywhere, so it may end in a slash, in `.` or in `..`.
-/

namespace CheckedBuild.Tar

open CheckedBuild.Path CheckedBuild.Text

/-- The bytes of parts joined by slashes. -/
def spelled (parts : List (List Char)) : Bytes := Utf8.encode (joinWith ['/'] parts)

@[simp] theorem spelled_nil : spelled [] = [] := rfl

@[simp] theorem spelled_singleton (part : List Char) : spelled [part] = Utf8.encode part := by
  simp [spelled]

@[simp] theorem encode_slash : Utf8.encode ['/'] = [0x2f] := by decide

theorem spelled_append {first second : List (List Char)} (one : first ≠ []) (other : second ≠ []) :
    spelled (first ++ second) = spelled first ++ [0x2f] ++ spelled second := by
  rw [spelled, joinWith_append one other, Utf8.encode_append, Utf8.encode_append, encode_slash]
  rfl

theorem length_spelled_le_append (first second : List (List Char)) :
    (spelled first).length ≤ (spelled (first ++ second)).length := by
  by_cases one : first = []
  · simp [one]
  · by_cases other : second = []
    · simp [other]
    · rw [spelled_append one other]
      simp only [List.length_append]
      omega

theorem mem_spelled_append {first second : List (List Char)} {byte : UInt8}
    (member : byte ∈ spelled first) : byte ∈ spelled (first ++ second) := by
  by_cases one : first = []
  · simp [one] at member
  · by_cases other : second = []
    · simpa [other] using member
    · rw [spelled_append one other]
      simp [member]

theorem spelled_eq_nil_iff {parts : List (List Char)} (nonempty : ∀ part ∈ parts, part ≠ []) :
    spelled parts = [] ↔ parts = [] := by
  refine ⟨fun nothing => ?_, fun none => by rw [none]; rfl⟩
  cases parts with
  | nil => rfl
  | cons part rest =>
    exfalso
    obtain ⟨c, more, rfl⟩ := List.exists_cons_of_ne_nil (nonempty part List.mem_cons_self)
    have shorter := length_spelled_le_append [c :: more] rest
    rw [List.singleton_append, nothing, spelled_singleton, Utf8.encode_cons] at shorter
    have := c.utf8Size_pos
    simp only [List.length_append, String.length_utf8EncodeChar, List.length_nil] at shorter
    omega

theorem place_of_fits {placed bytes : Bytes} (fits : placed.length + bytes.length ≤ nameSize)
    (noZero : 0 ∉ bytes) :
    (⟨placed, none⟩ : Placing).place bytes = ⟨placed ++ bytes, none⟩ := by
  rw [Placing.place]
  simp only [Option.isSome_none, Bool.false_eq_true, if_false, if_neg (Nat.not_lt.mpr fits),
    if_neg noZero]

theorem placeComponent_spelled {parts : List (List Char)} {text : List Char}
    (nonempty : ∀ part ∈ parts, part ≠ [])
    (fits : (spelled (parts ++ [text])).length ≤ nameSize)
    (noZero : 0 ∉ spelled (parts ++ [text])) :
    (⟨spelled parts, none⟩ : Placing).placeComponent text
      = ⟨spelled (parts ++ [text]), none⟩ := by
  unfold Placing.placeComponent
  by_cases first : parts = []
  · subst first
    simp only [List.nil_append, spelled_singleton] at fits noZero ⊢
    simp only [spelled_nil, if_true]
    exact place_of_fits (by simpa using fits) noZero
  · have started := mt (spelled_eq_nil_iff nonempty).mp first
    rw [spelled_append first (by simp), spelled_singleton] at fits noZero ⊢
    simp only [List.length_append, List.length_singleton] at fits
    simp only [List.mem_append, not_or] at noZero
    rw [if_neg started, place_of_fits (by simp; omega) (by decide),
      place_of_fits (by simp; omega) noZero.2]

/-- Names are placed one after the other as long as they fit. -/
theorem placeComponents_names {cutOff alone : Bool} {parts names : List (List Char)}
    {rest : List Component} (nonempty : ∀ part ∈ parts ++ names, part ≠ [])
    (fits : (spelled (parts ++ names)).length ≤ nameSize) (noZero : 0 ∉ spelled (parts ++ names)) :
    placeComponents cutOff alone ⟨spelled parts, none⟩ (names.map .named ++ rest)
      = placeComponents cutOff alone ⟨spelled (parts ++ names), none⟩ rest := by
  induction names generalizing parts with
  | nil => simp
  | cons name names ih =>
    have regroup : parts ++ name :: names = (parts ++ [name]) ++ names := by simp
    rw [regroup] at nonempty fits noZero ⊢
    have placed := placeComponent_spelled (fun part member => nonempty part (by simp [member]))
      (Nat.le_trans (length_spelled_le_append _ names) fits) (mt mem_spelled_append noZero)
    rw [List.map_cons, List.cons_append, placeComponents, placed]
    simp only [Option.isSome_none, Bool.false_eq_true, if_false]
    exact ih nonempty fits noZero

theorem placeComponents_all {cutOff alone : Bool} {names : List (List Char)} (some : names ≠ [])
    (nonempty : ∀ name ∈ names, name ≠ []) (fits : (spelled names).length ≤ nameSize)
    (noZero : 0 ∉ spelled names) :
    placeComponents cutOff alone ⟨[], none⟩ (names.map .named) = ⟨spelled names, none⟩ := by
  have placed : placeComponents cutOff alone ⟨spelled [], none⟩ (names.map .named ++ [])
      = placeComponents cutOff alone ⟨spelled ([] ++ names), none⟩ [] :=
    placeComponents_names nonempty fits noZero
  rw [List.append_nil, spelled_nil, List.nil_append] at placed
  rw [placed, placeComponents, if_neg (mt (spelled_eq_nil_iff nonempty).mp some)]

theorem placeComponents_parent {alone : Bool} {names : List (List Char)}
    (nonempty : ∀ name ∈ names, name ≠ [])
    (fits : (spelled (names ++ [['.', '.']])).length ≤ nameSize)
    (noZero : 0 ∉ spelled (names ++ [['.', '.']])) :
    placeComponents true alone ⟨[], none⟩ (names.map .named ++ [.parent])
      = ⟨spelled (names ++ [['.', '.']]), none⟩ := by
  have placed : placeComponents true alone ⟨spelled [], none⟩ (names.map .named ++ [.parent])
      = placeComponents true alone ⟨spelled ([] ++ names), none⟩ [.parent] :=
    placeComponents_names nonempty
    (Nat.le_trans (length_spelled_le_append names _) fits) (mt mem_spelled_append noZero)
  rw [spelled_nil, List.nil_append] at placed
  rw [placed, placeComponents]
  exact placeComponent_spelled nonempty fits noZero

/-- A name that fits is placed whole. -/
theorem placePath_of_fits {path : List Char} (stored : Stored path) (noZero : '\x00' ∉ path)
    (fits : (Utf8.encode path).length ≤ nameSize) (cutOff : Bool) :
    placePath cutOff path = ⟨Utf8.encode path, none⟩ := by
  cases stored with
  | current => cases cutOff <;> rfl
  | below parts some names =>
    have unslashed := getLast?_joinWith_ne_slash some names
    rw [placePath]
    simp only [components_joinWith some names, if_neg unslashed]
    exact placeComponents_all some (fun part member => (names part member).nonempty) fits
      (Utf8.zero_notMem_encode noZero)

/-- A path is the join of the pieces before its last slash and the piece after it. -/
theorem exists_pieces_eq_concat (path : List Char) :
    ∃ front last, pieces '/' path = front ++ [last]
      ∧ path = joinWith ['/'] (front ++ [last]) ∧ '/' ∉ last := by
  have some := pieces_ne_nil '/' path
  refine ⟨(pieces '/' path).dropLast, (pieces '/' path).getLast some, ?_, ?_, ?_⟩
  · exact (List.dropLast_concat_getLast some).symm
  · rw [List.dropLast_concat_getLast some, joinWith_pieces]
  · exact separator_notMem_of_mem_pieces (List.getLast_mem some)

/-- Wherever a name is cut off, what stands before a slash that is kept is a name. -/
theorem isName_of_cut {kept dropped part : List Char} (stored : Stored (kept ++ dropped))
    (long : 1 < kept.length) (member : part ∈ (pieces '/' kept).dropLast) : IsName part := by
  have piece := mem_pieces_append member dropped
  generalize cut : kept ++ dropped = path at stored piece
  cases stored with
  | current =>
    have := congrArg List.length cut
    simp only [List.length_append, List.length_singleton] at this
    omega
  | below parts some names =>
    rw [pieces_joinWith some fun part member => (names part member).whole] at piece
    exact names part piece

/-- What is kept of a name that is cut off can be placed. -/
theorem error_placePath_of_cut {kept dropped : List Char} (stored : Stored (kept ++ dropped))
    (noZero : '\x00' ∉ kept) (fits : (Utf8.encode kept).length ≤ nameSize)
    (long : 1 < kept.length) : (placePath true kept).error = none := by
  obtain ⟨front, last, split, joined, whole⟩ := exists_pieces_eq_concat kept
  have names : ∀ part ∈ front, IsName part := fun part member =>
    isName_of_cut stored long (by simpa [split] using member)
  have nonempty : ∀ part ∈ front, part ≠ [] := fun part member => (names part member).nonempty
  have further : kept ≠ ['.'] := by
    rintro rfl
    simp at long
  have spelling : Utf8.encode kept = spelled (front ++ [last]) := congrArg Utf8.encode joined
  have fits' := spelling ▸ fits
  have noZero' := spelling ▸ Utf8.zero_notMem_encode noZero
  have fitsFront := Nat.le_trans (length_spelled_le_append front [last]) fits'
  have noZeroFront : 0 ∉ spelled front := mt mem_spelled_append noZero'
  have some : last = [] ∨ last = ['.'] → front ≠ [] := by
    rintro cut rfl
    rw [List.nil_append, joinWith_singleton] at joined
    rcases cut with rfl | rfl <;> simp [joined] at long
  have seen := components_of_pieces split names further
  rw [placePath]
  simp only [seen]
  by_cases empty : last = []
  · -- The cut comes right after a slash, which is placed on its own.
    subst empty
    have slash : kept.getLast? = .some '/' := by
      rw [joined, joinWith_append (some (Or.inl rfl)) (by simp)]
      simp
    rw [spelled_append (some (Or.inl rfl)) (by simp)] at fits'
    simp only [Component.ofPiece?, true_or, if_true, Option.toList_none, List.append_nil]
    rw [placeComponents_all (some (Or.inl rfl)) nonempty fitsFront noZeroFront, if_pos slash,
      place_of_fits (by simpa using fits') (by decide)]
  · have unslashed : kept.getLast? ≠ .some '/' := by
      rw [joined, getLast?_joinWith empty]
      exact getLast?_ne_slash whole
    rw [if_neg unslashed]
    by_cases current : last = ['.']
    · subst current
      simp only [Component.ofPiece?, or_true, if_true, Option.toList_none, List.append_nil]
      rw [placeComponents_all (some (Or.inr rfl)) nonempty fitsFront noZeroFront]
    · by_cases parent : last = ['.', '.']
      · subst parent
        have piece : Component.ofPiece? ['.', '.'] = .some .parent := rfl
        rw [piece, Option.toList_some, placeComponents_parent nonempty fits' noZero']
      · have name : IsName last := ⟨empty, current, parent, whole⟩
        rw [ofPiece?_of_isName name, Option.toList_some, ← List.map_singleton, ← List.map_append,
          placeComponents_all (by simp) _ fits' noZero']
        intro part member
        rcases List.mem_append.mp member with before | only
        · exact nonempty part before
        · exact List.mem_singleton.mp only ▸ empty

theorem nameField_of_fits {path : String} (stored : Stored path.toList)
    (noZero : '\x00' ∉ path.toList) (fits : (Utf8.bytesOf path).length ≤ nameSize) :
    nameField path = .ok (overwrite emptyName (Utf8.bytesOf path), false) := by
  rw [nameField]
  simp only [placePath_of_fits stored noZero fits]
  rfl

/-- A name that is too long is cut off between characters. -/
theorem exists_wholeCharacters_take {path : String} (long : nameSize < (Utf8.bytesOf path).length) :
    ∃ kept dropped, path.toList = kept ++ dropped
      ∧ wholeCharacters ((Utf8.bytesOf path).take nameSize) = kept
      ∧ (Utf8.encode kept).length ≤ nameSize ∧ 1 < kept.length := by
  obtain ⟨kept, dropped, whole, decoded, fits, full⟩ :=
    Utf8.exists_run_take_encode path.toList nameSize []
  refine ⟨kept, dropped, whole, ?_, fits, ?_⟩
  · rw [wholeCharacters, Utf8.bytesOf]
    simp only [decoded, List.append_nil, List.reverse_reverse]
  · cases dropped with
    | nil =>
      rw [Utf8.bytesOf, whole, List.append_nil] at long
      omega
    | cons c rest =>
      have next := full c rfl
      have atMost := c.utf8Size_le_four
      have size := Utf8.length_encode_le kept
      simp only [nameSize, String.length_utf8EncodeChar] at next
      omega

/-- Every name that a file may be stored under can be written. -/
theorem exists_nameField {path : String} (stored : Stored path.toList)
    (noZero : '\x00' ∉ path.toList) : ∃ field, nameField path = .ok field := by
  by_cases fits : (Utf8.bytesOf path).length ≤ nameSize
  · exact ⟨_, nameField_of_fits stored noZero fits⟩
  · obtain ⟨kept, dropped, whole, cut, fitsCut, long⟩ :=
      exists_wholeCharacters_take (Nat.not_le.mp fits)
    rw [whole] at stored noZero
    have placed := error_placePath_of_cut stored
      (fun zero => noZero (List.mem_append_left _ zero)) fitsCut long
    rw [nameField]
    cases stopped : (placePath false path.toList).error with
    | none => exact ⟨_, rfl⟩
    | some error =>
      simp only [if_neg (show ¬ (Utf8.bytesOf path).length < nameSize by omega), cut, placed]
      exact ⟨_, rfl⟩

/-- Members whose names can be stored make up a stream. -/
theorem exists_stream {members : List Member} (stored : ∀ member ∈ members, Stored member.1.toList)
    (noZero : ∀ member ∈ members, '\x00' ∉ member.1.toList) :
    ∃ bytes, stream members = .ok bytes := by
  induction members with
  | nil => exact ⟨_, rfl⟩
  | cons first rest ih =>
    obtain ⟨path, data⟩ := first
    obtain ⟨storedPath, storedRest⟩ := List.forall_mem_cons.mp stored
    obtain ⟨noZeroPath, noZeroRest⟩ := List.forall_mem_cons.mp noZero
    obtain ⟨field, named⟩ := exists_nameField storedPath noZeroPath
    obtain ⟨bytes, streamed⟩ := ih storedRest noZeroRest
    rw [stream, member, named, streamed]
    exact ⟨_, rfl⟩

end CheckedBuild.Tar
