import CheckedBuild.Proofs.Path.Names

/-!
# Places that paths lead to

A path is walked from a start directory of which nothing is known: a name goes down, `..` goes back
up, first over the names gone down and then over directories without a name. The normal form of a
path is the text of the place it leads to, and the text of a place leads there. So the normal form
decides whether two paths lead to one place. Links, by which `..` may lead elsewhere, are not
considered, and neither is a slash in front of the whole path.
-/

namespace CheckedBuild.Path

open Text

/-- A place as seen from the start directory: how many levels up, and then down which names, the
last one first. -/
structure Place where
  up : Nat
  down : List (List Char)
deriving DecidableEq, Repr

namespace Place

/-- The start directory. -/
def start : Place := ⟨0, []⟩

/-- Where one component of a path leads. -/
def step (place : Place) (part : List Char) : Place :=
  if part = [] ∨ part = ['.'] then place
  else if part = ['.', '.'] then
    match place.down with
    | [] => { place with up := place.up + 1 }
    | _ :: above => { place with down := above }
  else { place with down := part :: place.down }

/-- Where the components of a path lead, one after the other. -/
def walk (place : Place) (parts : List (List Char)) : Place := parts.foldl step place

/-- The components that lead to a place without a detour. -/
def parts (place : Place) : List (List Char) :=
  List.replicate place.up ['.', '.'] ++ place.down.reverse

/-- A place that is spelled with proper names. -/
def Named (place : Place) : Prop := ∀ name ∈ place.down, IsName name

/-- The path to a place without a detour. -/
def text (place : Place) : List Char :=
  if place.parts = [] then ['.'] else joinWith ['/'] place.parts

end Place

/-- The place that a path leads to. -/
def placeOf (path : List Char) : Place := Place.start.walk (pieces '/' path)

/-- A path without detours: the start directory itself, or levels up before names, with nothing
between the slashes that could be left out. -/
def Normal (path : List Char) : Prop :=
  path = ['.'] ∨ ∃ ups names, (∀ name ∈ names, IsName name)
    ∧ pieces '/' path = List.replicate ups ['.', '.'] ++ names

namespace Place

theorem walk_append (place : Place) (first second : List (List Char)) :
    place.walk (first ++ second) = (place.walk first).walk second :=
  List.foldl_append

theorem step_parent_of_start {place : Place} (level : place.down = []) :
    place.step ['.', '.'] = ⟨place.up + 1, []⟩ := by
  obtain ⟨up, down⟩ := place
  obtain rfl : down = [] := level
  rfl

theorem step_name (place : Place) {name : List Char} (isName : IsName name) :
    place.step name = ⟨place.up, name :: place.down⟩ := by
  unfold step
  rw [if_neg (not_or.mpr ⟨isName.nonempty, isName.notCurrent⟩), if_neg isName.notParent]

theorem named_start : start.Named := fun _ member => by cases member

theorem parts_reverse (place : Place) :
    place.parts.reverse = place.down ++ List.replicate place.up ['.', '.'] := by
  simp [parts]

/-- The stack of components is the place, read from its end. -/
theorem pushPart_parts {place : Place} (named : place.Named) (part : List Char) :
    pushPart place.parts.reverse part = (place.step part).parts.reverse := by
  obtain ⟨up, down⟩ := place
  rw [parts_reverse, parts_reverse]
  unfold pushPart step
  by_cases ignored : part = [] ∨ part = ['.']
  · rw [if_pos ignored, if_pos ignored]
  · rw [if_neg ignored, if_neg ignored]
    by_cases parent : part = ['.', '.']
    · rw [if_pos parent, if_pos parent, parent]
      cases down with
      | nil =>
        cases up with
        | zero => rfl
        | succ up => simp [List.replicate_succ]
      | cons name above =>
        have proper := (named name List.mem_cons_self).notParent
        simp [proper]
    · rw [if_neg parent, if_neg parent, List.cons_append]

theorem named_step {place : Place} (named : place.Named) {part : List Char} (whole : '/' ∉ part) :
    (place.step part).Named := by
  obtain ⟨up, down⟩ := place
  unfold step
  by_cases ignored : part = [] ∨ part = ['.']
  · rw [if_pos ignored]
    exact named
  · rw [if_neg ignored]
    obtain ⟨nonempty, notCurrent⟩ := not_or.mp ignored
    by_cases parent : part = ['.', '.']
    · rw [if_pos parent]
      cases down with
      | nil => exact named
      | cons name above => exact (List.forall_mem_cons.mp named).2
    · rw [if_neg parent]
      exact List.forall_mem_cons.mpr ⟨⟨nonempty, notCurrent, parent, whole⟩, named⟩

/-- The fold over a stack walks, and the names on the way are proper. -/
theorem foldl_pushPart_parts {parts : List (List Char)} {place : Place} (named : place.Named)
    (whole : ∀ part ∈ parts, '/' ∉ part) :
    parts.foldl pushPart place.parts.reverse = (place.walk parts).parts.reverse
      ∧ (place.walk parts).Named := by
  induction parts generalizing place with
  | nil => exact ⟨rfl, named⟩
  | cons part rest ih =>
    obtain ⟨first, others⟩ := List.forall_mem_cons.mp whole
    rw [List.foldl_cons, pushPart_parts named]
    exact ih (named_step named first) others

theorem walk_replicate_parent {place : Place} (level : place.down = []) (ups : Nat) :
    place.walk (List.replicate ups ['.', '.']) = ⟨place.up + ups, []⟩ := by
  induction ups generalizing place with
  | zero =>
    obtain ⟨up, down⟩ := place
    obtain rfl : down = [] := level
    rfl
  | succ ups ih =>
    change (place.step ['.', '.']).walk (List.replicate ups ['.', '.']) = _
    rw [step_parent_of_start level, ih rfl, Nat.add_assoc, Nat.add_comm 1 ups]

theorem walk_names {names : List (List Char)} (proper : ∀ name ∈ names, IsName name)
    (place : Place) : place.walk names = ⟨place.up, names.reverse ++ place.down⟩ := by
  induction names generalizing place with
  | nil => rfl
  | cons name rest ih =>
    obtain ⟨first, others⟩ := List.forall_mem_cons.mp proper
    change (place.step name).walk rest = _
    rw [ih others, step_name place first, List.reverse_cons, List.append_assoc,
      List.singleton_append]

theorem walk_parts {place : Place} (named : place.Named) : start.walk place.parts = place := by
  have names : ∀ name ∈ place.down.reverse, IsName name :=
    fun name member => named name (List.mem_reverse.mp member)
  rw [parts, walk_append, walk_replicate_parent rfl, walk_names names]
  simp [start]

theorem whole_of_mem_parts {place : Place} (named : place.Named) {part : List Char}
    (member : part ∈ place.parts) : '/' ∉ part := by
  rcases List.mem_append.mp member with climbs | descends
  · rw [List.eq_of_mem_replicate climbs]
    decide
  · exact (named part (List.mem_reverse.mp descends)).whole

theorem parts_eq_nil_iff {place : Place} : place.parts = [] ↔ place = start := by
  obtain ⟨up, down⟩ := place
  simp [parts, start]

theorem pieces_text {place : Place} (named : place.Named) (further : place ≠ start) :
    pieces '/' place.text = place.parts := by
  have some : place.parts ≠ [] := mt parts_eq_nil_iff.mp further
  rw [text, if_neg some, pieces_joinWith some fun part => whole_of_mem_parts named]

/-- The path to a place without a detour leads there. -/
theorem placeOf_text {place : Place} (named : place.Named) : placeOf place.text = place := by
  by_cases further : place = start
  · subst further
    decide
  · rw [placeOf, pieces_text named further, walk_parts named]

theorem normal_text {place : Place} (named : place.Named) : Normal place.text := by
  by_cases further : place = start
  · subst further
    exact Or.inl (by decide)
  · exact Or.inr ⟨place.up, place.down.reverse,
      fun name member => named name (List.mem_reverse.mp member), pieces_text named further⟩

end Place

theorem placeOf_append (first second : List Char) :
    placeOf (first ++ '/' :: second) = (placeOf first).walk (pieces '/' second) := by
  rw [placeOf, pieces_append_cons, Place.walk_append, placeOf]

theorem named_placeOf (path : List Char) : (placeOf path).Named :=
  (Place.foldl_pushPart_parts Place.named_start fun _ piece =>
    separator_notMem_of_mem_pieces piece).2

theorem normalParts_eq_parts (path : List Char) : normalParts path = (placeOf path).parts := by
  have walked := (Place.foldl_pushPart_parts Place.named_start
    fun part (piece : part ∈ pieces '/' path) => separator_notMem_of_mem_pieces piece).1
  rw [normalParts, placeOf, ← List.reverse_reverse (Place.walk _ _).parts, ← walked]
  rfl

/-- Normalization spells out the place that a path leads to. -/
theorem normalize_eq_text (path : List Char) : normalize path = (placeOf path).text := by
  rw [normalize, normalParts_eq_parts, Place.text]

theorem placeOf_normalize (path : List Char) : placeOf (normalize path) = placeOf path := by
  rw [normalize_eq_text, Place.placeOf_text (named_placeOf path)]

theorem normalize_eq_normalize_iff {path other : List Char} :
    normalize path = normalize other ↔ placeOf path = placeOf other := by
  constructor
  · intro same
    rw [← placeOf_normalize path, same, placeOf_normalize]
  · intro same
    rw [normalize_eq_text, same, ← normalize_eq_text]

/-- Normal forms are canonical: two paths have the same one exactly if they lead to one place; it is
a path without detours, which normalization leaves as it is; and a path that goes on behind another
one may go on behind its normal form. -/
theorem normalize_canonical (path other : List Char) :
    (normalize path = normalize other ↔ placeOf path = placeOf other)
      ∧ normalize (normalize path) = normalize path
      ∧ Normal (normalize path)
      ∧ normalize (path ++ '/' :: other) = normalize (normalize path ++ '/' :: other) := by
  refine ⟨normalize_eq_normalize_iff, ?_, ?_, ?_⟩
  · exact normalize_eq_normalize_iff.mpr (placeOf_normalize path)
  · rw [normalize_eq_text]
    exact Place.normal_text (named_placeOf path)
  · refine normalize_eq_normalize_iff.mpr ?_
    rw [placeOf_append, placeOf_append, placeOf_normalize]

example : normalize "a/../../b//./c/".toList = "../b/c".toList := by decide

end CheckedBuild.Path
