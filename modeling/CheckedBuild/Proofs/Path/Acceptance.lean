import CheckedBuild.Proofs.Path.Directories
import CheckedBuild.Proofs.Path.Places

/-!
# Which paths are accepted

A file may be stored under a path that is relative, in normal form and does not climb, with one `./`
in front or without. Each reason to leave a path out is met by exactly the paths that it speaks of:
absolute ones, those in normal form that climb, and all others that are not in normal form.
-/

namespace CheckedBuild

namespace Path

open Text

/-- One level up or more, and then names: a path in normal form that leaves the working
directory. -/
inductive Climbing : List Char → Prop
  | above (ups : Nat) (names : List (List Char)) (some : ups ≠ 0)
      (proper : ∀ name ∈ names, IsName name) :
      Climbing (joinWith ['/'] (List.replicate ups ['.', '.'] ++ names))

/-- The path is the text, with one `./` in front or without. -/
def Marked (path text : List Char) : Prop := path = text ∨ path = '.' :: '/' :: text

instance (path text : List Char) : Decidable (Marked path text) := by
  unfold Marked
  infer_instance

/-- What becomes of a path that a file is to be stored under. -/
inductive Verdict (path : List Char) : Except Skip String → Prop
  | stored (name : String) (stored : Stored name.toList) (marked : Marked path name.toList) :
      Verdict path (.ok name)
  | absolute (starts : path.head? = some '/') : Verdict path (.error .absolute)
  | climbing (text : List Char) (climbs : Climbing text) (marked : Marked path text) :
      Verdict path (.error .parentTraversal)
  | other (unstored : ¬ ∃ text, Stored text ∧ Marked path text)
      (relative : path.head? ≠ some '/') (level : ¬ ∃ text, Climbing text ∧ Marked path text) :
      Verdict path (.error (.notNormalized (String.ofList (normalize path))))

theorem isAbsolute_iff {path : List Char} : isAbsolute path = true ↔ path.head? = some '/' :=
  beq_iff_eq

/-! ## Places and their texts -/

theorem placeOf_marked {path text : List Char} (marked : Marked path text) :
    placeOf path = placeOf text := by
  rcases marked with rfl | rfl
  · rfl
  · exact placeOf_append ['.'] text

theorem text_of_parts {place : Place} (further : place ≠ .start) :
    place.text = joinWith ['/'] place.parts :=
  if_neg (mt Place.parts_eq_nil_iff.mp further)

theorem parent_mem_parts_iff {place : Place} (named : place.Named) :
    ['.', '.'] ∈ place.parts ↔ place.up ≠ 0 := by
  have proper : ['.', '.'] ∉ place.down := fun member => (named _ member).notParent rfl
  simp [Place.parts, proper, List.mem_replicate]

theorem stored_text {place : Place} (named : place.Named) (level : place.up = 0) :
    Stored place.text := by
  by_cases further : place = .start
  · subst further
    exact .current
  · have parts : place.parts = place.down.reverse := by simp [Place.parts, level]
    rw [text_of_parts further]
    refine .below _ (mt Place.parts_eq_nil_iff.mp further) fun name member => ?_
    exact named name (List.mem_reverse.mp (parts ▸ member))

theorem climbing_text {place : Place} (named : place.Named) (up : place.up ≠ 0) :
    Climbing place.text := by
  have further : place ≠ .start := fun start => up (start ▸ rfl)
  rw [text_of_parts further]
  exact .above place.up _ up fun name member => named name (List.mem_reverse.mp member)

theorem exists_place_of_stored {text : List Char} (stored : Stored text) :
    ∃ place : Place, place.Named ∧ place.up = 0 ∧ text = place.text := by
  cases stored with
  | current => exact ⟨.start, by simp [Place.Named, Place.start], rfl, by decide⟩
  | below parts some names =>
    refine ⟨⟨0, parts.reverse⟩, fun name member => names name (List.mem_reverse.mp member), rfl, ?_⟩
    simp [Place.text, Place.parts, some]

theorem exists_place_of_climbing {text : List Char} (climbs : Climbing text) :
    ∃ place : Place, place.Named ∧ place.up ≠ 0 ∧ text = place.text := by
  obtain ⟨ups, names, some, proper⟩ := climbs
  refine ⟨⟨ups, names.reverse⟩, fun name member => proper name (List.mem_reverse.mp member), some,
    ?_⟩
  rw [text_of_parts fun start => some (congrArg Place.up start), Place.parts, List.reverse_reverse]

theorem head?_of_climbing {text : List Char} (climbs : Climbing text) : text.head? = some '.' := by
  obtain ⟨ups, names, some, proper⟩ := climbs
  obtain ⟨more, rfl⟩ := Nat.exists_eq_succ_of_ne_zero some
  rw [List.replicate_succ, List.cons_append]
  by_cases last : List.replicate more ['.', '.'] ++ names = []
  · rw [last]
    rfl
  · rw [joinWith_cons last]
    rfl

end Path

open CheckedBuild.Path CheckedBuild.Text

/-! ## Verdicts -/

theorem memberName_of_relative {path : String} (relative : ¬ path.toList.head? = some '/') :
    memberName path =
      if ¬ Marked path.toList (normalize path.toList) then
        .error (.notNormalized (String.ofList (normalize path.toList)))
      else if (placeOf path.toList).up ≠ 0 then .error .parentTraversal
      else .ok (String.ofList (normalize path.toList)) := by
  have climbs := parent_mem_parts_iff (named_placeOf path.toList)
  rw [← normalParts_eq_parts] at climbs
  unfold memberName
  simp only [if_neg (mt isAbsolute_iff.mp relative), climbs, Marked, not_or]

/-- A path in normal form is judged by the place that it leads to. -/
theorem memberName_of_marked {path : String} {place : Place} (named : place.Named)
    (relative : place.text.head? ≠ some '/') (marked : Marked path.toList place.text) :
    memberName path =
      if place.up ≠ 0 then .error .parentTraversal else .ok (String.ofList place.text) := by
  have leads : placeOf path.toList = place := by
    rw [placeOf_marked marked, Place.placeOf_text named]
  have normal : normalize path.toList = place.text := by rw [normalize_eq_text, leads]
  have plain : ¬ path.toList.head? = some '/' := by
    rcases marked with same | dotted
    · rwa [same]
    · rw [dotted, List.head?_cons]
      decide
  rw [memberName_of_relative plain, normal, leads, if_neg (not_not_intro marked)]

theorem memberName_of_verdict {path : String} {outcome : Except Skip String}
    (verdict : Verdict path.toList outcome) : memberName path = outcome := by
  cases verdict with
  | stored name stored marked =>
    have relative : name.toList.head? ≠ some '/' := fun starts => by
      simpa [isAbsolute_of_stored stored] using isAbsolute_iff.mpr starts
    obtain ⟨place, named, level, same⟩ := exists_place_of_stored stored
    rw [same] at relative marked
    rw [memberName_of_marked named relative marked, if_neg (not_not_intro level), ← same,
      String.ofList_toList]
  | absolute starts => simp [memberName, isAbsolute_iff.mpr starts]
  | climbing text climbs marked =>
    obtain ⟨place, named, up, rfl⟩ := exists_place_of_climbing climbs
    rw [memberName_of_marked named (by rw [head?_of_climbing climbs]; decide) marked, if_pos up]
  | other unstored relative level =>
    have unmarked : ¬ Marked path.toList (normalize path.toList) := by
      intro marked
      rw [normalize_eq_text] at marked
      have named := named_placeOf path.toList
      by_cases up : (placeOf path.toList).up = 0
      · exact unstored ⟨_, stored_text named up, marked⟩
      · exact level ⟨_, climbing_text named up, marked⟩
    rw [memberName_of_relative relative, if_pos unmarked]

theorem exists_verdict (path : List Char) : ∃ outcome, Verdict path outcome := by
  by_cases stored : ∃ text, Stored text ∧ Marked path text
  · obtain ⟨text, stored, marked⟩ := stored
    exact ⟨_, .stored (String.ofList text) (by rwa [String.toList_ofList])
      (by rwa [String.toList_ofList])⟩
  by_cases starts : path.head? = some '/'
  · exact ⟨_, .absolute starts⟩
  by_cases climbs : ∃ text, Climbing text ∧ Marked path text
  · obtain ⟨text, climbs, marked⟩ := climbs
    exact ⟨_, .climbing text climbs marked⟩
  · exact ⟨_, .other stored starts climbs⟩

theorem memberName_eq_iff_verdict {path : String} {outcome : Except Skip String} :
    memberName path = outcome ↔ Verdict path.toList outcome := by
  refine ⟨?_, memberName_of_verdict⟩
  rintro rfl
  obtain ⟨outcome, verdict⟩ := exists_verdict path.toList
  rwa [memberName_of_verdict verdict]

/-- A path is accepted under a stored name exactly if it is that name, with `./` in front or
without. Of the others, those that start with a slash are absolute, those in normal form that climb
leave the working directory, and all that remain are told their normal form. A name that was
accepted is accepted again. -/
theorem memberName_iff (path : String) :
    (∀ name, memberName path = .ok name ↔ Stored name.toList ∧ Marked path.toList name.toList)
      ∧ (memberName path = .error .absolute ↔ path.toList.head? = some '/')
      ∧ (memberName path = .error .parentTraversal ↔
          ∃ text, Climbing text ∧ Marked path.toList text)
      ∧ (memberName path = .error (.notNormalized (String.ofList (normalize path.toList))) ↔
          (¬ ∃ text, Stored text ∧ Marked path.toList text) ∧ path.toList.head? ≠ some '/'
            ∧ ¬ ∃ text, Climbing text ∧ Marked path.toList text)
      ∧ (memberName path >>= memberName) = memberName path := by
  refine ⟨fun name => ?_, ?_, ?_, ?_, ?_⟩
  · rw [memberName_eq_iff_verdict]
    exact ⟨fun | .stored _ stored marked => ⟨stored, marked⟩,
      fun ⟨stored, marked⟩ => .stored name stored marked⟩
  · rw [memberName_eq_iff_verdict]
    exact ⟨fun | .absolute starts => starts, .absolute⟩
  · rw [memberName_eq_iff_verdict]
    exact ⟨fun | .climbing text climbs marked => ⟨text, climbs, marked⟩,
      fun ⟨text, climbs, marked⟩ => .climbing text climbs marked⟩
  · rw [memberName_eq_iff_verdict]
    exact ⟨fun | .other unstored relative level => ⟨unstored, relative, level⟩,
      fun ⟨unstored, relative, level⟩ => .other unstored relative level⟩
  · cases judged : memberName path with
    | error reason => rfl
    | ok name => exact memberName_of_stored (stored_of_memberName judged)

example : memberName "./../a" = .error .parentTraversal := rfl

end CheckedBuild
