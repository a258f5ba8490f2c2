import Mathlib.Logic.Relation
import CheckedBuild.Embedding.Discovery

/-!
# Runs of a search

A search comes from one state to another by turns, whatever the files are, so an invariant of the
turns holds wherever a search can come to. Where only finitely many paths can be read, every search
comes to a state in which no name is left, and only to one report.
-/

namespace CheckedBuild

/-- What is asked about a path: how large the file is, and, if it is not too large, what it holds. -/
def Files.asked (files : Files) (path : String) : List Access :=
  match files.size path with
  | .ok size =>
    if size ≤ Discovery.sizeLimit then [.size path, .read path] else [.size path]
  | .error _ => [.size path]

/-- The contents of a file, if its size and its contents can be had and it is not too large. -/
def Files.embeddable? (files : Files) (path : String) : Option Bytes :=
  match files.size path, files.read path with
  | .ok size, .ok contents => if size ≤ Discovery.sizeLimit then some contents else none
  | _, _ => none

theorem toOption_eq_some_iff {ε α : Type} {outcome : Except ε α} {value : α} :
    outcome.toOption = some value ↔ outcome = .ok value := by
  cases outcome <;> simp [Except.toOption]

namespace Discovery

theorem embeddable?_cases {files : Files} {path : String} {contents : Bytes}
    (h : files.embeddable? path = some contents) :
    ∃ size, files.size path = .ok size ∧ files.read path = .ok contents
      ∧ size ≤ sizeLimit := by
  unfold Files.embeddable? at h
  split at h
  · next size other sized read =>
    split at h
    · next small => exact ⟨size, sized, Option.some.inj h ▸ read, small⟩
    · cases h
  · cases h

theorem read_of_embeddable? {files : Files} {path : String} {contents : Bytes}
    (h : files.embeddable? path = some contents) : files.read path = .ok contents := by
  obtain ⟨-, -, read, -⟩ := embeddable?_cases h
  exact read

theorem readLimited_cases {files : Files} {path : String} {outcome : Except Skip Bytes}
    {notes : List Note} (h : readLimited files path = (outcome, notes)) :
    outcome.toOption = files.embeddable? path ∧ notes = (files.asked path).map .access := by
  unfold readLimited at h
  unfold Files.embeddable? Files.asked
  cases sized : files.size path with
  | error reason =>
    simp only [sized, Prod.mk.injEq] at h
    obtain ⟨rfl, rfl⟩ := h
    exact ⟨rfl, rfl⟩
  | ok size =>
    by_cases large : sizeLimit < size
    · simp only [sized, if_pos large, Prod.mk.injEq] at h
      obtain ⟨rfl, rfl⟩ := h
      have : ¬ size ≤ sizeLimit := Nat.not_le.mpr large
      cases files.read path <;> simp [this, Except.toOption]
    · have : size ≤ sizeLimit := Nat.not_lt.mp large
      cases had : files.read path with
      | error reason =>
        simp only [sized, had, if_neg large, Prod.mk.injEq] at h
        obtain ⟨rfl, rfl⟩ := h
        simp [this, Except.toOption]
      | ok contents =>
        simp only [sized, had, if_neg large, Prod.mk.injEq] at h
        obtain ⟨rfl, rfl⟩ := h
        simp [this, Except.toOption]

theorem mem_accepted {candidates : List String} {name : String} :
    name ∈ accepted candidates ↔ ∃ candidate ∈ candidates, memberName candidate = .ok name := by
  simp only [accepted, List.mem_filterMap, toOption_eq_some_iff]

/-- A search can come from one state to the other. -/
abbrev Reaches (files : Files) : State → State → Prop := Relation.ReflTransGen (Turn files)

theorem search_of_done {tree : SourceTree} {state : State} (done : state.pending = []) :
    search tree state = state.report := by
  rw [search]
  split
  · rfl
  · next taken => rw [turn_eq_none_iff.mpr done] at taken; cases taken

theorem search_of_turn {tree : SourceTree} {state next : State}
    (taken : Turn tree.toFiles state next) : search tree state = search tree next := by
  rw [search]
  split
  · next done => rw [turn_eq_some_iff.mpr taken] at done; cases done
  · next other =>
    rw [turn_eq_some_iff.mpr taken, Option.some.injEq] at other
    rw [other]

theorem search_of_reaches {tree : SourceTree} {state later : State}
    (reaches : Reaches tree.toFiles state later) : search tree state = search tree later := by
  induction reaches with
  | refl => rfl
  | tail _ taken ih => rw [ih, search_of_turn taken]

theorem exists_reaches_search (tree : SourceTree) (state : State) :
    ∃ last, Reaches tree.toFiles state last ∧ last.pending = []
      ∧ last.report = search tree state := by
  fun_induction search tree state with
  | case1 state done => exact ⟨state, .refl, turn_eq_none_iff.mp done, rfl⟩
  | case2 state next taken fewer ih =>
    obtain ⟨last, reaches, done, report⟩ := ih
    exact ⟨last, .head (turn_eq_some_iff.mp taken) reaches, done, report⟩

end Discovery

end CheckedBuild
