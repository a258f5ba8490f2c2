import Mathlib.Data.List.Nodup
import CheckedBuild.Proofs.Embedding.Turns
import CheckedBuild.Proofs.Path.Directories

/-!
# What a search asks about

Files are asked about one after the other, each path once, and what a file holds is asked for only
when it is small enough. Whatever the files hold, the paths are relative and normal, they do not
climb, and each lies in the directory of a source or below it.

This is said of every state that a search can come to, so of searches that never end too. Since no
question is put twice, it does not matter that the answers are those of one moment.
-/

namespace CheckedBuild

open CheckedBuild.Path

/-- The question that a note puts on record. -/
def Note.access? : Note → Option Access
  | .access question => some question
  | .log .. => none

/-- The questions that notes put on record, in order. -/
def accessesIn (notes : List Note) : List Access := notes.filterMap Note.access?

@[simp] theorem accessesIn_append (first second : List Note) :
    accessesIn (first ++ second) = accessesIn first ++ accessesIn second :=
  List.filterMap_append

@[simp] theorem accessesIn_access (question : Access) (rest : List Note) :
    accessesIn (.access question :: rest) = question :: accessesIn rest := rfl

@[simp] theorem accessesIn_log (level : Level) (message : String) (rest : List Note) :
    accessesIn (.log level message :: rest) = accessesIn rest := rfl

@[simp] theorem accessesIn_nil : accessesIn [] = [] := rfl

@[simp] theorem accessesIn_map_access (questions : List Access) :
    accessesIn (questions.map .access) = questions := by
  induction questions with
  | nil => rfl
  | cons question rest ih => rw [List.map_cons, accessesIn_access, ih]

namespace Discovery

@[simp] theorem accessesIn_rejections (candidates : List String) :
    accessesIn (rejections candidates) = [] := by
  rw [accessesIn, List.filterMap_eq_nil_iff]
  intro note member
  obtain ⟨candidate, -, noted⟩ := List.mem_filterMap.mp member
  split at noted
  · cases noted
  · cases noted
    rfl

/-- The path lies in the directory of some source that is accepted, or below it. -/
def Near (sources : List String) (path : String) : Prop :=
  ∃ source ∈ sources, ∃ entry directory, memberName source = .ok entry
    ∧ parent? entry.toList = some directory ∧ LiesIn directory path.toList

/-- A path by which no search leaves the directories of its sources. -/
structure Confined (sources : List String) (path : String) : Prop where
  relative : isAbsolute path.toList = false
  normal : normalize path.toList = path.toList
  level : .parent ∉ components path.toList
  near : Near sources path

theorem confined_of_near {sources : List String} {path : String} (stored : Stored path.toList)
    (near : Near sources path) : Confined sources path :=
  ⟨isAbsolute_of_stored stored, normalize_of_stored stored, parent_notMem_components stored, near⟩

theorem near_of_mem_accepted {sources : List String} {name : String}
    (member : name ∈ accepted sources) : Stored name.toList ∧ Near sources name := by
  obtain ⟨source, given, named⟩ := mem_accepted.mp member
  have stored := stored_of_memberName named
  obtain ⟨directory, parent⟩ := exists_parent? stored
  exact ⟨stored, source, given, name, directory, named, parent, directory, parent,
    List.prefix_refl _⟩

theorem near_of_mem_includes {sources : List String} {includer name : String} {contents : Bytes}
    (stored : Stored includer.toList) (near : Near sources includer)
    (member : name ∈ accepted (includesOf includer contents)) :
    Stored name.toList ∧ Near sources name := by
  obtain ⟨candidate, resolved, named⟩ := mem_accepted.mp member
  obtain ⟨spelling, -, rfl⟩ := List.mem_map.mp resolved
  obtain ⟨directory, parent, below⟩ := exists_liesIn_of_resolveInclude stored named
  obtain ⟨source, given, entry, top, entered, topmost, inside⟩ := near
  exact ⟨stored_of_memberName named, source, given, entry, top, entered, topmost,
    inside.trans parent below⟩

/-- What a search keeps to when it asks about files: it stays near its sources, and it has asked
about the names it visited, each once, and about nothing else. -/
structure Guarded (files : Files) (sources : List String) (state : State) : Prop where
  pending : ∀ name ∈ state.pending, Stored name.toList ∧ Near sources name
  visited : ∀ name ∈ state.visited, Confined sources name
  once : state.visited.Nodup
  log : accessesIn state.report.notes = state.visited.reverse.flatMap files.asked

theorem guarded_start (files : Files) (sources : List String) :
    Guarded files sources (start sources) :=
  ⟨fun _ member => near_of_mem_accepted member, by simp [start], List.nodup_nil, by simp [start]⟩

/-- A name that is visited is asked about. -/
theorem flatMap_asked_cons (files : Files) (name : String) (visited : List String) :
    (name :: visited).reverse.flatMap files.asked
      = visited.reverse.flatMap files.asked ++ files.asked name := by
  rw [List.reverse_cons, List.flatMap_append, List.flatMap_singleton]

theorem guarded_of_turn {files : Files} {sources : List String} {state next : State}
    (guarded : Guarded files sources state) (taken : Turn files state next) :
    Guarded files sources next := by
  obtain ⟨pending, visited, once, log⟩ := guarded
  cases taken with
  | drop seen => exact ⟨(List.forall_mem_cons.mp pending).2, visited, once, log⟩
  | @pass seenNames rest report name skip notes new reading =>
    obtain ⟨⟨stored, near⟩, others⟩ := List.forall_mem_cons.mp pending
    obtain ⟨-, rfl⟩ := readLimited_cases reading
    refine ⟨others, List.forall_mem_cons.mpr ⟨confined_of_near stored near, visited⟩,
      List.nodup_cons.mpr ⟨new, once⟩, ?_⟩
    rw [flatMap_asked_cons, ← log]
    simp [skipped]
  | @find seenNames rest report name contents notes new reading =>
    obtain ⟨⟨stored, near⟩, others⟩ := List.forall_mem_cons.mp pending
    obtain ⟨-, rfl⟩ := readLimited_cases reading
    refine ⟨List.forall_mem_append.mpr ⟨fun _ => near_of_mem_includes stored near, others⟩,
      List.forall_mem_cons.mpr ⟨confined_of_near stored near, visited⟩,
      List.nodup_cons.mpr ⟨new, once⟩, ?_⟩
    rw [flatMap_asked_cons, ← log]
    simp

theorem guarded_of_reaches {files : Files} {sources : List String} {state : State}
    (reaches : Reaches files (start sources) state) : Guarded files sources state := by
  induction reaches with
  | refl => exact guarded_start files sources
  | tail _ taken ih => exact guarded_of_turn ih taken

/-- The notes put on record what was asked about some confined paths, each asked about once, and
about nothing else. -/
def AsksNearby (files : Files) (sources : List String) (notes : List Note) : Prop :=
  ∃ paths : List String, paths.Nodup ∧ (∀ path ∈ paths, Confined sources path)
    ∧ accessesIn notes = paths.flatMap files.asked

theorem Guarded.asksNearby {files : Files} {sources : List String} {state : State}
    (guarded : Guarded files sources state) : AsksNearby files sources state.report.notes :=
  ⟨state.visited.reverse, List.nodup_reverse.mpr guarded.once,
    fun path member => guarded.visited path (List.mem_reverse.mp member), guarded.log⟩

/-- No search asks about anything but confined paths, each of them once, and it asks for the
contents of a file only when its size is known and small enough: so far in any state that it can
come to, and in the end where it ends. -/
theorem asksNearby_of_search (sources : List String) :
    (∀ (files : Files) (state : State), Reaches files (start sources) state →
        AsksNearby files sources state.report.notes)
    ∧ ∀ tree : SourceTree, AsksNearby tree.toFiles sources (collect tree sources).notes := by
  refine ⟨fun files state reaches => (guarded_of_reaches reaches).asksNearby, fun tree => ?_⟩
  obtain ⟨last, reaches, -, report⟩ := exists_reaches_search tree (start sources)
  rw [collect, ← report]
  exact (guarded_of_reaches reaches).asksNearby

/-- Two turns of a search that never ends: every file includes one in a directory further down, and
one further up that is passed over. -/
theorem asksNearby_of_endless :
    let spellings := "#include \"../up.h\"\n#include \"down/a.h\"\n"
    let files : Files := ⟨fun _ => .ok 40, fun _ => .ok (Utf8.bytesOf spellings)⟩
    ∃ state, Reaches files (start ["./lib/a.h"]) state
      ∧ state.pending = ["lib/down/down/a.h"]
      ∧ accessesIn state.report.notes
          = [.size "lib/a.h", .read "lib/a.h", .size "lib/down/a.h", .read "lib/down/a.h"]
      ∧ AsksNearby files ["./lib/a.h"] state.report.notes := by
  intro spellings files
  have begins : start ["./lib/a.h"] = ⟨[], ["lib/a.h"], {}⟩ := rfl
  have first : Turn files ⟨[], ["lib/a.h"], {}⟩ _ := .find (by decide) rfl
  have below : accepted (includesOf "lib/a.h" (Utf8.bytesOf spellings)) = ["lib/down/a.h"] := by
    decide +kernel
  have further : accepted (includesOf "lib/down/a.h" (Utf8.bytesOf spellings))
      = ["lib/down/down/a.h"] := by
    decide +kernel
  rw [below, ← begins] at first
  have reaches := Relation.ReflTransGen.tail (.single first) (.find (by decide) rfl)
  refine ⟨_, reaches, ?_, ?_, (asksNearby_of_search ["./lib/a.h"]).1 files _ reaches⟩
  · exact congrArg (· ++ []) further
  · simp

end Discovery

end CheckedBuild
