import CheckedBuild.Embedding.SourceTree
import CheckedBuild.Path.MemberName
import CheckedBuild.Text.Character
import CheckedBuild.Text.Pieces
import CheckedBuild.Text.Utf8

/-!
# Discovery of sources

The sources of a build are the files given on the command line and, depth first, the local files
that they include. Every name is looked at once; what cannot be embedded is passed over with a
note. A search goes turn by turn: a turn takes the next name from a stack. Each reading uses up a
readable path and each other turn shortens the stack, so the search ends.

A line includes a local file if it consists of `#`, `include` and a quoted spelling, with blanks
allowed before each of them and anything after the closing quote.
-/

/-! ## Local includes -/

namespace CheckedBuild

open Text

/-- The text between two quotes at the start. -/
def quoted? : List Char → Option (List Char)
  | '"' :: rest => if '"' ∈ rest then some (rest.takeWhile (· ≠ '"')) else none
  | _ => none

/-- The spelling that a line includes. -/
def includeOfLine? (line : List Char) : Option (List Char) := do
  let afterHash ← after? ['#'] (trimStart line)
  let afterWord ← after? "include".toList (trimStart afterHash)
  quoted? (trimStart afterWord)

/-- The spellings that a source includes, in order. -/
def quotedIncludes (source : Bytes) : List String :=
  (lines (Utf8.decode source)).filterMap fun line => (includeOfLine? line).map String.ofList

/-- The path of a spelling as seen from the file that includes it. -/
def resolveInclude (includer spelling : String) : String :=
  match Path.parent? includer.toList with
  | none | some [] => spelling
  | some directory => String.ofList (Path.join directory spelling.toList)

end CheckedBuild

/-! ## The search -/

namespace CheckedBuild.Discovery

/-- Larger files are not embedded. -/
def sizeLimit : Nat := 1000000

/-- A file found: its name and its contents. -/
abbrev Found := String × Bytes

/-- The candidates that may be embedded, under their names. -/
def accepted (candidates : List String) : List String :=
  candidates.filterMap fun candidate => (memberName candidate).toOption

/-- The note about a source that is passed over. -/
def skipped (name : String) (skip : Skip) : Note :=
  .log .debug ("not embedding source of " ++ name ++ " because " ++ skip.message)

/-- The notes about candidates that may not be embedded. They are put on a stack from the last to
the first, and noted in that order. -/
def rejections (candidates : List String) : List Note :=
  candidates.reverse.filterMap fun candidate =>
    match memberName candidate with
    | .ok _ => none
    | .error skip => some (skipped candidate skip)

/-- The contents of a file that is small enough, and what was asked for. -/
def readLimited (files : Files) (path : String) : Except Skip Bytes × List Note :=
  match files.size path with
  | .error reason => (.error (.unreadable reason), [.access (.size path)])
  | .ok size =>
    if sizeLimit < size then (.error (.tooLarge size), [.access (.size path)])
    else
      match files.read path with
      | .error reason =>
        (.error (.unreadable reason), [.access (.size path), .access (.read path)])
      | .ok bytes => (.ok bytes, [.access (.size path), .access (.read path)])

/-- The paths that the files included by a file may have. -/
def includesOf (name : String) (contents : Bytes) : List String :=
  (quotedIncludes contents).map (resolveInclude name)

/-- What a search has found and noted, in order. -/
structure Report where
  found : List Found := []
  notes : List Note := []

/-- The report with later findings at its end. -/
def Report.followedBy (report : Report) (found : List Found) (notes : List Note) : Report :=
  ⟨report.found ++ found, report.notes ++ notes⟩

@[simp] theorem Report.found_followedBy (report : Report) (found : List Found) (notes : List Note) :
    (report.followedBy found notes).found = report.found ++ found := rfl

@[simp] theorem Report.notes_followedBy (report : Report) (found : List Found) (notes : List Note) :
    (report.followedBy found notes).notes = report.notes ++ notes := rfl

/-- Where a search stands: the names it has visited, those it has yet to visit, in order, and
what it has found so far. -/
structure State where
  visited : List String
  pending : List String
  report : Report

/-- One turn of a search. The next name is visited unless it was visited before; the files that a
file includes come before all names that are left. -/
def turn (files : Files) (state : State) : Option State :=
  match state.pending with
  | [] => none
  | name :: rest =>
    if state.visited.contains name then some { state with pending := rest }
    else
      match readLimited files name with
      | (.error skip, notes) =>
        some ⟨name :: state.visited, rest,
          state.report.followedBy [] (notes ++ [skipped name skip])⟩
      | (.ok contents, notes) =>
        let includes := includesOf name contents
        some ⟨name :: state.visited, accepted includes ++ rest,
          state.report.followedBy [(name, contents)]
            (notes ++ .log .trace ("adding " ++ name ++ " to tar file") :: rejections includes)⟩

/-- What a turn can be: a name that was visited is dropped, one that cannot be embedded is passed
over, and any other is found. -/
inductive Turn (files : Files) : State → State → Prop
  | drop {visited rest : List String} {report : Report} {name : String}
      (seen : name ∈ visited) :
      Turn files ⟨visited, name :: rest, report⟩ ⟨visited, rest, report⟩
  | pass {visited rest : List String} {report : Report} {name : String} {skip : Skip}
      {notes : List Note} (new : name ∉ visited)
      (reading : readLimited files name = (.error skip, notes)) :
      Turn files ⟨visited, name :: rest, report⟩
        ⟨name :: visited, rest, report.followedBy [] (notes ++ [skipped name skip])⟩
  | find {visited rest : List String} {report : Report} {name : String} {contents : Bytes}
      {notes : List Note} (new : name ∉ visited)
      (reading : readLimited files name = (.ok contents, notes)) :
      Turn files ⟨visited, name :: rest, report⟩
        ⟨name :: visited, accepted (includesOf name contents) ++ rest,
          report.followedBy [(name, contents)]
            (notes ++ .log .trace ("adding " ++ name ++ " to tar file")
              :: rejections (includesOf name contents))⟩

theorem turn_eq_none_iff {files : Files} {state : State} :
    turn files state = none ↔ state.pending = [] := by
  obtain ⟨visited, pending, report⟩ := state
  cases pending with
  | nil => simp [turn]
  | cons name rest =>
    simp only [turn, reduceCtorEq, iff_false]
    split
    · simp
    · split <;> simp

theorem turn_eq_some_iff {files : Files} {state next : State} :
    turn files state = some next ↔ Turn files state next := by
  constructor
  · intro taken
    obtain ⟨visited, pending, report⟩ := state
    cases pending with
    | nil => simp [turn] at taken
    | cons name rest =>
      simp only [turn, List.contains_iff_mem] at taken
      by_cases seen : name ∈ visited
      · rw [if_pos seen, Option.some.injEq] at taken
        subst taken
        exact .drop seen
      · rw [if_neg seen] at taken
        match reading : readLimited files name with
        | (.error skip, notes) =>
          rw [reading, Option.some.injEq] at taken
          subst taken
          exact .pass seen reading
        | (.ok contents, notes) =>
          rw [reading, Option.some.injEq] at taken
          subst taken
          exact .find seen reading
  · intro taken
    cases taken with
    | drop seen => simp [turn, seen]
    | pass new reading => simp [turn, new, reading]
    | find new reading => simp [turn, new, reading]

/-- How many readable paths have not been visited. -/
noncomputable def unvisited (tree : SourceTree) (visited : List String) : Nat :=
  (tree.readable.filter fun path => !visited.contains path).length

theorem unvisited_cons (tree : SourceTree) (visited : List String) (name : String) :
    unvisited tree (name :: visited)
      = ((tree.readable.filter fun path => !visited.contains path).filter (· != name)).length := by
  unfold unvisited
  rw [List.filter_filter]
  congr 1
  refine List.filter_congr fun path _ => ?_
  by_cases same : path = name <;> simp [same]

theorem unvisited_cons_le (tree : SourceTree) (visited : List String) (name : String) :
    unvisited tree (name :: visited) ≤ unvisited tree visited := by
  rw [unvisited_cons]
  exact List.length_filter_le _ _

theorem unvisited_cons_lt {tree : SourceTree} {visited : List String} {name : String}
    (readable : name ∈ tree.readable) (new : name ∉ visited) :
    unvisited tree (name :: visited) < unvisited tree visited := by
  rw [unvisited_cons, unvisited, List.length_filter_lt_length_iff_exists]
  refine ⟨name, List.mem_filter.mpr ⟨readable, by simpa using new⟩, by simp⟩

theorem mem_readable_of_readLimited {tree : SourceTree} {name : String} {contents : Bytes}
    {notes : List Note} (h : readLimited tree.toFiles name = (.ok contents, notes)) :
    name ∈ tree.readable := by
  unfold readLimited at h
  split at h
  · simp at h
  · split at h
    · simp at h
    · split at h
      · simp at h
      · next bytes read => exact tree.mem_readable read

/-- A turn leaves fewer readable paths to visit, or as many and fewer names. -/
theorem fewer_of_turn {tree : SourceTree} {state next : State} (taken : Turn tree.toFiles state next) :
    Prod.Lex (· < ·) (· < ·) (unvisited tree next.visited, next.pending.length)
      (unvisited tree state.visited, state.pending.length) := by
  cases taken with
  | drop seen => exact Prod.Lex.right _ (by simp)
  | @pass visited rest report name skip notes new reading =>
    rcases Nat.lt_or_eq_of_le (unvisited_cons_le tree visited name) with fewer | same
    · exact Prod.Lex.left _ _ fewer
    · rw [same]
      exact Prod.Lex.right _ (by simp)
  | find new reading =>
    exact Prod.Lex.left _ _ (unvisited_cons_lt (mem_readable_of_readLimited reading) new)

/-- Takes turns until no name is left. -/
def search (tree : SourceTree) (state : State) : Report :=
  match taken : turn tree.toFiles state with
  | none => state.report
  | some next =>
    have := fewer_of_turn (turn_eq_some_iff.mp taken)
    search tree next
termination_by (unvisited tree state.visited, state.pending.length)
decreasing_by exact this

/-- Where a search for the given sources begins. -/
def start (sources : List String) : State :=
  ⟨[], accepted sources, ⟨[], rejections sources⟩⟩

/-- The files that are embedded for the given sources. -/
def collect (tree : SourceTree) (sources : List String) : Report := search tree (start sources)

end CheckedBuild.Discovery
