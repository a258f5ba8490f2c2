import CheckedBuild.Proofs.Shell.CommandLines
import CheckedBuild.Proofs.Text.Literals
import CheckedBuild.Proofs.Text.Utf8
import CheckedBuild.Wrapper.Field

/-!
# The command of the monitor

Without packed sources the program that is checked calls the driver again, by a command that the
shell reads. The path of the driver is written for the literal that the command stands in, but not
for the shell: it is one word only if nothing in it has a meaning to the shell.
-/

namespace CheckedBuild.Wrapper

open Machine Shell Text

/-- The argument with which the driver watches a checker's error stream. -/
def watchFlag : String := "--watch-stdin-for-valgrind-errors"

/-- The command that calls the driver again. -/
def reinvocation (values : Values) : String := values.driverPath ++ " " ++ watchFlag

/-- The words that the command is meant to have, as the shell sees them. -/
def reinvocationWords (values : Values) : List (List Char) :=
  [rawOf values.driverPath, rawOf watchFlag]

/-- The literal that the monitor's command is written to denotes the command. -/
theorem denotes_monitor {values : Values} (unpacked : values.archive = none) :
    Denotes (values.value .monitor) (reinvocation values).toList := by
  have flag : literal (" " ++ watchFlag).toList = " --watch-stdin-for-valgrind-errors".toList := by
    decide
  have written : values.value .monitor = literal (reinvocation values).toList := by
    rw [reinvocation, String.append_assoc, String.toList_append, literal, List.flatMap_append,
      ← literal, ← literal, flag, Values.value, monitorCommand, unpacked]
  rw [written]
  exact denotes_literal _

theorem rawOf_append (first second : String) :
    rawOf (first ++ second) = rawOf first ++ rawOf second := by
  simp [rawOf, rawOfBytes, Utf8.bytesOf, Utf8.encode_append]

theorem rawOf_ne_nil {s : String} (nonempty : s ≠ "") : rawOf s ≠ [] := by
  intro nothing
  have none : Utf8.encode s.toList = [] := List.map_eq_nil_iff.mp nothing
  have same := Utf8.decode_encode s.toList
  rw [none] at same
  exact nonempty (String.toList_injective same.symm)

theorem rawOf_reinvocation (values : Values) :
    rawOf (reinvocation values) = rawOf values.driverPath ++ spaced [rawOf watchFlag] := by
  rw [reinvocation, rawOf_append, rawOf_append, List.append_assoc]
  rfl

theorem stands_watchFlag : Stands (rawOf watchFlag) where
  inert := by decide
  nonempty := by decide
  uncommented := by decide

theorem tame_watchFlag : Tame (rawOf watchFlag) where
  untilded := by decide
  plain := by decide

/-- The monitor's command denotes the path of the driver with the argument behind it. The shell
reads this as a command of the two words if and only if the path can stand as the first word of
one; and a path without a tilde in front and wild characters then stays as it is. -/
theorem monitor_reinvokes_iff {values : Values} (unpacked : values.archive = none)
    (named : values.driverPath ≠ "") :
    Denotes (values.value .monitor) (reinvocation values).toList
      ∧ (ReadsAs (rawOf (reinvocation values)) ((reinvocationWords values).map bareWord)
        ↔ StandsFirst (rawOf values.driverPath))
      ∧ (Tame (rawOf values.driverPath) → ∀ engine state,
        expandWords engine ((reinvocationWords values).map bareWord) state
          = .done (reinvocationWords values) state) := by
  refine ⟨denotes_monitor unpacked, ?_, fun tame engine state => ?_⟩
  · rw [rawOf_reinvocation]
    exact readsAs_bare_iff (rawOf_ne_nil named) (List.forall_mem_singleton.mpr stands_watchFlag)
  · exact expandWords_bare engine
      (List.forall_mem_cons.mpr ⟨tame, List.forall_mem_singleton.mpr tame_watchFlag⟩) state

/-- What a wrapper is filled with if the driver has the given path and nothing is packed. -/
def installedAt (path : String) : Values where
  config := Config.default ⟨0, false, "", "", "", ""⟩
  major := 14
  minor := 0
  driverPath := path
  archive := none

theorem monitor_reinvokes_of_usual_path :
    (ReadsAs (rawOf (reinvocation (installedAt "/usr/local/bin/dcc")))
        ((reinvocationWords (installedAt "/usr/local/bin/dcc")).map bareWord)
      ∧ ∀ engine state, expandWords engine
        ((reinvocationWords (installedAt "/usr/local/bin/dcc")).map bareWord) state
          = .done ["/usr/local/bin/dcc".toList, watchFlag.toList] state)
    ∧ ¬ReadsAs (rawOf (reinvocation (installedAt "/opt/my tools/dcc")))
        ((reinvocationWords (installedAt "/opt/my tools/dcc")).map bareWord) := by
  obtain ⟨-, reads, expands⟩ :=
    @monitor_reinvokes_iff (installedAt "/usr/local/bin/dcc") rfl (by decide)
  obtain ⟨-, blank, -⟩ := @monitor_reinvokes_iff (installedAt "/opt/my tools/dcc") rfl (by decide)
  refine ⟨⟨reads.mpr ?_, expands ?_⟩, fun read => ?_⟩
  · exact ⟨⟨by decide, by decide, by decide⟩, by decide, by decide⟩
  · exact ⟨by decide, by decide⟩
  · have inert : isInert (rawOf "/opt/my tools/dcc") = true := (blank.mp read).inert
    exact absurd inert (by decide)

end CheckedBuild.Wrapper
