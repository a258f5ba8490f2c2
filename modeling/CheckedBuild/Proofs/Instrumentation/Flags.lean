import Mathlib.Data.List.Basic
import Mathlib.Data.Prod.Lex
import Mathlib.Order.WithBot
import Mathlib.Tactic.SplitIfs
import CheckedBuild.Instrumentation.Plan

/-!
# The flags of a plan

The host may ask for another checker; nothing else of a build is replaced, and only a missing
checker ends one. A plan asks for at most one checker, and the flags for undefined behaviour and for
the shared runtime stand where they belong. A later compiler never has fewer of a plan's flags, and
a later C library never has more; the order of those that stay is kept. Nothing is said about a
user's own flags, which may ask for anything.
-/

namespace CheckedBuild

/-- The numbers of a compiler's version, compared from the left. -/
def CompilerVersion.numbers (version : CompilerVersion) : ℕ ×ₗ ℕ :=
  toLex (version.major, version.minor)

/-- The numbers of a C library's version, compared from the left. -/
def LibraryVersion.numbers (version : LibraryVersion) : ℕ ×ₗ ℕ :=
  toLex (version.major, version.minor)

/-- How late a C library is. One that is not known counts as the earliest. -/
def LibraryVersion.rank : Option LibraryVersion → WithBot (ℕ ×ₗ ℕ)
  | none => ⊥
  | some version => version.numbers

/-- All flags of a plan in the order of the command line. -/
def Plan.flags (plan : Plan) : List String :=
  plan.sanitizerFlags ++ plan.styleFlags ++ plan.mainFlag.toList

namespace Instrumentation

/-- The flags of a build stand where they belong. -/
structure Orderly (config : Config) (toolchain : Toolchain) (flags : List String) : Prop where
  oneChecker : flags.count "-fsanitize=address" + flags.count "-fsanitize=memory" ≤ 1
  unchecked : config.sanitizer = .memory → ∀ flag ∈ undefinedFlags, flag ∉ flags
  recovers : ∀ before after, flags = before ++ "-fno-sanitize-recover=undefined,integer" :: after →
    before.getLast? = some "-fsanitize=undefined"
  shares : ∀ before after, flags = before ++ "-shared-libasan" :: after →
    "-fsanitize=address" ∈ before ∧ ∃ directory, toolchain.runtimeDirectory = some directory
      ∧ after.head? = some ("-Wl,-rpath," ++ directory)

/-! ## Builds that replace others -/

theorem substitute_cases {config after : Config} {host : Host}
    (h : substitute config host = .ok after) :
    after = config ∨ after = { config with sanitizer := .valgrind } := by
  unfold substitute at h
  split_ifs at h
  · exact Or.inr (Except.ok.inj h).symm
  · exact Or.inl (Except.ok.inj h).symm

/-- What does not depend on the checker is the same after a substitution. -/
theorem eq_of_substitute {α : Type} {config after : Config} {host : Host}
    (h : substitute config host = .ok after) (view : Config → α)
    (blind : ∀ config, view { config with sanitizer := .valgrind } = view config) :
    view after = view config := by
  rcases substitute_cases h with rfl | rfl
  · rfl
  · exact blind config

theorem eq_unsupported_of_substitute {config : Config} {host : Host} {error : BuildError}
    (fails : substitute config host = .error error) : error = .unsupported := by
  unfold substitute at fails
  split_ifs at fails
  exact (Except.error.inj fails).symm

/-! ## Which flags there are -/

theorem mem_undefinedFlags_of_mem {config : Config} {toolchain : Toolchain} {flag : String}
    (member : flag ∈ undefinedFlagsFor config toolchain) : flag ∈ undefinedFlags := by
  unfold undefinedFlagsFor at member
  split at member
  · cases member
  · split at member
    · exact member
    · exact List.mem_of_mem_take member

theorem eq_of_mem_runtimeFlags {config : Config} {toolchain : Toolchain} {flag : String}
    (member : flag ∈ runtimeFlags config toolchain) :
    flag = "-shared-libasan" ∨ ∃ directory, flag = "-Wl,-rpath," ++ directory := by
  unfold runtimeFlags at member
  split at member
  · cases found : toolchain.runtimeDirectory with
    | none =>
      rw [found] at member
      cases member
    | some directory =>
      rw [found] at member
      rcases List.mem_pair.mp member with shared | path
      · exact Or.inl shared
      · exact Or.inr ⟨directory, path⟩
  · cases member

/-- The flag of a checker is none of the other flags. -/
theorem apart_of_checkerFlags {checker : Sanitizer} {flag : String}
    (own : checkerFlags checker = [flag]) :
    flag ∉ undefinedFlags ∧ flag ≠ "-shared-libasan"
      ∧ ∀ directory, flag ≠ "-Wl,-rpath," ++ directory := by
  have second : flag.toList[1]? = some 'f' := by
    cases checker <;> cases own <;> rfl
  refine ⟨?_, ?_, fun directory same => ?_⟩
  · cases checker <;> cases own <;> decide
  · rintro rfl
    simp at second
  · simp [same] at second

theorem notMem_of_checkerFlags {checker : Sanitizer} {flag : String}
    (own : checkerFlags checker = [flag]) (config : Config) (toolchain : Toolchain) :
    flag ∉ undefinedFlagsFor config toolchain ∧ flag ∉ runtimeFlags config toolchain := by
  obtain ⟨defined, unshared, elsewhere⟩ := apart_of_checkerFlags own
  constructor
  · intro member
    exact defined (mem_undefinedFlags_of_mem member)
  · intro member
    rcases eq_of_mem_runtimeFlags member with shared | ⟨directory, path⟩
    · exact unshared shared
    · exact elsewhere directory path

theorem mem_sanitizerFlags_iff {config : Config} {toolchain : Toolchain} {checker : Sanitizer}
    {flag : String} (own : checkerFlags checker = [flag]) :
    flag ∈ (plan config toolchain).sanitizerFlags ↔ config.sanitizer = checker := by
  have others := notMem_of_checkerFlags own config toolchain
  have checks : flag ∈ checkerFlags config.sanitizer ↔ config.sanitizer = checker := by
    cases checker <;> cases own <;> cases config.sanitizer <;> decide
  simp [plan, others, checks]

/-- The flags that say what is checked, apart from the path of the runtime. -/
def checkingFlags : List String :=
  ["-fsanitize=address", "-fsanitize=memory", "-shared-libasan"] ++ undefinedFlags

/-- Flags for warnings, messages and `main` say nothing about what is checked. -/
theorem notMem_otherFlags {flag : String} (checks : flag ∈ checkingFlags) (config : Config)
    (toolchain : Toolchain) :
    flag ∉ (plan config toolchain).styleFlags ++ (plan config toolchain).mainFlag.toList := by
  have none : ∀ flag ∈ checkingFlags, ∀ colorize,
      flag ∉ styleFlags colorize ++ (mainFlag .linked).toList
        ∧ flag ∉ styleFlags colorize ++ (mainFlag .renamed).toList
        ∧ flag ∉ styleFlags colorize ++ (mainFlag .disabled).toList := by decide
  obtain ⟨linked, renamed, disabled⟩ := none flag checks config.colorize
  simp only [plan]
  cases config.interception with
  | linked => exact linked
  | renamed => exact renamed
  | disabled => exact disabled

theorem undefinedFlagsFor_cases (config : Config) (toolchain : Toolchain) :
    undefinedFlagsFor config toolchain = []
      ∨ (config.sanitizer ≠ .memory ∧ (undefinedFlagsFor config toolchain = undefinedFlags
        ∨ undefinedFlagsFor config toolchain = ["-fsanitize=undefined"])) := by
  unfold undefinedFlagsFor
  split_ifs with unwanted recent
  · exact Or.inl rfl
  · exact Or.inr ⟨fun memory => unwanted (Or.inl memory), Or.inl rfl⟩
  · exact Or.inr ⟨fun memory => unwanted (Or.inl memory), Or.inr rfl⟩

theorem runtimeFlags_cases (config : Config) (toolchain : Toolchain) :
    runtimeFlags config toolchain = []
      ∨ (config.sanitizer = .address ∧ ∃ directory, toolchain.runtimeDirectory = some directory
        ∧ runtimeFlags config toolchain = ["-shared-libasan", "-Wl,-rpath," ++ directory]) := by
  unfold runtimeFlags
  split_ifs with wanted
  · cases toolchain.runtimeDirectory with
    | none => exact Or.inl rfl
    | some directory => exact Or.inr ⟨wanted.1, directory, rfl, rfl⟩
  · exact Or.inl rfl

/-! ## Where they stand -/

theorem flags_plan (config : Config) (toolchain : Toolchain) :
    (plan config toolchain).flags
      = checkerFlags config.sanitizer ++ undefinedFlagsFor config toolchain
        ++ (runtimeFlags config toolchain
          ++ ((plan config toolchain).styleFlags ++ (plan config toolchain).mainFlag.toList)) := by
  simp [Plan.flags, plan]

/-- A checker's flag stands in a plan as often as among the flags of the checker. -/
theorem count_flags_plan {checker : Sanitizer} {flag : String} (own : checkerFlags checker = [flag])
    (config : Config) (toolchain : Toolchain) :
    (plan config toolchain).flags.count flag = (checkerFlags config.sanitizer).count flag := by
  obtain ⟨noneUndefined, noneRuntime⟩ := notMem_of_checkerFlags own config toolchain
  have checks : flag ∈ checkingFlags := by
    cases checker <;> cases own <;> decide
  rw [flags_plan, List.count_append, List.count_append, List.count_append,
    List.count_eq_zero.mpr noneUndefined, List.count_eq_zero.mpr noneRuntime,
    List.count_eq_zero.mpr (notMem_otherFlags checks config toolchain)]
  rfl

theorem notMem_runtimeFlags_of_mem {flag : String} (undefined : flag ∈ undefinedFlags)
    (config : Config) (toolchain : Toolchain) : flag ∉ runtimeFlags config toolchain := by
  have second : flag.toList[1]? = some 'f' := by
    have all : ∀ flag ∈ undefinedFlags, flag.toList[1]? = some 'f' := by decide
    exact all flag undefined
  intro member
  rcases eq_of_mem_runtimeFlags member with rfl | ⟨directory, rfl⟩
  · simp at second
  · simp at second

theorem unchecked_of_memory {config : Config} (memory : config.sanitizer = .memory)
    (toolchain : Toolchain) {flag : String} (undefined : flag ∈ undefinedFlags) :
    flag ∉ (plan config toolchain).flags := by
  have noneUndefined : undefinedFlagsFor config toolchain = [] := by simp [undefinedFlagsFor, memory]
  have noneChecker : flag ∉ checkerFlags .memory := by
    have all : ∀ flag ∈ undefinedFlags, flag ∉ checkerFlags .memory := by decide
    exact all flag undefined
  have checks : flag ∈ checkingFlags := List.mem_append_right _ undefined
  rw [flags_plan, noneUndefined, memory]
  simp only [List.append_nil, List.mem_append, not_or]
  have others := notMem_otherFlags checks config toolchain
  rw [List.mem_append, not_or] at others
  exact ⟨noneChecker, notMem_runtimeFlags_of_mem undefined config toolchain, others⟩

/-- What a checker's own flags are not. -/
theorem notMem_checkerFlags {flag : String}
    (other : flag ∈ "-shared-libasan" :: undefinedFlags) (checker : Sanitizer) :
    flag ∉ checkerFlags checker := by
  have all : ∀ flag ∈ "-shared-libasan" :: undefinedFlags, flag ∉ checkerFlags .address
      ∧ flag ∉ checkerFlags .memory ∧ flag ∉ checkerFlags .valgrind := by decide
  obtain ⟨address, memory, valgrind⟩ := all flag other
  cases checker with
  | address => exact address
  | memory => exact memory
  | valgrind => exact valgrind

theorem recovers_plan (config : Config) (toolchain : Toolchain) {before after : List String}
    (split : (plan config toolchain).flags
      = before ++ "-fno-sanitize-recover=undefined,integer" :: after) :
    before.getLast? = some "-fsanitize=undefined" := by
  have undefined : "-fno-sanitize-recover=undefined,integer" ∈ undefinedFlags := by decide
  have noneChecker := notMem_checkerFlags (List.mem_cons_of_mem _ undefined) config.sanitizer
  have noneBehind : "-fno-sanitize-recover=undefined,integer" ∉ runtimeFlags config toolchain
      ++ ((plan config toolchain).styleFlags ++ (plan config toolchain).mainFlag.toList) := by
    rw [List.mem_append, not_or]
    exact ⟨notMem_runtimeFlags_of_mem undefined config toolchain,
      notMem_otherFlags (List.mem_append_right _ undefined) config toolchain⟩
  have member : "-fno-sanitize-recover=undefined,integer" ∈ (plan config toolchain).flags := by
    rw [split]
    exact List.mem_append_cons_self
  rw [flags_plan, List.mem_append, or_iff_left noneBehind, List.mem_append,
    or_iff_right noneChecker] at member
  have both : undefinedFlagsFor config toolchain = undefinedFlags := by
    rcases undefinedFlagsFor_cases config toolchain with none | ⟨-, both | one⟩
    · rw [none] at member
      cases member
    · exact both
    · rw [one] at member
      exact absurd member (by decide)
  -- the flag stands nowhere else, so this is the split that was given
  have here : (plan config toolchain).flags
      = (checkerFlags config.sanitizer ++ ["-fsanitize=undefined"])
        ++ "-fno-sanitize-recover=undefined,integer" :: (runtimeFlags config toolchain
          ++ ((plan config toolchain).styleFlags ++ (plan config toolchain).mainFlag.toList)) := by
    rw [flags_plan, both]
    simp [undefinedFlags]
  have noneBefore : "-fno-sanitize-recover=undefined,integer"
      ∉ checkerFlags config.sanitizer ++ ["-fsanitize=undefined"] := by
    rw [List.mem_append, not_or]
    exact ⟨noneChecker, by decide⟩
  rw [split] at here
  obtain ⟨rfl, -, -⟩ := (List.append_cons_inj_of_notMem noneBefore noneBehind).mp here.symm
  exact List.getLast?_concat

theorem shares_plan (config : Config) (toolchain : Toolchain) {before after : List String}
    (split : (plan config toolchain).flags = before ++ "-shared-libasan" :: after) :
    "-fsanitize=address" ∈ before ∧ ∃ directory, toolchain.runtimeDirectory = some directory
      ∧ after.head? = some ("-Wl,-rpath," ++ directory) := by
  have noneBefore : "-shared-libasan"
      ∉ checkerFlags config.sanitizer ++ undefinedFlagsFor config toolchain := by
    rw [List.mem_append, not_or]
    refine ⟨notMem_checkerFlags List.mem_cons_self config.sanitizer, fun undefined => ?_⟩
    exact absurd (mem_undefinedFlags_of_mem undefined) (by decide)
  have checks : "-shared-libasan" ∈ checkingFlags := by decide
  have noneOther := notMem_otherFlags checks config toolchain
  have member : "-shared-libasan" ∈ (plan config toolchain).flags := by
    rw [split]
    exact List.mem_append_cons_self
  rw [flags_plan, List.mem_append, or_iff_right noneBefore, List.mem_append,
    or_iff_left noneOther] at member
  rcases runtimeFlags_cases config toolchain with none | ⟨address, directory, found, runtime⟩
  · rw [none] at member
    cases member
  · have noneBehind : "-shared-libasan" ∉ ("-Wl,-rpath," ++ directory)
        :: ((plan config toolchain).styleFlags ++ (plan config toolchain).mainFlag.toList) := by
      rw [List.mem_cons, not_or]
      refine ⟨fun same => ?_, noneOther⟩
      have second := congrArg (·.toList[1]?) same
      simp at second
    have here : (plan config toolchain).flags
        = (checkerFlags config.sanitizer ++ undefinedFlagsFor config toolchain)
          ++ "-shared-libasan" :: (("-Wl,-rpath," ++ directory)
            :: ((plan config toolchain).styleFlags ++ (plan config toolchain).mainFlag.toList)) := by
      rw [flags_plan, runtime]
      rfl
    rw [split] at here
    obtain ⟨rfl, -, rfl⟩ := (List.append_cons_inj_of_notMem noneBefore noneBehind).mp here.symm
    refine ⟨?_, directory, found, rfl⟩
    rw [address]
    exact List.mem_append_left _ List.mem_cons_self

theorem orderly_plan (config : Config) (toolchain : Toolchain) :
    Orderly config toolchain (plan config toolchain).flags where
  oneChecker := by
    have address : checkerFlags .address = ["-fsanitize=address"] := rfl
    have memory : checkerFlags .memory = ["-fsanitize=memory"] := rfl
    rw [count_flags_plan address, count_flags_plan memory]
    cases config.sanitizer <;> decide
  unchecked memory _ undefined := unchecked_of_memory memory toolchain undefined
  recovers _ _ split := recovers_plan config toolchain split
  shares _ _ split := shares_plan config toolchain split

/-! ## Versions -/

theorem versionAtLeast_iff {major minor wantedMajor wantedMinor : ℕ} :
    versionAtLeast major minor wantedMajor wantedMinor = true
      ↔ toLex (wantedMajor, wantedMinor) ≤ toLex (major, minor) := by
  simp [versionAtLeast, Prod.Lex.toLex_le_toLex]

/-- A later compiler has reached what an earlier one has. -/
theorem compiler_atLeast_of_le {version later : CompilerVersion}
    (le : version.numbers ≤ later.numbers) {major minor : ℕ}
    (reached : version.atLeast major minor = true) : later.atLeast major minor = true :=
  versionAtLeast_iff.mpr ((versionAtLeast_iff.mp reached).trans le)

theorem library_atLeast_of_rank_le {library later : Option LibraryVersion}
    (le : LibraryVersion.rank library ≤ LibraryVersion.rank later) {major minor : ℕ}
    (reached : library.any (·.atLeast major minor) = true) :
    later.any (·.atLeast major minor) = true := by
  cases library with
  | none => cases reached
  | some version =>
    cases later with
    | none => exact absurd le (WithBot.not_coe_le_bot _)
    | some other =>
      have numbers : version.numbers ≤ other.numbers := WithBot.coe_le_coe.mp le
      exact versionAtLeast_iff.mpr ((versionAtLeast_iff.mp reached).trans numbers)

/-! ## Fewer or more flags -/

/-- Where more is worked around, or the compiler has reached less, there are fewer flags for
undefined behaviour. -/
theorem undefinedFlagsFor_sublist {config : Config} {toolchain other : Toolchain}
    (works : worksAround config other = true → worksAround config toolchain = true)
    (reaches : toolchain.compiler.atLeast 3 6 = true → other.compiler.atLeast 3 6 = true) :
    (undefinedFlagsFor config toolchain).Sublist (undefinedFlagsFor config other) := by
  unfold undefinedFlagsFor
  by_cases unwanted : config.sanitizer = .memory ∨ worksAround config toolchain = true
  · rw [if_pos unwanted]
    exact List.nil_sublist _
  · have wanted : ¬ (config.sanitizer = .memory ∨ worksAround config other = true) :=
      fun either => unwanted (either.imp_right works)
    rw [if_neg unwanted, if_neg wanted]
    by_cases old : toolchain.compiler.atLeast 3 6 = true
    · rw [if_pos old, if_pos (reaches old)]
    · rw [if_neg old]
      split_ifs
      · exact List.take_sublist 1 undefinedFlags
      · exact List.Sublist.refl _

theorem runtimeFlags_sublist {config : Config} {toolchain other : Toolchain}
    (directory : toolchain.runtimeDirectory = other.runtimeDirectory)
    (shares : sharesRuntime config toolchain.compiler = true →
      sharesRuntime config other.compiler = true) :
    (runtimeFlags config toolchain).Sublist (runtimeFlags config other) := by
  unfold runtimeFlags
  by_cases wanted : config.sanitizer = .address ∧ sharesRuntime config toolchain.compiler = true
  · have alike : config.sanitizer = .address ∧ sharesRuntime config other.compiler = true :=
      ⟨wanted.1, shares wanted.2⟩
    rw [if_pos wanted, if_pos alike, directory]
  · rw [if_neg wanted]
    exact List.nil_sublist _

theorem sanitizerFlags_sublist {config : Config} {toolchain other : Toolchain}
    (undefined : (undefinedFlagsFor config toolchain).Sublist (undefinedFlagsFor config other))
    (runtime : (runtimeFlags config toolchain).Sublist (runtimeFlags config other)) :
    (plan config toolchain).sanitizerFlags.Sublist (plan config other).sanitizerFlags :=
  ((List.Sublist.refl _).append undefined).append runtime

theorem sharesRuntime_of_le {config : Config} {version later : CompilerVersion}
    (le : version.numbers ≤ later.numbers) (shares : sharesRuntime config version = true) :
    sharesRuntime config later = true := by
  unfold sharesRuntime at shares ⊢
  cases choice : config.sharedRuntime with
  | automatic =>
    rw [choice] at shares
    exact compiler_atLeast_of_le le shares
  | on => rfl
  | off =>
    rw [choice] at shares
    cases shares

/-- What an old compiler works around a new one may not have to. -/
theorem worksAround_of_le {config : Config} {toolchain : Toolchain} {later : CompilerVersion}
    (le : toolchain.compiler.numbers ≤ later.numbers)
    (works : worksAround config { toolchain with compiler := later } = true) :
    worksAround config toolchain = true := by
  simp only [worksAround, Bool.and_eq_true, Bool.not_eq_true'] at works ⊢
  obtain ⟨needed, old⟩ := works
  refine ⟨needed, ?_⟩
  rw [← Bool.not_eq_true] at old ⊢
  intro recent
  exact old (compiler_atLeast_of_le le recent)

theorem worksAround_of_rank_le {config : Config} {toolchain : Toolchain}
    {later : Option LibraryVersion}
    (le : LibraryVersion.rank toolchain.library ≤ LibraryVersion.rank later)
    (works : worksAround config toolchain = true) :
    worksAround config { toolchain with library := later } = true := by
  simp only [worksAround, Bool.and_eq_true] at works ⊢
  obtain ⟨⟨needed, recent⟩, old⟩ := works
  exact ⟨⟨needed, library_atLeast_of_rank_le le recent⟩, old⟩

/-- A later compiler adds checks to a plan and takes none away; a later C library takes checks away
and adds none; neither changes anything else. In every plan the flags stand where they belong. -/
theorem sanitizerFlags_monotone (config : Config) (toolchain : Toolchain) :
    (∀ later : CompilerVersion, toolchain.compiler.numbers ≤ later.numbers →
        let other := plan config { toolchain with compiler := later }
        (plan config toolchain).sanitizerFlags.Sublist other.sanitizerFlags
          ∧ (plan config toolchain).styleFlags = other.styleFlags
          ∧ (plan config toolchain).mainFlag = other.mainFlag)
      ∧ (∀ later : Option LibraryVersion,
        LibraryVersion.rank toolchain.library ≤ LibraryVersion.rank later →
        let other := plan config { toolchain with library := later }
        other.sanitizerFlags.Sublist (plan config toolchain).sanitizerFlags
          ∧ (plan config toolchain).styleFlags = other.styleFlags
          ∧ (plan config toolchain).mainFlag = other.mainFlag)
      ∧ Orderly config toolchain (plan config toolchain).flags := by
  refine ⟨?_, ?_, orderly_plan config toolchain⟩
  · intro later le
    refine ⟨sanitizerFlags_sublist ?_ ?_, rfl, rfl⟩
    · exact undefinedFlagsFor_sublist (worksAround_of_le le) (compiler_atLeast_of_le le)
    · exact runtimeFlags_sublist rfl (sharesRuntime_of_le le)
  · intro later le
    refine ⟨sanitizerFlags_sublist ?_ ?_, rfl, rfl⟩
    · exact undefinedFlagsFor_sublist (worksAround_of_rank_le le) id
    · exact runtimeFlags_sublist rfl id

/-- A compiler that comes to share its runtime, and a C library that it cannot link the checks
with. -/
theorem sanitizerFlags_monotone_of_updates :
    let config := Config.default ⟨0, false, "", "", "", ""⟩
    let toolchain : Toolchain := ⟨⟨"5.0.1", 5, 0⟩, some ⟨2, 26⟩, .bits32, some "/lib/linux"⟩
    let compiler : CompilerVersion := ⟨"7.0.0", 7, 0⟩
    let library : Option LibraryVersion := some ⟨2, 27⟩
    toolchain.compiler.numbers ≤ compiler.numbers
      ∧ LibraryVersion.rank toolchain.library ≤ LibraryVersion.rank library
      ∧ (plan config toolchain).sanitizerFlags.Sublist
          (plan config { toolchain with compiler }).sanitizerFlags
      ∧ (plan config { toolchain with library }).sanitizerFlags.Sublist
          (plan config toolchain).sanitizerFlags := by
  intro config toolchain compiler library
  have newer : toolchain.compiler.numbers ≤ compiler.numbers :=
    Prod.Lex.toLex_le_toLex.mpr (by decide)
  have numbers : toLex (2, 26) ≤ toLex (2, 27) := Prod.Lex.toLex_le_toLex.mpr (by decide)
  have later : LibraryVersion.rank toolchain.library ≤ LibraryVersion.rank library :=
    WithBot.coe_le_coe.mpr numbers
  obtain ⟨compilers, libraries, -⟩ := sanitizerFlags_monotone config toolchain
  exact ⟨newer, later, (compilers compiler newer).1, (libraries library later).1⟩

end Instrumentation

end CheckedBuild
