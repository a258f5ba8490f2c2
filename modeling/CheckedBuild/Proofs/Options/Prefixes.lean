import CheckedBuild.Proofs.Options.Roles

/-!
# More tokens behind

Tokens are read from the left, so tokens that come behind a list take nothing back. If the list asks
for something other than a build, or would overwrite a source, so does every longer one. A build
only grows: what a list says about its inputs is said by every longer list that resolves to a build
too, and a longer list does so only if the shorter one does. The converse fails, as an `-o` at the
end is not judged before its value is seen. Settings that a later option may take back are not spoken
of.
-/

namespace CheckedBuild

/-- An outcome that tokens behind cannot change. -/
inductive Decided : Except BuildError Resolution → Prop
  | version : Decided (.ok .version)
  | help : Decided (.ok .help)
  | watch : Decided (.ok .watch)
  | overwrites (target : String) : Decided (.error (.wouldOverwrite target))

/-- The second build has all arguments and sources of the first, in order and before any others, and
is all that the first one is among what cannot be taken back. -/
structure Config.Grows (before after : Config) : Prop where
  compilerArguments : before.compilerArguments <+: after.compilerArguments
  sources : before.sources <+: after.sources
  compileOnly : before.compileOnly = true → after.compileOnly = true
  otherInputs : before.otherInputs = true → after.otherInputs = true
  leakCheck : before.leakCheck = true → after.leakCheck = true
  useAfterReturn : before.useAfterReturn = true → after.useAfterReturn = true

/-- The source that tokens would overwrite by their first one, if that is the target of an `-o`
before them. -/
def Role.refused? (role : Role) (exists? : String → Bool) (tokens : List String) : Option String :=
  if role = .output then tokens.head?.filter (namesSource exists?) else none

/-- Goes on with more tokens, the first of them in the given role, if those before came to a build. -/
def resume (exists? : String → Bool) (role : Role) (more : List String) :
    Except BuildError Resolution → Except BuildError Resolution
  | .ok (.compile read) =>
    match role.refused? exists? more with
    | some target => .error (.wouldOverwrite target)
    | none => resolveFrom exists? read role more
  | outcome => outcome

/-! ## One token more -/

namespace Config

theorem Grows.refl (config : Config) : config.Grows config :=
  ⟨List.prefix_refl _, List.prefix_refl _, id, id, id, id⟩

theorem Grows.trans {first second third : Config} (one : first.Grows second)
    (other : second.Grows third) : first.Grows third where
  compilerArguments := one.compilerArguments.trans other.compilerArguments
  sources := one.sources.trans other.sources
  compileOnly := other.compileOnly ∘ one.compileOnly
  otherInputs := other.otherInputs ∘ one.otherInputs
  leakCheck := other.leakCheck ∘ one.leakCheck
  useAfterReturn := other.useAfterReturn ∘ one.useAfterReturn

theorem prefix_addOnce (sources : List String) (source : String) :
    sources <+: addOnce sources source := by
  unfold addOnce
  split
  · exact List.prefix_refl sources
  · exact List.prefix_append sources [source]

/-- The two checks that an option turns on have no option that turns them off. -/
theorem grows_apply (config : Config) (setting : Setting) : config.Grows (config.apply setting) := by
  have same := Grows.refl config
  cases setting with
  | leakCheck => exact { same with leakCheck := fun _ => rfl }
  | useAfterReturn => exact { same with useAfterReturn := fun _ => rfl }
  | _ => exact { same with }

theorem grows_note (config : Config) (role : Role) (token : String) :
    config.Grows (config.note role token) := by
  have same := Grows.refl config
  cases role with
  | output => exact { same with }
  | value => exact same
  | free =>
    simp only [note]
    split_ifs
    · exact same
    · exact { same with compileOnly := fun _ => rfl }
    · exact same
    · exact same
    · exact { same with sources := prefix_addOnce config.sources token }
    · exact { same with otherInputs := fun _ => rfl }

theorem grows_pass (config : Config) (role : Role) (token : String) :
    config.Grows (config.pass role token) :=
  { config.grows_note role token with
    compilerArguments := List.prefix_append config.compilerArguments [token] }

end Config

/-- What a reading has learnt it keeps to its end. -/
theorem grows_of_resolveFrom {exists? : String → Bool} {config : Config} {role : Role}
    {tokens : List String} {final : Config}
    (h : resolveFrom exists? config role tokens = .ok (.compile final)) : config.Grows final := by
  induction tokens generalizing config role with
  | nil =>
    cases h
    exact Config.Grows.refl _
  | cons token rest ih =>
    rcases resolveFrom_cons h with ⟨setting, -, tail⟩ | ⟨-, -, tail⟩
    · exact (config.grows_apply setting).trans (ih tail)
    · exact (config.grows_pass role token).trans (ih tail)

/-! ## A list cut in two -/

/-- Looking ahead from the last token is left to the tokens behind it. -/
theorem Role.overwritten?_eq_refused? (role : Role) (exists? : String → Bool) (token : String)
    (rest : List String) :
    role.overwritten? exists? token rest.head? = (role.next token).refused? exists? rest := by
  unfold overwritten? refused?
  simp only [next_eq_output_iff]

theorem Decided.resume_eq {outcome : Except BuildError Resolution} (decided : Decided outcome)
    (exists? : String → Bool) (role : Role) (more : List String) :
    resume exists? role more outcome = outcome := by
  cases decided <;> rfl

/-- Reading two lists is reading the first and, if that comes to a build, going on with the second.
The value of an `-o` at the end of the first is judged when the second is there. -/
theorem resolveFrom_append {exists? : String → Bool} {config : Config} {role : Role}
    {tokens : List String} (nonempty : tokens ≠ []) (more : List String) :
    resolveFrom exists? config role (tokens ++ more)
      = resume exists? (roleAfter role tokens) more (resolveFrom exists? config role tokens) := by
  induction tokens generalizing config role with
  | nil => exact absurd rfl nonempty
  | cons token rest ih =>
    rw [List.cons_append, resolveFrom, resolveFrom]
    cases reading : role.read token with
    | set setting =>
      have stays : role.next token = role :=
        Role.next_of_setting? (by rw [← Role.setting?_read, reading, Reading.setting?])
      have after : roleAfter role (token :: rest) = roleAfter role rest :=
        congrArg (roleAfter · rest) stays
      rw [after]
      cases rest with
      | nil =>
        have isFree : role ≠ .output := by
          rintro rfl
          cases reading
        simp [resolveFrom, resume, roleAfter, Role.refused?, isFree]
      | cons second others => exact ih (List.cons_ne_nil second others)
    | decide resolution =>
      cases resolution with
      | compile config => exact absurd reading Role.read_ne_compile
      | version => rfl
      | help => rfl
      | watch => rfl
    | pass =>
      cases rest with
      | nil =>
        have ahead : role.overwritten? exists? token none = none := by simp [Role.overwritten?]
        rw [List.nil_append, List.head?_nil, ahead, Role.overwritten?_eq_refused?]
        rfl
      | cons second others =>
        rw [List.cons_append, List.head?_cons, List.head?_cons, ← List.cons_append]
        cases role.overwritten? exists? token (some second) with
        | some target => rfl
        | none => exact ih (List.cons_ne_nil second others)

/-- A reading of any tokens comes to a build or to an outcome that stays. -/
theorem decided_or_build (exists? : String → Bool) (config : Config) (role : Role)
    (tokens : List String) :
    Decided (resolveFrom exists? config role tokens)
      ∨ ∃ read, resolveFrom exists? config role tokens = .ok (.compile read) := by
  induction tokens generalizing config role with
  | nil => exact Or.inr ⟨config, rfl⟩
  | cons token rest ih =>
    rw [resolveFrom]
    cases reading : role.read token with
    | set setting => exact ih (config.apply setting) role
    | decide resolution =>
      cases resolution with
      | compile config => exact absurd reading Role.read_ne_compile
      | version => exact Or.inl .version
      | help => exact Or.inl .help
      | watch => exact Or.inl .watch
    | pass =>
      cases role.overwritten? exists? token rest.head? with
      | some target => exact Or.inl (.overwrites target)
      | none => exact ih (config.pass role token) (role.next token)

/-- A longer list comes to a build only by way of a build of the shorter one. -/
theorem exists_of_resume {exists? : String → Bool} {role : Role} {more : List String}
    {outcome : Except BuildError Resolution} {final : Config}
    (known : Decided outcome ∨ ∃ read, outcome = .ok (.compile read))
    (h : resume exists? role more outcome = .ok (.compile final)) :
    ∃ read, outcome = .ok (.compile read) ∧ read.Grows final := by
  rcases known with decided | ⟨read, rfl⟩
  · rw [decided.resume_eq] at h
    subst h
    cases decided
  · refine ⟨read, rfl, ?_⟩
    unfold resume at h
    cases refused : role.refused? exists? more with
    | some target => simp [refused] at h
    | none => exact grows_of_resolveFrom (by simpa [refused] using h)

/-! ## Command lines -/

theorem resolve_of_nonempty {tokens : List String} (nonempty : tokens ≠ [])
    (exists? : String → Bool) (environment : Environment) :
    resolve exists? environment tokens
      = resolveFrom exists? (Config.default environment) .free tokens :=
  if_neg nonempty

/-- A command line comes to a build or to an outcome that no tokens behind it change. If it comes to
a build with more tokens behind, it comes to one without them, and that grows into the other. -/
theorem resolve_append (exists? : String → Bool) (environment : Environment)
    (tokens more : List String) (nonempty : tokens ≠ []) :
    (Decided (resolve exists? environment tokens)
        ∨ ∃ config, resolve exists? environment tokens = .ok (.compile config))
      ∧ (Decided (resolve exists? environment tokens) →
          resolve exists? environment (tokens ++ more) = resolve exists? environment tokens)
      ∧ ∀ final, resolve exists? environment (tokens ++ more) = .ok (.compile final) →
          ∃ config, resolve exists? environment tokens = .ok (.compile config)
            ∧ config.Grows final := by
  have longer : tokens ++ more ≠ [] := fun none => nonempty (List.append_eq_nil_iff.mp none).1
  have known := decided_or_build exists? (Config.default environment) .free tokens
  rw [resolve_of_nonempty nonempty, resolve_of_nonempty longer, resolveFrom_append nonempty]
  refine ⟨known, ?_, ?_⟩
  · intro decided
    exact decided.resume_eq exists? _ more
  · intro final resolved
    exact exists_of_resume known resolved

/-- A list that is cut between an option and its value, which looks like a request for help. -/
theorem resolve_append_of_cut_value :
    let environment : Environment := ⟨0, false, "", "", "", ""⟩
    let tokens := ["-c", "a.c", "--leak-check", "-o"]
    let more := ["--help", "b.H", "x.o"]
    let final : Config :=
      { Config.default environment with
          leakCheck := true
          compilerArguments := ["-c", "a.c", "-o", "--help", "b.H", "x.o"]
          sources := ["a.c", "b.H"]
          compileOnly := true
          otherInputs := true
          output := some "--help" }
    tokens ≠ [] ∧ resolve (fun _ => false) environment (tokens ++ more) = .ok (.compile final)
      ∧ ∃ config, resolve (fun _ => false) environment tokens = .ok (.compile config)
        ∧ config.Grows final := by
  intro environment tokens more final
  have nonempty : tokens ≠ [] := List.cons_ne_nil _ _
  have resolved : resolve (fun _ => false) environment (tokens ++ more) = .ok (.compile final) := by
    rfl
  obtain ⟨-, -, grows⟩ := resolve_append (fun _ => false) environment tokens more nonempty
  exact ⟨nonempty, resolved, grows final resolved⟩

end CheckedBuild
