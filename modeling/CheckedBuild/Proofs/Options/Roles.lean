import Mathlib.Data.List.Induction
import CheckedBuild.Proofs.Options.Classification

/-!
# Roles in other token lists

A command is put together from the arguments that were passed on: more are added before or behind,
or some are left out. Where the roles of the arguments stay what they were is told here. They do
behind tokens that take no value, and in front of any others; they do when tokens are left out that
are no values and take none.
-/

namespace CheckedBuild

/-! ## Roles from the left -/

/-- The role of the token after all of these, the first of them being read in the given role. -/
def roleAfter (role : Role) (tokens : List String) : Role := tokens.foldl Role.next role

/-- The tokens with their roles, the first of them being read in the given role. -/
def placedFrom (role : Role) : List String → List (Role × String)
  | [] => []
  | token :: rest => (role, token) :: placedFrom (role.next token) rest

theorem roleAfter_append (role : Role) (first second : List String) :
    roleAfter role (first ++ second) = roleAfter (roleAfter role first) second :=
  List.foldl_append

theorem placedFrom_append (role : Role) (first second : List String) :
    placedFrom role (first ++ second)
      = placedFrom role first ++ placedFrom (roleAfter role first) second := by
  induction first generalizing role with
  | nil => rfl
  | cons token rest ih =>
    rw [List.cons_append, placedFrom, ih, placedFrom, List.cons_append]
    rfl

theorem roleAt_length (tokens : List String) :
    roleAt tokens tokens.length = roleAfter .free tokens := by
  induction tokens using List.reverseRecOn with
  | nil => rfl
  | append_singleton before token ih =>
    rw [List.length_append, List.length_singleton, roleAt_concat, ih, roleAfter_append]
    rfl

/-- The roles of tokens at their places are those that a reading from the left comes to. -/
theorem placed_eq_placedFrom (tokens : List String) : placed tokens = placedFrom .free tokens := by
  induction tokens using List.reverseRecOn with
  | nil => rfl
  | append_singleton before token ih =>
    rw [placed_concat, ih, placedFrom_append, roleAt_length]
    rfl

theorem roleAt_eq_free_iff {tokens : List String} {i : Nat} :
    roleAt tokens i = .free ↔ isValue tokens i = false := by
  unfold roleAt
  cases isValue tokens i with
  | false => simp
  | true =>
    simp only [if_true]
    split <;> simp

/-! ## An option at the end -/

/-- The last token is an option that still waits for its value. -/
def Dangling (tokens : List String) : Prop :=
  ∃ before option, tokens = before ++ [option] ∧ takesValue option = true
    ∧ isValue before before.length = false

theorem Role.next_eq_free_iff {role : Role} {token : String} :
    role.next token = .free ↔ ¬ (role = .free ∧ takesValue token = true) := by
  cases role with
  | output => simp [next]
  | value => simp [next]
  | free =>
    simp only [next, takesValue, true_and]
    split_ifs <;> simp_all

theorem roleAfter_eq_free_iff {tokens : List String} :
    roleAfter .free tokens = .free ↔ ¬ Dangling tokens := by
  rcases List.eq_nil_or_concat tokens with rfl | ⟨before, last, rfl⟩
  · refine iff_of_true rfl ?_
    rintro ⟨before, option, nothing, -⟩
    simp at nothing
  · rw [List.concat_eq_append, roleAfter_append]
    change (roleAfter .free before).next last = .free ↔ _
    rw [Role.next_eq_free_iff, ← roleAt_length, roleAt_eq_free_iff]
    refine not_congr ⟨fun ⟨bare, takes⟩ => ⟨before, last, rfl, takes, bare⟩, ?_⟩
    rintro ⟨other, option, same, takes, bare⟩
    obtain ⟨rfl, alike⟩ := List.append_inj' same rfl
    obtain rfl := List.singleton_inj.mp alike
    exact ⟨bare, takes⟩

/-- What comes right behind some tokens is a value just if the last of them waits for one. -/
theorem isValue_append_iff (tokens rest : List String) :
    isValue (tokens ++ rest) tokens.length = true ↔ Dangling tokens := by
  rw [isValue_append (Nat.le_refl _), ← Bool.not_eq_false, ← roleAt_eq_free_iff, roleAt_length,
    roleAfter_eq_free_iff, Classical.not_not]

/-! ## Targets -/

/-- The targets of the tokens: the values of `-o` where that is no value itself. -/
def targetsIn (tokens : List String) : List String :=
  tokensThat (fun role _ => role = .output) tokens

theorem mem_targetsIn {tokens : List String} {target : String} :
    target ∈ targetsIn tokens ↔ (Role.output, target) ∈ placedFrom .free tokens := by
  rw [targetsIn, tokensThat, placed_eq_placedFrom]
  simp

/-- Some target of the tokens is an existing source. -/
def Overwrites (exists? : String → Bool) (tokens : List String) : Prop :=
  ∃ target ∈ targetsIn tokens, namesSource exists? target = true

/-- No token takes a value. -/
def Bare (tokens : List String) : Prop := ∀ token ∈ tokens, takesValue token = false

instance (tokens : List String) : Decidable (Bare tokens) :=
  inferInstanceAs (Decidable (∀ token ∈ tokens, takesValue token = false))

theorem Role.next_of_bare {token : String} (bare : takesValue token = false) (role : Role) :
    role.next token = .free :=
  next_eq_free_iff.mpr fun ⟨_, takes⟩ => by simp [bare] at takes

theorem Bare.roleAfter {tokens : List String} (bare : Bare tokens) :
    roleAfter .free tokens = .free := by
  induction tokens with
  | nil => rfl
  | cons token rest ih =>
    obtain ⟨one, others⟩ := List.forall_mem_cons.mp bare
    change CheckedBuild.roleAfter (Role.free.next token) rest = .free
    rw [Role.next_of_bare one]
    exact ih others

theorem Bare.placedFrom {tokens : List String} (bare : Bare tokens) :
    ∀ entry ∈ placedFrom .free tokens, entry.1 = .free := by
  induction tokens with
  | nil => simp [CheckedBuild.placedFrom]
  | cons token rest ih =>
    obtain ⟨one, others⟩ := List.forall_mem_cons.mp bare
    rw [CheckedBuild.placedFrom, Role.next_of_bare one]
    exact List.forall_mem_cons.mpr ⟨rfl, ih others⟩

/-- Tokens that take no value say nothing about what follows them. -/
theorem overwrites_bare_append {exists? : String → Bool} {flags : List String} (bare : Bare flags)
    (tokens : List String) : Overwrites exists? (flags ++ tokens) ↔ Overwrites exists? tokens := by
  have targets (target : String) :
      target ∈ targetsIn (flags ++ tokens) ↔ target ∈ targetsIn tokens := by
    rw [mem_targetsIn, mem_targetsIn, placedFrom_append, bare.roleAfter, List.mem_append]
    refine or_iff_right fun among => ?_
    cases bare.placedFrom _ among
  simp only [Overwrites, targets]

/-- Tokens overwrite what they overwrote if others follow of which no target names a source, in
whatever role the first of them is read. -/
theorem overwrites_append {exists? : String → Bool} {rest : List String}
    (harmless : ∀ role target, (Role.output, target) ∈ placedFrom role rest →
      namesSource exists? target = false) (tokens : List String) :
    Overwrites exists? (tokens ++ rest) ↔ Overwrites exists? tokens := by
  constructor
  · rintro ⟨target, among, source⟩
    rw [mem_targetsIn, placedFrom_append, List.mem_append] at among
    rcases among with before | behind
    · exact ⟨target, mem_targetsIn.mpr before, source⟩
    · rw [harmless _ target behind] at source
      cases source
  · rintro ⟨target, among, source⟩
    refine ⟨target, mem_targetsIn.mpr ?_, source⟩
    rw [placedFrom_append]
    exact List.mem_append_left _ (mem_targetsIn.mp among)

/-- If no token takes a value, the first of them alone can be a target. -/
theorem Bare.eq_of_target {first target : String} {flags : List String}
    (bare : Bare (first :: flags)) {role : Role}
    (among : (Role.output, target) ∈ CheckedBuild.placedFrom role (first :: flags)) :
    target = first := by
  obtain ⟨one, others⟩ := List.forall_mem_cons.mp bare
  rw [CheckedBuild.placedFrom, Role.next_of_bare one] at among
  rcases List.mem_cons.mp among with same | later
  · exact (Prod.mk.inj same).2
  · cases Bare.placedFrom others _ later

/-- No option that takes a value starts like a token that does not. -/
theorem takesValue_of_isPrefixOf (start : List Char) {token : String}
    (other : ∀ option ∈ "-o" :: optionsWithValue, start.isPrefixOf option.toList = false)
    (starts : start.isPrefixOf token.toList = true) : takesValue token = false := by
  rw [Bool.eq_false_iff]
  intro takes
  have listed : token ∈ "-o" :: optionsWithValue := by simpa [takesValue] using takes
  rw [other token listed] at starts
  cases starts

/-! ## Tokens left out -/

/-- Leaving out tokens that are no values and take none leaves the others their roles. -/
theorem placedFrom_filter {keep : String → Bool}
    (bare : ∀ token, keep token = false → takesValue token = false) {role : Role} {tokens : List String}
    (unbound : ∀ entry ∈ placedFrom role tokens, keep entry.2 = false → entry.1 = .free) :
    placedFrom role (tokens.filter keep)
        = (placedFrom role tokens).filter (fun entry => keep entry.2)
      ∧ roleAfter role (tokens.filter keep) = roleAfter role tokens := by
  induction tokens generalizing role with
  | nil => exact ⟨rfl, rfl⟩
  | cons token rest ih =>
    obtain ⟨here, later⟩ := List.forall_mem_cons.mp unbound
    obtain ⟨places, after⟩ := ih later
    cases kept : keep token with
    | true =>
      rw [List.filter_cons_of_pos kept, placedFrom, placedFrom, places,
        List.filter_cons_of_pos (by exact kept)]
      exact ⟨rfl, after⟩
    | false =>
      -- the token is free, and so is the one after it
      have same : role.next token = role :=
        (Role.next_of_bare (bare token kept) role).trans (here kept).symm
      rw [same] at places after
      rw [List.filter_cons_of_neg (by simp [kept]), placedFrom, same,
        List.filter_cons_of_neg (by simp [kept])]
      exact ⟨places, after.trans (congrArg (roleAfter · rest) same).symm⟩

/-! ## Arguments of a resolved build -/

theorem Role.next_eq_output_iff {role : Role} {token : String} :
    role.next token = .output ↔ role = .free ∧ token = "-o" := by
  cases role with
  | output => simp [next]
  | value => simp [next]
  | free =>
    simp only [next, true_and]
    split_ifs <;> simp_all

/-- A reading that ends in a build has looked at every target. The first token may be a target that
was looked at before. -/
theorem namesSource_of_resolveFrom {exists? : String → Bool} {config : Config} {role : Role}
    {tokens : List String} {final : Config}
    (h : resolveFrom exists? config role tokens = .ok (.compile final))
    (seen : role = .output → ∀ token ∈ tokens.head?, namesSource exists? token = false) :
    ∀ target, (Role.output, target) ∈ placedFrom role (passedFrom role tokens) →
      namesSource exists? target = false := by
  induction tokens generalizing config role with
  | nil => simp [passedFrom, placedFrom]
  | cons token rest ih =>
    rcases resolveFrom_cons h with ⟨setting, reading, tail⟩ | ⟨reading, harmless, tail⟩
    · have isFree : role = .free := Decidable.byContradiction fun bound => by
        rw [Role.read_of_ne_free bound] at reading
        cases reading
      simp only [passedFrom, reading]
      exact ih tail fun isOutput => by simp [isFree] at isOutput
    · simp only [passedFrom, reading, placedFrom]
      intro target among
      rcases List.mem_cons.mp among with same | later
      · obtain ⟨isOutput, rfl⟩ := Prod.mk.inj same
        exact seen isOutput.symm target rfl
      · refine ih tail (fun isOutput next first => ?_) target later
        have opens := Role.next_eq_output_iff.mp isOutput
        rw [Role.overwritten?, if_pos opens, Option.filter_eq_none_iff] at harmless
        simpa using harmless next first

/-- A build that resolves overwrites no source by the arguments that it passes on. -/
theorem not_overwrites_of_resolve {exists? : String → Bool} {environment : Environment}
    {tokens : List String} {config : Config}
    (h : resolve exists? environment tokens = .ok (.compile config)) :
    ¬ Overwrites exists? config.compilerArguments := by
  unfold resolve at h
  split_ifs at h
  have passed := compilerArguments_of_resolveFrom h
  rintro ⟨target, among, source⟩
  have harmless := namesSource_of_resolveFrom h (fun isOutput => by cases isOutput) target
  rw [mem_targetsIn, passed] at among
  rw [harmless among] at source
  cases source

/-- An option of the driver binds nothing, so what is passed on comes to the same role. -/
theorem roleAfter_passedFrom {exists? : String → Bool} {config : Config} {role : Role}
    {tokens : List String} {final : Config}
    (h : resolveFrom exists? config role tokens = .ok (.compile final)) :
    roleAfter role (passedFrom role tokens) = roleAfter role tokens := by
  induction tokens generalizing config role with
  | nil => rfl
  | cons token rest ih =>
    rcases resolveFrom_cons h with ⟨setting, reading, tail⟩ | ⟨reading, -, tail⟩
    · have same : role.next token = role :=
        Role.next_of_setting? (by rw [← Role.setting?_read, reading, Reading.setting?])
      simp only [passedFrom, reading]
      exact (ih tail).trans (congrArg (roleAfter · rest) same).symm
    · simp only [passedFrom, reading]
      exact ih tail

theorem dangling_iff_of_resolve {exists? : String → Bool} {environment : Environment}
    {tokens : List String} {config : Config}
    (h : resolve exists? environment tokens = .ok (.compile config)) :
    Dangling config.compilerArguments ↔ Dangling tokens := by
  unfold resolve at h
  split_ifs at h
  have passed : config.compilerArguments = passedFrom .free tokens :=
    compilerArguments_of_resolveFrom h
  rw [← not_iff_not, ← roleAfter_eq_free_iff, ← roleAfter_eq_free_iff, passed,
    roleAfter_passedFrom h]

end CheckedBuild
