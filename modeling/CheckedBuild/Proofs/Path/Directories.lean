import CheckedBuild.Embedding.Discovery
import CheckedBuild.Proofs.Path.Names

/-!
# Directories of stored names

A name that a file may be stored under is relative and normal, and no part of it climbs. An include
is resolved in the directory of the file that includes it, whatever its spelling; if the outcome is
accepted at all, it lies in that directory or below it. Nothing is said about links, which a path
does not show.
-/

namespace CheckedBuild

namespace Path

open Text

theorem foldl_pushPart_names {parts stack : List (List Char)}
    (names : ∀ part ∈ parts, IsName part) :
    parts.foldl pushPart stack = parts.reverse ++ stack := by
  induction parts generalizing stack with
  | nil => rfl
  | cons part rest ih =>
    obtain ⟨first, others⟩ := List.forall_mem_cons.mp names
    have pushed : pushPart stack part = part :: stack := by
      unfold pushPart
      rw [if_neg (not_or.mpr ⟨first.nonempty, first.notCurrent⟩), if_neg first.notParent]
    rw [List.foldl_cons, pushed, ih others, List.reverse_cons, List.append_assoc,
      List.singleton_append]

theorem normalParts_joinWith {parts : List (List Char)} (some : parts ≠ [])
    (names : ∀ part ∈ parts, IsName part) : normalParts (joinWith ['/'] parts) = parts := by
  rw [normalParts, pieces_joinWith some fun part member => (names part member).whole,
    foldl_pushPart_names names, List.append_nil, List.reverse_reverse]

/-- Names joined by slashes are in normal form. -/
theorem normalize_joinWith {parts : List (List Char)} (some : parts ≠ [])
    (names : ∀ part ∈ parts, IsName part) :
    normalize (joinWith ['/'] parts) = joinWith ['/'] parts := by
  rw [normalize, normalParts_joinWith some names, if_neg some]

theorem normalize_of_stored {path : List Char} (stored : Stored path) : normalize path = path := by
  cases stored with
  | current => decide
  | below parts some names => exact normalize_joinWith some names

theorem isAbsolute_of_stored {path : List Char} (stored : Stored path) :
    isAbsolute path = false := by
  cases stored with
  | current => decide
  | below parts some names =>
    obtain ⟨first, rest, rfl⟩ := List.exists_cons_of_ne_nil some
    have split := pieces_joinWith some fun part member => (names part member).whole
    exact isAbsolute_eq_false split (Or.inl (names first List.mem_cons_self).nonempty)

/-- Names joined by slashes: a path below the working directory in normal form. -/
def Plain (path : List Char) : Prop :=
  ∃ parts : List (List Char), parts ≠ [] ∧ (∀ part ∈ parts, IsName part)
    ∧ path = joinWith ['/'] parts

theorem Plain.stored {path : List Char} (plain : Plain path) : Stored path := by
  obtain ⟨parts, some, names, rfl⟩ := plain
  exact .below parts some names

theorem Plain.ne_nil {path : List Char} (plain : Plain path) : path ≠ [] := by
  obtain ⟨parts, some, names, rfl⟩ := plain
  exact joinWith_ne_nil some names

theorem Plain.getLast?_ne {path : List Char} (plain : Plain path) : path.getLast? ≠ some '/' := by
  obtain ⟨parts, some, names, rfl⟩ := plain
  exact getLast?_joinWith_ne_slash some names

theorem Plain.append {first second : List Char} (one : Plain first) (other : Plain second) :
    Plain (first ++ '/' :: second) := by
  obtain ⟨parts, some, names, rfl⟩ := one
  obtain ⟨parts', some', names', rfl⟩ := other
  refine ⟨parts ++ parts', by simp [some], List.forall_mem_append.mpr ⟨names, names'⟩, ?_⟩
  rw [joinWith_append some some', List.append_assoc, List.singleton_append]

/-- The pieces of a plain path are its names. -/
theorem plain_iff_pieces {path : List Char} :
    Plain path ↔ ∀ part ∈ pieces '/' path, IsName part := by
  constructor
  · rintro ⟨parts, some, names, rfl⟩
    rwa [pieces_joinWith some fun part member => (names part member).whole]
  · exact fun names => ⟨pieces '/' path, pieces_ne_nil '/' path, names,
      (joinWith_pieces '/' path).symm⟩

theorem plain_iff_stored {path : List Char} : Plain path ↔ Stored path ∧ path ≠ ['.'] := by
  constructor
  · refine fun plain => ⟨plain.stored, ?_⟩
    rintro rfl
    exact (plain_iff_pieces.mp plain ['.'] (by decide)).notCurrent rfl
  · rintro ⟨stored, further⟩
    cases stored with
    | current => exact absurd rfl further
    | below parts some names => exact ⟨parts, some, names, rfl⟩

theorem components_joinWith_names {parts : List (List Char)} (names : ∀ part ∈ parts, IsName part) :
    components (joinWith ['/'] parts) = parts.map .named := by
  by_cases some : parts = []
  · subst some
    decide
  · exact components_joinWith some names

theorem parent_notMem_components {path : List Char} (stored : Stored path) :
    .parent ∉ components path := by
  cases stored with
  | current => decide
  | below parts some names => simp [components_joinWith_names names]

theorem ofComponents_named (parts : List (List Char)) :
    ofComponents (parts.map .named) = joinWith ['/'] parts := by
  cases parts with
  | nil => rfl
  | cons part rest => simp [ofComponents, Component.text, Function.comp_def]

theorem parent?_joinWith {parts : List (List Char)} (some : parts ≠ [])
    (names : ∀ part ∈ parts, IsName part) :
    parent? (joinWith ['/'] parts) = .some (joinWith ['/'] parts.dropLast) := by
  have last : (parts.map Component.named).getLast? = .some (.named (parts.getLast some)) := by
    rw [List.getLast?_map, List.getLast?_eq_some_getLast some, Option.map_some]
  rw [parent?, components_joinWith some names, last, ← List.map_dropLast, ofComponents_named]

/-- The directory of a path below another directory. -/
theorem parent?_append {parts parts' : List (List Char)} (some : parts ≠ []) (some' : parts' ≠ [])
    (names : ∀ part ∈ parts, IsName part) (names' : ∀ part ∈ parts', IsName part) :
    parent? (joinWith ['/'] parts ++ '/' :: joinWith ['/'] parts')
      = .some (joinWith ['/'] (parts ++ parts'.dropLast)) := by
  have parent := parent?_joinWith (List.append_ne_nil_of_left_ne_nil some parts')
    (List.forall_mem_append.mpr ⟨names, names'⟩)
  rwa [joinWith_append some some', List.append_assoc, List.singleton_append,
    List.dropLast_append_of_ne_nil some'] at parent

theorem exists_parent? {path : List Char} (stored : Stored path) :
    ∃ directory, parent? path = some directory := by
  cases stored with
  | current => exact ⟨[], by decide⟩
  | below parts some names => exact ⟨_, parent?_joinWith some names⟩

/-- The path lies in the directory or in one below it. -/
def LiesIn (directory path : List Char) : Prop :=
  ∃ own, parent? path = some own ∧ components directory <+: components own

theorem LiesIn.trans {top directory includer path : List Char} (first : LiesIn top includer)
    (same : parent? includer = some directory) (second : LiesIn directory path) :
    LiesIn top path := by
  obtain ⟨own, isOwn, above⟩ := first
  obtain rfl : own = directory := Option.some.inj (isOwn.symm.trans same)
  obtain ⟨below, isBelow, further⟩ := second
  exact ⟨below, isBelow, above.trans further⟩

theorem liesIn_working {path : List Char} (stored : Stored path) : LiesIn [] path := by
  obtain ⟨own, isOwn⟩ := exists_parent? stored
  exact ⟨own, isOwn, List.nil_prefix⟩

/-! ## Names seen from a directory -/

/-- What a path starts with that is no piece of it: the root, or the working directory by its
name. -/
def lead (path : List Char) : List Component :=
  if isAbsolute path then [.root]
  else if (pieces '/' path).head? = some ['.'] then [.current]
  else []

theorem components_eq (path : List Char) :
    components path = lead path ++ (pieces '/' path).filterMap Component.ofPiece? := by
  simp only [components, lead]
  by_cases absolute : isAbsolute path = true
  · rw [if_pos absolute, if_pos absolute, List.singleton_append]
  · rw [if_neg absolute, if_neg absolute]
    by_cases current : (pieces '/' path).head? = some ['.']
    · rw [if_pos current, if_pos current, List.singleton_append]
    · rw [if_neg current, if_neg current, List.nil_append]

/-- What follows a slash does not matter to the start. -/
theorem lead_append_slash (base rest : List Char) :
    lead (base ++ '/' :: rest) = lead (base ++ ['/']) := by
  obtain ⟨first, others, split⟩ := List.exists_cons_of_ne_nil (pieces_ne_nil '/' base)
  have absolute : isAbsolute (base ++ '/' :: rest) = isAbsolute (base ++ ['/']) := by
    cases base <;> rfl
  simp only [lead, absolute, pieces_append_cons, split, List.cons_append, List.head?_cons]

theorem lead_concat_slash {base : List Char} (some : base ≠ []) :
    lead (base ++ ['/']) = lead base := by
  obtain ⟨first, others, split⟩ := List.exists_cons_of_ne_nil (pieces_ne_nil '/' base)
  have absolute : isAbsolute (base ++ ['/']) = isAbsolute base := by
    cases base with
    | nil => exact absurd rfl some
    | cons c base => rfl
  simp only [lead, absolute, pieces_append_cons, split, List.cons_append, List.head?_cons]

/-- A name behind a slash is one component more, also where the path ends in that slash. -/
theorem components_append_name {name : List Char} (isName : IsName name) (base : List Char) :
    components (base ++ '/' :: name) = components (base ++ ['/']) ++ [.named name]
      ∧ (base ≠ [] → components (base ++ ['/']) = components base) := by
  have nothing : pieces '/' [] = [[]] := rfl
  have unseen : Component.ofPiece? [] = none := rfl
  constructor
  · rw [components_eq, components_eq, lead_append_slash, pieces_append_cons, pieces_append_cons,
      pieces_of_notMem isName.whole, nothing]
    simp [ofPiece?_of_isName isName, unseen]
  · intro some
    rw [components_eq, components_eq, lead_concat_slash some, pieces_append_cons, nothing]
    simp [unseen]

/-- A name as seen from a directory is one component more. -/
theorem components_join_name {name : List Char} (isName : IsName name) (base : List Char) :
    components (join base name) = components base ++ [.named name] := by
  have relative : ¬ isAbsolute name = true := fun absolute =>
    isName.whole (List.mem_of_mem_head? (by simpa [isAbsolute] using absolute))
  rw [join, if_neg relative]
  by_cases empty : base = []
  · subst empty
    have alone : components name = [.named name] := by
      have names : ∀ part ∈ [name], IsName part := by simpa using isName
      simpa using components_joinWith_names names
    have nothing : components [] = [] := rfl
    rw [if_pos (Or.inl rfl), List.nil_append, alone, nothing, List.nil_append]
  · by_cases slash : base.getLast? = some '/'
    · obtain ⟨front, rfl⟩ := List.getLast?_eq_some_iff.mp slash
      rw [if_pos (Or.inr slash), List.append_assoc, List.singleton_append]
      exact (components_append_name isName front).1
    · obtain ⟨longer, same⟩ := components_append_name isName base
      rw [if_neg (not_or.mpr ⟨empty, slash⟩), longer, same empty]

end Path

open CheckedBuild.Path CheckedBuild.Text

/-- An accepted path is relative and is its member's name, but for a `./` that is taken off. -/
theorem memberName_cases {path name : String} (accepted : memberName path = .ok name) :
    isAbsolute path.toList = false
      ∧ (path.toList = name.toList ∨ path.toList = '.' :: '/' :: name.toList) := by
  unfold memberName at accepted
  by_cases absolute : isAbsolute path.toList = true
  · simp [absolute] at accepted
  · by_cases different : path.toList ≠ normalize path.toList
        ∧ path.toList ≠ '.' :: '/' :: normalize path.toList
    · simp only [if_neg absolute, if_pos different, reduceCtorEq] at accepted
    · by_cases climbs : ['.', '.'] ∈ normalParts path.toList
      · simp only [if_neg absolute, if_neg different, if_pos climbs, reduceCtorEq] at accepted
      · simp only [if_neg absolute, if_neg different, if_neg climbs, Except.ok.injEq] at accepted
        rw [← accepted, String.toList_ofList]
        refine ⟨by simpa using absolute, Decidable.or_iff_not_imp_left.mpr fun other => ?_⟩
        exact Decidable.not_not.mp fun more => different ⟨other, more⟩

theorem memberName_of_stored {path : String} (stored : Stored path.toList) :
    memberName path = .ok path := by
  have level : ['.', '.'] ∉ normalParts path.toList := by
    generalize path.toList = text at stored
    cases stored with
    | current => decide
    | below parts some names =>
      rw [normalParts_joinWith some names]
      exact fun member => (names _ member).notParent rfl
  simp [memberName, isAbsolute_of_stored stored, normalize_of_stored stored, level]

/-- Below a directory the paths that are accepted are the plain ones, and they are not changed:
there is no `./` to take off. -/
theorem memberName_below_iff {directory rest : List Char} (plain : Plain directory)
    {path name : String} (below : path.toList = directory ++ '/' :: rest) :
    memberName path = .ok name ↔ Plain rest ∧ name = path := by
  constructor
  · intro accepted
    have split : pieces '/' path.toList = pieces '/' directory ++ pieces '/' rest := by
      rw [below, pieces_append_cons]
    obtain ⟨first, others, begins⟩ := List.exists_cons_of_ne_nil (pieces_ne_nil '/' directory)
    have notCurrent : first ≠ ['.'] :=
      (plain_iff_pieces.mp plain first (by simp [begins])).notCurrent
    have unmarked : ∀ text more, path.toList = text → pieces '/' text ≠ ['.'] :: more := by
      rintro text more rfl dotted
      rw [dotted, begins] at split
      exact notCurrent (List.cons.inj split).1.symm
    have same : path.toList = name.toList := by
      rcases (memberName_cases accepted).2 with same | dotted
      · exact same
      · exact absurd (pieces_append_cons '/' ['.'] name.toList) (unmarked _ _ dotted)
    have whole : Plain path.toList :=
      plain_iff_stored.mpr ⟨same ▸ stored_of_memberName accepted, fun current =>
        unmarked _ [] current (by decide)⟩
    refine ⟨plain_iff_pieces.mpr fun part member => ?_, (String.toList_inj.mp same).symm⟩
    exact plain_iff_pieces.mp whole part (split ▸ List.mem_append_right _ member)
  · rintro ⟨inner, rfl⟩
    exact memberName_of_stored (below ▸ (plain.append inner).stored)

theorem liesIn_append {directory rest : List Char} (outer : Plain directory) (inner : Plain rest) :
    LiesIn directory (directory ++ '/' :: rest) := by
  obtain ⟨parts, some, names, rfl⟩ := outer
  obtain ⟨parts', some', names', rfl⟩ := inner
  have front : ∀ part ∈ parts ++ parts'.dropLast, IsName part := List.forall_mem_append.mpr
    ⟨names, fun part member => names' part (List.dropLast_subset _ member)⟩
  refine ⟨_, parent?_append some some' names names', ?_⟩
  rw [components_joinWith_names names, components_joinWith_names front, List.map_append]
  exact List.prefix_append _ _

/-- A plain path lies in the working directory or in one that is plain itself. -/
theorem parent?_of_plain {path : List Char} (plain : Plain path) :
    parent? path = some [] ∨ ∃ directory, Plain directory ∧ parent? path = some directory := by
  obtain ⟨parts, some, names, rfl⟩ := plain
  have parent := parent?_joinWith some names
  by_cases alone : parts.dropLast = []
  · rw [alone] at parent
    exact Or.inl parent
  · exact Or.inr ⟨_, ⟨parts.dropLast, alone, fun part member =>
      names part (List.dropLast_subset _ member), rfl⟩, parent⟩

theorem join_nil (path : List Char) : join [] path = path := by
  simp [join]

theorem resolveInclude_of_parent {includer : String} {directory : List Char}
    (parent : parent? includer.toList = some directory) (spelling : String) :
    resolveInclude includer spelling = String.ofList (join directory spelling.toList) := by
  unfold resolveInclude
  rw [parent]
  cases directory with
  | nil => rw [join_nil, String.ofList_toList]
  | cons c rest => rfl

theorem join_of_relative {directory path : List Char} (outer : Plain directory)
    (relative : ¬ isAbsolute path = true) : join directory path = directory ++ '/' :: path := by
  rw [join, if_neg relative, if_neg (not_or.mpr ⟨outer.ne_nil, outer.getLast?_ne⟩)]

theorem join_of_plain {directory path : List Char} (outer : Plain directory) (inner : Plain path) :
    join directory path = directory ++ '/' :: path :=
  join_of_relative outer (by simp [isAbsolute_of_stored inner.stored])

/-- An include of a file below a directory is accepted if its spelling is plain, and in no other
case; it is then the spelling as seen from the directory. -/
theorem memberName_resolveInclude_iff {includer spelling name : String} {directory : List Char}
    (parent : parent? includer.toList = some directory) (plain : Plain directory) :
    memberName (resolveInclude includer spelling) = .ok name
      ↔ Plain spelling.toList ∧ name.toList = directory ++ '/' :: spelling.toList := by
  rw [resolveInclude_of_parent parent]
  by_cases absolute : isAbsolute spelling.toList = true
  · have rejected : memberName (String.ofList (join directory spelling.toList))
        = .error .absolute := by
      simp [memberName, join, absolute]
    have climbs : ¬ Plain spelling.toList := fun inner => by
      rw [isAbsolute_of_stored inner.stored] at absolute
      cases absolute
    simp [rejected, climbs]
  · have joined := join_of_relative plain absolute
    rw [memberName_below_iff plain (by rw [String.toList_ofList, joined])]
    refine and_congr_right fun _ => ?_
    rw [← String.toList_inj, String.toList_ofList, joined]

/-- What a file includes lies in its directory or below, if it is accepted. -/
theorem exists_liesIn_of_resolveInclude {includer spelling name : String}
    (stored : Stored includer.toList)
    (accepted : memberName (resolveInclude includer spelling) = .ok name) :
    ∃ directory, parent? includer.toList = some directory ∧ LiesIn directory name.toList := by
  have working : LiesIn [] name.toList := liesIn_working (stored_of_memberName accepted)
  by_cases current : includer.toList = ['.']
  · exact ⟨[], by rw [current]; decide, working⟩
  · rcases parent?_of_plain (plain_iff_stored.mpr ⟨stored, current⟩) with
      top | ⟨directory, plain, parent⟩
    · exact ⟨[], top, working⟩
    · obtain ⟨inner, below⟩ := (memberName_resolveInclude_iff parent plain).mp accepted
      exact ⟨directory, parent, below ▸ liesIn_append plain inner⟩

end CheckedBuild
