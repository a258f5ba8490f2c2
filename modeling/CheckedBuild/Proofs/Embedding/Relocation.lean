import CheckedBuild.Proofs.Embedding.Members
import CheckedBuild.Proofs.Embedding.Renaming
import CheckedBuild.Proofs.Path.Directories

/-!
# Sources in another directory

If all files are moved into a directory, a search for the moved sources finds the moved files. There
is one exception. A leading `./` is taken off a spelling only where nothing stands before it, so an
include with one is followed from a file in the working directory and from no other file. Between
two directories below the working directory there is no difference.
-/

namespace CheckedBuild

open CheckedBuild.Path CheckedBuild.Text

/-! ## Moved files -/

/-- The path of a file that is moved into a directory. -/
def under (directory path : String) : String := directory ++ "/" ++ path

/-- The path that a file in a directory has there. -/
def inside? (directory path : String) : Option String :=
  (after? (directory ++ "/").toList path.toList).map String.ofList

theorem toList_under (directory path : String) :
    (under directory path).toList = directory.toList ++ '/' :: path.toList := by
  simp [under]

theorem inside?_eq_some_iff {directory path inner : String} :
    inside? directory path = some inner ↔ path = under directory inner := by
  rw [inside?, Option.map_eq_some_iff, ← String.toList_inj, toList_under]
  constructor
  · rintro ⟨rest, begins, rfl⟩
    rw [after?_eq_some_iff.mp begins]
    simp
  · intro same
    exact ⟨inner.toList, after?_eq_some_iff.mpr (by simp [same]), String.ofList_toList⟩

theorem inside?_under (directory path : String) :
    inside? directory (under directory path) = some path :=
  inside?_eq_some_iff.mpr rfl

theorem under_inj {directory first second : String} :
    under directory first = under directory second ↔ first = second := by
  rw [← String.toList_inj, toList_under, toList_under, List.append_cancel_left_eq,
    List.cons_inj_right, String.toList_inj]

/-- The tree with all files moved into a directory, and no others. -/
def SourceTree.under (tree : SourceTree) (directory : String) : SourceTree where
  size path := match inside? directory path with
    | some inner => tree.size inner
    | none => .error "no such file"
  read path := match inside? directory path with
    | some inner => tree.read inner
    | none => .error "no such file"
  finite := by
    obtain ⟨paths, all⟩ := tree.finite
    refine ⟨paths.map (CheckedBuild.under directory), fun path bytes read => ?_⟩
    cases found : inside? directory path with
    | none =>
      rw [found] at read
      cases read
    | some inner =>
      rw [found] at read
      rw [inside?_eq_some_iff.mp found]
      exact List.mem_map_of_mem (all inner bytes read)

theorem embeddable?_under (tree : SourceTree) (directory path : String) :
    (tree.under directory).embeddable? (under directory path) = tree.embeddable? path := by
  simp only [Files.embeddable?, SourceTree.under, inside?_under]

namespace Discovery

/-! ## Includes -/

/-- The include is spelled with a leading `./` by a file in the working directory. -/
def Dotted (includer spelling : String) : Prop :=
  parent? includer.toList = some [] ∧ "./".toList <+: spelling.toList

/-- The path of an include whose spelling is itself a name that a file may have. -/
def settled? (includer spelling : String) : Option String :=
  if memberName spelling = .ok spelling ∧ spelling ≠ "." then
    some (resolveInclude includer spelling)
  else
    none

/-- The paths of such includes of a file. -/
def settledIncludes (name : String) (contents : Bytes) : List String :=
  (quotedIncludes contents).filterMap (settled? name)

theorem memberName_self_iff {spelling : String} :
    memberName spelling = .ok spelling ∧ spelling ≠ "." ↔ Plain spelling.toList := by
  have current : spelling ≠ "." ↔ spelling.toList ≠ ['.'] := by
    rw [ne_eq, ne_eq, ← String.toList_inj]
    rfl
  rw [plain_iff_stored, current]
  exact and_congr_left fun _ => ⟨stored_of_memberName, memberName_of_stored⟩

theorem settled?_eq_some_iff {includer spelling name : String} :
    settled? includer spelling = some name
      ↔ Plain spelling.toList ∧ resolveInclude includer spelling = name := by
  rw [settled?, ← memberName_self_iff]
  split
  · next plain => simp [plain]
  · next other => simp [other]

/-- The directory of a file that is moved: the one that it is moved into, or one below. -/
theorem parent?_under {directory path : String} (outer : Plain directory.toList)
    (inner : Plain path.toList) :
    (parent? path.toList = some []
        ∧ parent? (under directory path).toList = some directory.toList)
      ∨ ∃ own, Plain own ∧ parent? path.toList = some own
        ∧ parent? (under directory path).toList = some (directory.toList ++ '/' :: own) := by
  rw [toList_under]
  obtain ⟨parts, some, names, directoryIs⟩ := outer
  obtain ⟨parts', some', names', pathIs⟩ := inner
  have whole := parent?_append some some' names names'
  rw [← directoryIs, ← pathIs] at whole
  have own := parent?_joinWith some' names'
  rw [← pathIs] at own
  by_cases alone : parts'.dropLast = []
  · left
    rw [alone, List.append_nil, ← directoryIs] at whole
    rw [alone] at own
    exact ⟨own, whole⟩
  · right
    rw [joinWith_append some alone, List.append_assoc, List.singleton_append, ← directoryIs]
      at whole
    exact ⟨_, ⟨parts'.dropLast, alone, fun part member =>
      names' part (List.dropLast_subset _ member), rfl⟩, own, whole⟩

/-- A file in another directory includes what it includes by settled spellings, and nothing else. -/
theorem toOption_memberName_under {directory includer : String} (outer : Plain directory.toList)
    (inner : Plain includer.toList) (spelling : String) :
    (memberName (resolveInclude (under directory includer) spelling)).toOption
      = (settled? includer spelling).map (under directory) := by
  have moved : ∀ name,
      (∃ path, settled? includer spelling = some path ∧ under directory path = name)
      ↔ Plain spelling.toList
        ∧ name.toList = directory.toList ++ '/' :: (resolveInclude includer spelling).toList := by
    intro name
    constructor
    · rintro ⟨path, settled, rfl⟩
      obtain ⟨plain, rfl⟩ := settled?_eq_some_iff.mp settled
      exact ⟨plain, toList_under _ _⟩
    · rintro ⟨plain, same⟩
      refine ⟨_, settled?_eq_some_iff.mpr ⟨plain, rfl⟩, ?_⟩
      rw [← String.toList_inj, toList_under, same]
  ext name
  rw [toOption_eq_some_iff, Option.map_eq_some_iff, moved]
  rcases parent?_under outer inner with ⟨top, parent⟩ | ⟨own, plain, below, parent⟩
  · rw [memberName_resolveInclude_iff parent outer, resolveInclude_of_parent top, join_nil,
      String.toList_ofList]
  · rw [memberName_resolveInclude_iff parent (outer.append plain)]
    refine and_congr_right fun spelled => ?_
    rw [resolveInclude_of_parent below, String.toList_ofList, join_of_plain plain spelled,
      List.append_assoc, List.cons_append]

/-- A file in the working directory or below includes the same, apart from `.` and from what has a
leading `./`. -/
theorem filter_toOption_memberName {includer spelling : String} (inner : Plain includer.toList)
    (undotted : ¬ Dotted includer spelling) :
    (memberName (resolveInclude includer spelling)).toOption.filter (· != ".")
      = settled? includer spelling := by
  ext name
  rw [Option.filter_eq_some_iff, toOption_eq_some_iff, settled?_eq_some_iff, bne_iff_ne]
  rcases parent?_of_plain inner with top | ⟨own, plain, parent⟩
  · rw [resolveInclude_of_parent top, join_nil, String.ofList_toList]
    constructor
    · rintro ⟨accepted, further⟩
      have same : spelling.toList = name.toList := by
        rcases (memberName_cases accepted).2 with same | dotted
        · exact same
        · exact absurd ⟨top, name.toList, dotted.symm⟩ undotted
      obtain rfl := String.toList_inj.mp same
      exact ⟨(memberName_self_iff.mp ⟨accepted, further⟩), rfl⟩
    · rintro ⟨spelled, rfl⟩
      exact memberName_self_iff.mpr spelled
  · rw [memberName_resolveInclude_iff parent plain, resolveInclude_of_parent parent]
    constructor
    · rintro ⟨⟨spelled, same⟩, -⟩
      refine ⟨spelled, ?_⟩
      rw [join_of_plain plain spelled, ← same, String.ofList_toList]
    · rintro ⟨spelled, rfl⟩
      rw [join_of_plain plain spelled]
      refine ⟨⟨spelled, String.toList_ofList⟩, ?_⟩
      exact (memberName_self_iff.mpr (by rw [String.toList_ofList]; exact plain.append spelled)).2

theorem plain_of_settled? {includer spelling name : String} (inner : Plain includer.toList)
    (settled : settled? includer spelling = some name) : Plain name.toList := by
  obtain ⟨spelled, rfl⟩ := settled?_eq_some_iff.mp settled
  rcases parent?_of_plain inner with top | ⟨own, plain, parent⟩
  · rwa [resolveInclude_of_parent top, join_nil, String.ofList_toList]
  · rw [resolveInclude_of_parent parent, String.toList_ofList, join_of_plain plain spelled]
    exact plain.append spelled

theorem accepted_includesOf (name : String) (contents : Bytes) :
    accepted (includesOf name contents) = (quotedIncludes contents).filterMap fun spelling =>
      (memberName (resolveInclude name spelling)).toOption :=
  List.filterMap_map

theorem accepted_includesOf_under {directory includer : String} (outer : Plain directory.toList)
    (inner : Plain includer.toList) (contents : Bytes) :
    accepted (includesOf (under directory includer) contents)
      = (settledIncludes includer contents).map (under directory) := by
  rw [accepted_includesOf, settledIncludes, List.map_filterMap]
  exact List.filterMap_congr fun spelling _ => toOption_memberName_under outer inner spelling

theorem filter_accepted_includesOf {includer : String} (inner : Plain includer.toList)
    {contents : Bytes}
    (undotted : ∀ spelling ∈ quotedIncludes contents, ¬ Dotted includer spelling) :
    (accepted (includesOf includer contents)).filter (· != ".")
      = settledIncludes includer contents := by
  rw [accepted_includesOf, settledIncludes, List.filter_filterMap]
  exact List.filterMap_congr fun spelling member =>
    filter_toOption_memberName inner (undotted spelling member)

theorem plain_iff_ne_current {name : String} (stored : Stored name.toList) :
    Plain name.toList ↔ name ≠ "." := by
  rw [← memberName_self_iff]
  exact and_iff_right (memberName_of_stored stored)

/-- Of the names that files have in the working directory all but `.` are accepted in another. -/
theorem accepted_map_under {directory : String} (outer : Plain directory.toList)
    {names : List String} (stored : ∀ name ∈ names, Stored name.toList) :
    accepted (names.map (under directory))
      = (names.filter (· != ".")).map (under directory) := by
  rw [accepted, List.filterMap_map, ← List.filterMap_eq_map, List.filterMap_filter]
  refine List.filterMap_congr fun name member => ?_
  ext path
  rw [Function.comp_apply, toOption_eq_some_iff, memberName_below_iff outer (toList_under _ _),
    plain_iff_ne_current (stored name member), ← bne_iff_ne]
  split
  · next further => simp [further, eq_comm]
  · next current => simp [current]

/-! ## Moved searches -/

/-- A file under the path that it is moved to. -/
def moved (directory : String) (file : Found) : Found := (under directory file.1, file.2)

theorem moved_inj {directory : String} {first second : Found} :
    moved directory first = moved directory second ↔ first = second := by
  simp [moved, Prod.ext_iff, under_inj]

/-- Between two directories a search finds the same. -/
theorem renames_between (tree : SourceTree) {directory directory' : String}
    (outer : Plain directory.toList) (outer' : Plain directory'.toList) :
    Renames (tree.under directory).toFiles (tree.under directory').toFiles
      (fun path => (inside? directory path).map (under directory'))
      (fun path => ∃ name, Plain name.toList ∧ path = under directory name) where
  injective first second name one other := by
    obtain ⟨inner, found, rfl⟩ := Option.map_eq_some_iff.mp one
    obtain ⟨inner', found', same⟩ := Option.map_eq_some_iff.mp other
    rw [inside?_eq_some_iff.mp found, inside?_eq_some_iff.mp found', under_inj.mp same]
  embeddable path := by
    rintro ⟨name, -, rfl⟩
    simp [inside?_under, embeddable?_under]
  includes path name' contents := by
    rintro ⟨name, inner, rfl⟩ named -
    rw [inside?_under, Option.map_some, Option.some.injEq] at named
    rw [← named, accepted_includesOf_under outer' inner, accepted_includesOf_under outer inner,
      List.filterMap_map, ← List.filterMap_eq_map]
    exact List.filterMap_congr fun path _ => by simp [inside?_under]
  fits path contents := by
    rintro ⟨name, inner, rfl⟩ - other included
    rw [accepted_includesOf_under outer inner] at included
    obtain ⟨path, settles, rfl⟩ := List.mem_map.mp included
    obtain ⟨spelling, -, settled⟩ := List.mem_filterMap.mp settles
    exact ⟨path, plain_of_settled? inner settled, rfl⟩

/-- The path that a file is moved to, unless it has the path `.`. -/
def moved? (directory path : String) : Option String :=
  if path = "." then none else some (under directory path)

theorem filterMap_moved? (directory : String) (paths : List String) :
    paths.filterMap (moved? directory) = (paths.filter (· != ".")).map (under directory) := by
  rw [← List.filterMap_eq_map, List.filterMap_filter]
  refine List.filterMap_congr fun path _ => ?_
  by_cases current : path = "." <;> simp [moved?, current]

theorem moved?_of_plain {directory path : String} (inner : Plain path.toList) :
    moved? directory path = some (under directory path) :=
  if_neg (memberName_self_iff.mpr inner).2

/-- A name that files have, and if there is one under it, it can be reached. -/
structure Fitting (files : Files) (sources : List String) (name : String) : Prop where
  stored : Stored name.toList
  reached : ∀ contents, files.embeddable? name = some contents →
    Reached files sources (name, contents)

theorem plain_of_embeddable {files : Files} (unreadable : files.embeddable? "." = none)
    {name : String} (stored : Stored name.toList) {contents : Bytes}
    (had : files.embeddable? name = some contents) : Plain name.toList := by
  refine (plain_iff_ne_current stored).mpr ?_
  rintro rfl
  rw [unreadable] at had
  cases had

/-- Without a leading `./` in the working directory a search finds the same in a directory. -/
theorem renames_under {tree : SourceTree} (unreadable : tree.embeddable? "." = none)
    {directory : String} (outer : Plain directory.toList) {sources : List String}
    (undotted : ∀ file, Reached tree.toFiles sources file →
      ∀ spelling ∈ quotedIncludes file.2, ¬ Dotted file.1 spelling) :
    Renames tree.toFiles (tree.under directory).toFiles (moved? directory)
      (Fitting tree.toFiles sources) where
  injective first second name one other := by
    unfold moved? at one other
    split at one
    · cases one
    · split at other
      · cases other
      · exact under_inj.mp (Option.some.inj (one.trans other.symm))
  embeddable path fitting := by
    unfold moved?
    split
    · next current => rw [current, unreadable]; rfl
    · exact (embeddable?_under tree directory path).symm
  includes path path' contents fitting named had := by
    have inner := plain_of_embeddable unreadable fitting.stored had
    rw [moved?_of_plain inner, Option.some.injEq] at named
    have plain := filter_accepted_includesOf inner
      (undotted (path, contents) (fitting.reached contents had))
    rw [← named, accepted_includesOf_under outer inner, filterMap_moved?, plain]
  fits path contents fitting had other included := by
    obtain ⟨candidate, resolved, named⟩ := mem_accepted.mp included
    obtain ⟨spelling, spelled, rfl⟩ := List.mem_map.mp resolved
    exact ⟨stored_of_memberName named, fun contents' had' =>
      .included (fitting.reached contents had) spelled named had'⟩

/-! ## Moved sources -/

/-- A file can be reached from the sources by settled includes. -/
inductive ReachedSettled (files : Files) (sources : List String) : Found → Prop
  | listed {source name : String} {contents : Bytes} (given : source ∈ sources)
      (named : memberName source = .ok name) (had : files.embeddable? name = some contents) :
      ReachedSettled files sources (name, contents)
  | included {includer : Found} {spelling name : String} {contents : Bytes}
      (reached : ReachedSettled files sources includer)
      (spelled : spelling ∈ quotedIncludes includer.2)
      (settled : settled? includer.1 spelling = some name)
      (had : files.embeddable? name = some contents) :
      ReachedSettled files sources (name, contents)

section

variable {tree : SourceTree} {directory : String} {sources : List String}

theorem ReachedSettled.plain (unreadable : tree.embeddable? "." = none) {file : Found}
    (reached : ReachedSettled tree.toFiles sources file) : Plain file.1.toList := by
  induction reached with
  | listed given named had => exact plain_of_embeddable unreadable (stored_of_memberName named) had
  | included reached spelled settled had ih => exact plain_of_settled? ih settled

theorem reached_moved (unreadable : tree.embeddable? "." = none) (outer : Plain directory.toList)
    {file : Found} (reached : ReachedSettled tree.toFiles sources file) :
    Reached (tree.under directory).toFiles ((accepted sources).map (under directory))
      (moved directory file) := by
  induction reached with
  | @listed source name contents given named had =>
    have inner := (ReachedSettled.listed given named had).plain unreadable
    have moves : memberName (under directory name) = .ok (under directory name) :=
      (memberName_below_iff outer (toList_under directory name)).mpr ⟨inner, rfl⟩
    have among : under directory name ∈ (accepted sources).map (under directory) :=
      List.mem_map_of_mem (mem_accepted.mpr ⟨source, given, named⟩)
    exact .listed among moves ((embeddable?_under tree directory name).trans had)
  | @included includer spelling name contents reached spelled settled had ih =>
    have followed := toOption_memberName_under outer (reached.plain unreadable) spelling
    rw [settled, Option.map_some, toOption_eq_some_iff] at followed
    exact .included ih spelled followed ((embeddable?_under tree directory name).trans had)

theorem exists_of_reached_under (unreadable : tree.embeddable? "." = none)
    (outer : Plain directory.toList) {file' : Found}
    (reached : Reached (tree.under directory).toFiles ((accepted sources).map (under directory))
      file') :
    ∃ file, ReachedSettled tree.toFiles sources file ∧ moved directory file = file' := by
  induction reached with
  | @listed source name' contents given named had =>
    obtain ⟨name, among, rfl⟩ := List.mem_map.mp given
    obtain ⟨source, given, entered⟩ := mem_accepted.mp among
    obtain ⟨-, rfl⟩ := (memberName_below_iff outer (toList_under directory name)).mp named
    rw [embeddable?_under] at had
    exact ⟨(name, contents), .listed given entered had, rfl⟩
  | @included includer' spelling name' contents _ spelled named had ih =>
    obtain ⟨includer, reached, rfl⟩ := ih
    have followed := toOption_memberName_under outer (reached.plain unreadable) spelling
    have named : memberName (resolveInclude (under directory includer.1) spelling) = .ok name' :=
      named
    rw [toOption_eq_some_iff.mpr named] at followed
    obtain ⟨name, settled, rfl⟩ := Option.map_eq_some_iff.mp followed.symm
    rw [embeddable?_under] at had
    exact ⟨(name, contents), .included reached spelled settled had, rfl⟩

theorem renameFound?_inside? {file file' : Found} :
    renameFound? (inside? directory) file' = some file ↔ file' = moved directory file := by
  rw [renameFound?, Option.map_eq_some_iff]
  constructor
  · rintro ⟨name, found, rfl⟩
    exact Prod.ext (inside?_eq_some_iff.mp found) rfl
  · rintro rfl
    exact ⟨file.1, inside?_under directory file.1, rfl⟩

/-- What a search in one directory finds, a search in another finds there. -/
theorem found_collect_between (outer : Plain directory.toList) {directory' : String}
    (outer' : Plain directory'.toList) :
    (collect (tree.under directory') ((accepted sources).map (under directory'))).found
      = ((collect (tree.under directory) ((accepted sources).map (under directory))).found.filterMap
        (renameFound? (inside? directory))).map (moved directory') := by
  have stored : ∀ name ∈ accepted sources, Stored name.toList :=
    fun name member => stored_of_mem_accepted member
  have begins := accepted_map_under outer stored
  rw [List.map_filterMap, found_collect_of_renames (renames_between tree outer outer')]
  · refine List.filterMap_congr fun file _ => ?_
    simp [renameFound?, moved, Function.comp_def]
  · rw [begins, accepted_map_under outer' stored, List.filterMap_map, ← List.filterMap_eq_map]
    exact List.filterMap_congr fun path _ => by simp [inside?_under]
  · intro name member
    rw [begins] at member
    obtain ⟨inner, further, rfl⟩ := List.mem_map.mp member
    obtain ⟨among, notCurrent⟩ := List.mem_filter.mp further
    exact ⟨inner, (plain_iff_ne_current (stored inner among)).mpr (bne_iff_ne.mp notCurrent), rfl⟩

/-- What a search in the working directory finds, a search in another directory finds there, if no
leading `./` is met with. -/
theorem found_collect_undotted (unreadable : tree.embeddable? "." = none)
    (outer : Plain directory.toList)
    (undotted : ∀ file ∈ (collect tree sources).found, ∀ spelling ∈ quotedIncludes file.2,
      ¬ Dotted file.1 spelling) :
    (collect (tree.under directory) ((accepted sources).map (under directory))).found.filterMap
        (renameFound? (inside? directory))
      = (collect tree sources).found := by
  have fits : ∀ name ∈ accepted sources, Fitting tree.toFiles sources name := by
    intro name member
    obtain ⟨source, given, named⟩ := mem_accepted.mp member
    exact ⟨stored_of_memberName named, fun contents had => .listed given named had⟩
  have renames := renames_under unreadable outer fun file reached =>
    undotted file ((mem_collect_iff tree sources file).mpr reached)
  have begins : accepted ((accepted sources).map (under directory))
      = (accepted sources).filterMap (moved? directory) := by
    rw [filterMap_moved?, accepted_map_under outer fun name member => (fits name member).stored]
  have back : ∀ file ∈ (collect tree sources).found,
      (renameFound? (moved? directory) file).bind (renameFound? (inside? directory))
        = some file := by
    intro file member
    have had := ((mem_collect_iff tree sources file).mp member).had
    have inner := plain_of_embeddable unreadable (embeddable_of_mem_collect file member).stored had
    have renamed : renameFound? (moved? directory) file = some (moved directory file) := by
      rw [renameFound?, moved?_of_plain inner]
      rfl
    rw [renamed]
    exact renameFound?_inside?.mpr rfl
  rw [found_collect_of_renames renames begins fits, List.filterMap_filterMap,
    List.filterMap_congr back, List.filterMap_some]

/-- Wherever the directory lies that all files are moved into, a search for the moved sources finds
the same files there, in the same order: those that can be reached by settled includes. They are the
files found in the working directory if no file there includes another one with a leading `./`. -/
theorem found_collect_under {tree : SourceTree} (unreadable : ∀ bytes, tree.read "." ≠ .ok bytes)
    (sources : List String) :
    ∃ inner : List Found,
      (∀ directory : String, Plain directory.toList →
          (collect (tree.under directory) ((accepted sources).map (under directory))).found
            = inner.map fun file => (under directory file.1, file.2))
        ∧ (∀ file, file ∈ inner ↔ ReachedSettled tree.toFiles sources file)
        ∧ ((∀ file ∈ (collect tree sources).found, ∀ spelling ∈ quotedIncludes file.2,
            ¬ Dotted file.1 spelling) → inner = (collect tree sources).found) := by
  have absent : tree.embeddable? "." = none :=
    Option.eq_none_iff_forall_ne_some.mpr fun bytes had =>
      unreadable bytes (read_of_embeddable? had)
  -- Any directory will do to find these files in, since a search finds the same in all of them.
  obtain ⟨base, outer⟩ : ∃ base : String, Plain base.toList :=
    ⟨"d", memberName_self_iff.mp (by decide)⟩
  refine ⟨(collect (tree.under base) ((accepted sources).map (under base))).found.filterMap
    (renameFound? (inside? base)), ?_, fun file => ?_, ?_⟩
  · exact fun directory outer' => found_collect_between outer outer'
  · simp only [List.mem_filterMap, renameFound?_inside?, exists_eq_right, mem_collect_iff]
    constructor
    · intro reached
      obtain ⟨file', settled, same⟩ := exists_of_reached_under absent outer reached
      rwa [← moved_inj.mp same]
    · exact reached_moved absent outer
  · exact found_collect_undotted absent outer

end

theorem unreadable_preparedTree {files : List Machine.PreparedFile}
    (named : ∀ file ∈ files, file.path ≠ ".") (bytes : Bytes) :
    (Machine.preparedTree files).read "." ≠ .ok bytes := by
  intro read
  obtain ⟨file, among, current, -⟩ := exists_prepared_of_read read
  exact named file among current

/-- A source that includes a header by a settled spelling, moved into a directory. -/
theorem found_collect_under_header :
    let tree := Machine.preparedTree
      [{ path := "main.c", contents := Utf8.bytesOf "#include \"inc/a.h\"\n" },
       { path := "inc/a.h", contents := [] }]
    (∀ bytes, tree.read "." ≠ .ok bytes) ∧ Plain "lib".toList
      ∧ (collect (tree.under "lib") ((accepted ["./main.c"]).map (under "lib"))).found
        = (collect tree ["./main.c"]).found.map fun file => (under "lib" file.1, file.2) := by
  intro tree
  have unreadable : ∀ bytes, tree.read "." ≠ .ok bytes := unreadable_preparedTree (by decide)
  have outer : Plain "lib".toList := memberName_self_iff.mp (by decide)
  obtain ⟨inner, moves, -, same⟩ := found_collect_under unreadable ["./main.c"]
  refine ⟨unreadable, outer, ?_⟩
  rw [moves "lib" outer, same]
  rintro file found spelling spelled ⟨-, dotted⟩
  have spellings : quotedIncludes (Utf8.bytesOf "#include \"inc/a.h\"\n") = ["inc/a.h"] := by
    decide +kernel
  obtain ⟨prepared, among, -, read⟩ :=
    exists_prepared_of_read (embeddable_of_mem_collect file found).read
  simp only [List.mem_cons, List.not_mem_nil, or_false] at among
  rcases among with rfl | rfl
  · have contents : Except.ok (Utf8.bytesOf "#include \"inc/a.h\"\n") = Except.ok file.2 := read
    rw [← Except.ok.inj contents, spellings, List.mem_singleton] at spelled
    rw [spelled] at dotted
    exact absurd dotted (by decide)
  · have contents : Except.ok [] = Except.ok file.2 := read
    rw [← Except.ok.inj contents] at spelled
    cases spelled

/-- A source that includes a header with a leading `./`, moved into a directory: there the header is
not found. -/
theorem found_collect_under_ne :
    let tree := Machine.preparedTree
      [{ path := "main.c", contents := Utf8.bytesOf "#include \"./util.h\"\n" },
       { path := "util.h", contents := [] }]
    (∀ bytes, tree.read "." ≠ .ok bytes) ∧ Plain "lib".toList
      ∧ (collect (tree.under "lib") ((accepted ["main.c"]).map (under "lib"))).found
        ≠ (collect tree ["main.c"]).found.map fun file => (under "lib" file.1, file.2) := by
  intro tree
  refine ⟨unreadable_preparedTree (by decide), memberName_self_iff.mp (by decide), fun same => ?_⟩
  have spellings : quotedIncludes (Utf8.bytesOf "#include \"./util.h\"\n") = ["./util.h"] := by
    decide +kernel
  have source : Reached tree.toFiles ["main.c"]
      ("main.c", Utf8.bytesOf "#include \"./util.h\"\n") :=
    .listed List.mem_cons_self (by decide) (by decide)
  have header : ("util.h", []) ∈ (collect tree ["main.c"]).found :=
    (mem_collect_iff _ _ _).mpr
      (.included source (spellings ▸ List.mem_cons_self) (by decide) (by decide))
  have alone : ∀ file, Reached (tree.under "lib").toFiles
      ((accepted ["main.c"]).map (under "lib")) file → file.1 = "lib/main.c" := by
    intro file reached
    induction reached with
    | @listed source name contents given named had =>
      have listed : (accepted ["main.c"]).map (under "lib") = ["lib/main.c"] := by decide
      rw [listed, List.mem_singleton] at given
      rw [given, show memberName "lib/main.c" = .ok "lib/main.c" by decide] at named
      exact (Except.ok.inj named).symm
    | @included includer spelling name contents reached spelled named had ih =>
      have main : (tree.under "lib").embeddable? "lib/main.c"
          = some (Utf8.bytesOf "#include \"./util.h\"\n") := by
        decide
      have contents := reached.had
      rw [ih, main, Option.some.injEq] at contents
      rw [← contents, spellings, List.mem_singleton] at spelled
      have rejected : memberName (resolveInclude "lib/main.c" "./util.h")
          = .error (.notNormalized "lib/util.h") := by
        decide
      rw [ih, spelled, rejected] at named
      cases named
  have found : (under "lib" "util.h", [])
      ∈ (collect (tree.under "lib") ((accepted ["main.c"]).map (under "lib"))).found :=
    same ▸ List.mem_map_of_mem header
  exact absurd (alone _ ((mem_collect_iff _ _ _).mp found)) (by decide)

end Discovery

end CheckedBuild
