import CheckedBuild.Embedding.Archive
import CheckedBuild.Machine.Prepared
import CheckedBuild.Proofs.Archive.StoredNames
import CheckedBuild.Proofs.Embedding.Turns

/-!
# Members of the embedded archive

What is discovered lies under a name that a file may be stored under, and can be read there. The
helper scripts have such names too. So the archive can be made unless a readable path has a zero
byte in it.
-/

namespace CheckedBuild

open CheckedBuild.Path CheckedBuild.Text

namespace Discovery

theorem stored_of_mem_accepted {candidates : List String} {name : String}
    (member : name ∈ accepted candidates) : Stored name.toList := by
  obtain ⟨candidate, -, named⟩ := mem_accepted.mp member
  exact stored_of_memberName named

/-- A file that may be embedded: its name, and what is there. -/
structure Embeddable (files : Files) (file : Found) : Prop where
  stored : Stored file.1.toList
  read : files.read file.1 = .ok file.2

/-- A search visits names that files may be stored under, and finds files that may be embedded. -/
structure Storable (files : Files) (state : State) : Prop where
  pending : ∀ name ∈ state.pending, Stored name.toList
  found : ∀ file ∈ state.report.found, Embeddable files file

theorem storable_start (files : Files) (sources : List String) : Storable files (start sources) :=
  ⟨fun _ member => stored_of_mem_accepted member, by simp [start]⟩

theorem storable_of_turn {files : Files} {state next : State} (storable : Storable files state)
    (taken : Turn files state next) : Storable files next := by
  obtain ⟨pending, found⟩ := storable
  cases taken with
  | drop seen => exact ⟨(List.forall_mem_cons.mp pending).2, found⟩
  | pass new reading =>
    exact ⟨(List.forall_mem_cons.mp pending).2, by simpa [Report.followedBy] using found⟩
  | find new reading =>
    obtain ⟨first, others⟩ := List.forall_mem_cons.mp pending
    refine ⟨fun later member => ?_, fun file member => ?_⟩
    · rcases List.mem_append.mp member with included | listed
      · exact stored_of_mem_accepted included
      · exact others later listed
    · rcases List.mem_append.mp member with before | added
      · exact found file before
      · obtain rfl := List.mem_singleton.mp added
        exact ⟨first, read_of_embeddable? (readLimited_cases reading).1.symm⟩

theorem storable_of_reaches {files : Files} {state later : State} (storable : Storable files state)
    (reaches : Reaches files state later) : Storable files later := by
  induction reaches with
  | refl => exact storable
  | tail _ taken ih => exact storable_of_turn ih taken

theorem embeddable_of_mem_collect {tree : SourceTree} {sources : List String} :
    ∀ file ∈ (collect tree sources).found, Embeddable tree.toFiles file := by
  obtain ⟨last, reaches, -, report⟩ := exists_reaches_search tree (start sources)
  rw [collect, ← report]
  exact (storable_of_reaches (storable_start _ _) reaches).found

end Discovery

theorem Members.mem_put {members : Members} {name : String} {contents : Bytes}
    {member : Discovery.Found} (h : member ∈ members.put name contents) :
    member = (name, contents) ∨ member ∈ members := by
  unfold Members.put at h
  by_cases present : members.any (·.1 == name) = true
  · rw [if_pos present] at h
    obtain ⟨before, among, rfl⟩ := List.mem_map.mp h
    by_cases replaced : (before.1 == name) = true
    · simp [replaced]
    · simp [replaced, among]
  · rw [if_neg present] at h
    rcases List.mem_append.mp h with before | added
    · exact Or.inr before
    · exact Or.inl (List.mem_singleton.mp added)

theorem mem_addHelpers {tree : SourceTree} {directory : String} {scripts : List String}
    {members : Members} {member : Discovery.Found}
    (h : member ∈ (addHelpers tree directory scripts members).1) :
    member.1 ∈ scripts ∨ member ∈ members := by
  induction scripts generalizing members with
  | nil => exact Or.inr h
  | cons script rest ih =>
    unfold addHelpers at h
    cases read : tree.read (joinText directory script) with
    | ok contents =>
      simp only [read] at h
      rcases ih h with later | before
      · exact Or.inl (List.mem_cons_of_mem _ later)
      · rcases Members.mem_put before with rfl | before
        · exact Or.inl List.mem_cons_self
        · exact Or.inr before
    | error reason =>
      simp only [read] at h
      exact (ih h).imp_left (List.mem_cons_of_mem _)

theorem stored_of_mem_helperScripts {script : String} (member : script ∈ helperScripts) :
    Stored script.toList ∧ '\x00' ∉ script.toList := by
  have named : script.toList ≠ [] ∧ script.toList ≠ ['.'] ∧ script.toList ≠ ['.', '.']
      ∧ '/' ∉ script.toList ∧ '\x00' ∉ script.toList := by
    revert script
    decide
  obtain ⟨nonempty, notCurrent, notParent, whole, noZero⟩ := named
  refine ⟨?_, noZero⟩
  rw [← joinWith_singleton ['/'] script.toList]
  exact .below _ (by simp) (by simpa using ⟨nonempty, notCurrent, notParent, whole⟩)

/-- No path that can be read has a zero byte in it. -/
def SourceTree.ZeroFree (tree : SourceTree) : Prop :=
  ∀ path bytes, tree.read path = .ok bytes → '\x00' ∉ path.toList

/-- What can be read in a prepared tree is one of the files it was prepared with. -/
theorem exists_prepared_of_read {files : List Machine.PreparedFile} {path : String} {bytes : Bytes}
    (read : (Machine.preparedTree files).read path = .ok bytes) :
    ∃ file ∈ files, file.path = path ∧ file.read = .ok bytes := by
  have prepared : (Machine.preparedFile files path >>= Machine.PreparedFile.read) = .ok bytes := read
  unfold Machine.preparedFile at prepared
  cases found : files.find? (·.path == path) with
  | none =>
    rw [found] at prepared
    cases prepared
  | some file =>
    rw [found] at prepared
    exact ⟨file, List.mem_of_find?_eq_some found, by simpa using List.find?_some found, prepared⟩

theorem zeroFree_preparedTree {files : List Machine.PreparedFile}
    (named : ∀ file ∈ files, '\x00' ∉ file.path.toList) :
    (Machine.preparedTree files).ZeroFree := by
  intro path bytes read
  obtain ⟨file, among, rfl, -⟩ := exists_prepared_of_read read
  exact named file among

theorem SourceTree.ZeroFree.stored {tree : SourceTree} (zeroFree : tree.ZeroFree)
    (directory : String) (sources : List String) {member : Discovery.Found}
    (among : member ∈
      (addHelpers tree directory helperScripts (Discovery.collect tree sources).found).1) :
    Stored member.1.toList ∧ '\x00' ∉ member.1.toList := by
  rcases mem_addHelpers among with helper | found
  · exact stored_of_mem_helperScripts helper
  · obtain ⟨stored, read⟩ := Discovery.embeddable_of_mem_collect member found
    exact ⟨stored, zeroFree _ _ read⟩

/-- The archive can be made unless a readable path has a zero byte in it. -/
theorem exists_embed {tree : SourceTree} (zeroFree : tree.ZeroFree)
    (directory : String) (sources : List String) :
    ∃ bytes, (embed tree directory sources).1 = .ok bytes := by
  obtain ⟨bytes, streamed⟩ := Tar.exists_stream
    (fun _ among => (zeroFree.stored directory sources among).1)
    fun _ among => (zeroFree.stored directory sources among).2
  refine ⟨Gzip.pack bytes, ?_⟩
  simp only [embed, Members.pack, streamed]
  rfl

end CheckedBuild
