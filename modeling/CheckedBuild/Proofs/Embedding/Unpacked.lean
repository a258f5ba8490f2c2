import CheckedBuild.Proofs.Archive.Entries
import CheckedBuild.Proofs.Archive.Unpacking
import CheckedBuild.Proofs.Embedding.Helpers

/-!
# The embedded archive unpacked

Whatever is embedded can be unpacked: the archive gives back the files found and the helpers, in
order, with their names and contents. That a path with a zero byte cannot be read is needed, since
such a name cannot be stored.
-/

namespace CheckedBuild

/-- No text and no sequence of bytes is longer than this. -/
def longestBytes : Nat := 2 ^ 63 - 1

/-- A member that can be held in memory. -/
structure Members.Held (member : Discovery.Found) : Prop where
  name : (Utf8.bytesOf member.1).length ≤ longestBytes
  contents : member.2.length ≤ longestBytes

/-- The archive of any sources unpacks to a stream of records and two blocks of zeros, which is read
as the files found, overlaid by the helpers: each an ordinary file of mode 644 without a time. -/
theorem entries_unpacked_embed {tree : SourceTree} (zeroFree : tree.ZeroFree)
    (directory : String) (sources : List String)
    (held : ∀ member ∈ tree.members directory sources, Members.Held member) :
    ∃ packed stream records, (embed tree directory sources).1 = .ok packed
      ∧ Gzip.unpack? packed = some stream
      ∧ stream = records ++ List.replicate (2 * Tar.blockSize) 0
      ∧ Tar.readEntries (stream.length / Tar.blockSize + 2) {} true stream
        = ((tree.members directory sources).map fun member =>
            ⟨Utf8.bytesOf member.1, .file, 0o644, 0, member.2⟩, none) := by
  have storable : ∀ member ∈ tree.members directory sources, Tar.Storable member := by
    intro member among
    obtain ⟨name, contents⟩ := held member among
    rw [SourceTree.members, ← addHelpers_fst tree directory (by decide)] at among
    obtain ⟨stored, noZero⟩ := zeroFree.stored directory sources among
    refine ⟨stored, noZero, ?_, ?_⟩ <;> simp only [longestBytes] at * <;> omega
  obtain ⟨stream, streamed⟩ := Tar.exists_stream
    (fun member among => (storable member among).stored) fun member among => (storable member among).noZero
  obtain ⟨records, ends⟩ := Tar.exists_records_of_stream streamed
  have packed : (embed tree directory sources).1 = .ok (Gzip.pack stream) := by
    rw [embed_fst, Members.pack, streamed]
    rfl
  refine ⟨_, stream, records, packed, Gzip.unpack?_pack stream, ends, ?_⟩
  refine Tar.readEntries_stream storable streamed ?_ true
  simp only [Tar.blockSize]
  omega

/-- A source with a helper's name, and another helper beside it. -/
theorem entries_unpacked_embed_of_same_name :
    let tree := Machine.preparedTree
      [{ path := "colors.py", contents := Utf8.bytesOf "x = 1\n" },
       { path := "h/start_gdb.py", contents := Utf8.bytesOf "y = 2\n" },
       { path := "h/colors.py", contents := Utf8.bytesOf "# colors\nz = 3\n" }]
    tree.members "h" ["./colors.py"]
        = [("colors.py", Utf8.bytesOf "z = 3\n"), ("start_gdb.py", Utf8.bytesOf "y = 2\n")]
      ∧ tree.ZeroFree ∧ (∀ member ∈ tree.members "h" ["./colors.py"], Members.Held member)
      ∧ ∃ packed stream records, (embed tree "h" ["./colors.py"]).1 = .ok packed
        ∧ Gzip.unpack? packed = some stream
        ∧ stream = records ++ List.replicate (2 * Tar.blockSize) 0
        ∧ Tar.readEntries (stream.length / Tar.blockSize + 2) {} true stream
          = ((tree.members "h" ["./colors.py"]).map fun member =>
              ⟨Utf8.bytesOf member.1, .file, 0o644, 0, member.2⟩, none) := by
  intro tree
  have zeroFree : tree.ZeroFree := zeroFree_preparedTree (by decide)
  have found : (Discovery.collect tree ["./colors.py"]).found
      = [("colors.py", Utf8.bytesOf "x = 1\n")] := by
    have begins : Discovery.start ["./colors.py"] = ⟨[], ["colors.py"], {}⟩ := rfl
    have taken : Discovery.Turn tree.toFiles ⟨[], ["colors.py"], {}⟩ _ := .find (by decide) rfl
    have plain : Discovery.includesOf "colors.py" (Utf8.bytesOf "x = 1\n") = [] := by
      decide +kernel
    rw [plain] at taken
    rw [Discovery.collect, begins, Discovery.search_of_turn taken, Discovery.search_of_done rfl]
    rfl
  have members : tree.members "h" ["./colors.py"]
      = [("colors.py", Utf8.bytesOf "z = 3\n"), ("start_gdb.py", Utf8.bytesOf "y = 2\n")] := by
    rw [SourceTree.members, found]
    decide +kernel
  have held : ∀ member ∈ tree.members "h" ["./colors.py"], Members.Held member := by
    intro member among
    rw [members] at among
    have short : (Utf8.bytesOf member.1).length ≤ 64 ∧ member.2.length ≤ 64 := by
      revert member
      decide
    exact ⟨Nat.le_trans short.1 (by decide), Nat.le_trans short.2 (by decide)⟩
  exact ⟨members, zeroFree, held, entries_unpacked_embed zeroFree "h" ["./colors.py"] held⟩

end CheckedBuild
