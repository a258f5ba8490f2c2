import CheckedBuild.Embedding.SourceTree
import CheckedBuild.Machine.FileSystem

/-!
# The file system as a source tree

Every path may be asked for. Only finitely many can be read: paths are of bounded length, and there
are only finitely many texts up to a length, since there are only finitely many characters.
-/

namespace CheckedBuild

namespace Text

/-- Every character is in one list. -/
theorem exists_all_chars : ∃ chars : List Char, ∀ c, c ∈ chars := by
  refine ⟨(List.range 0x110000).map Char.ofNat, fun c => ?_⟩
  refine List.mem_map.mpr ⟨c.toNat, List.mem_range.mpr ?_, Char.ofNat_toNat c⟩
  rcases c.valid with low | ⟨_, high⟩
  · exact Nat.lt_trans low (by decide)
  · exact high

/-- Every text up to a length is in one list. -/
theorem exists_all_texts (n : Nat) :
    ∃ texts : List (List Char), ∀ s : List Char, s.length ≤ n → s ∈ texts := by
  obtain ⟨chars, all⟩ := exists_all_chars
  induction n with
  | zero => exact ⟨[[]], fun s short => by simp_all⟩
  | succ n ih =>
    obtain ⟨texts, shorter⟩ := ih
    refine ⟨[] :: chars.flatMap fun c => texts.map (c :: ·), fun s short => ?_⟩
    match s, short with
    | [], _ => simp
    | c :: rest, short =>
      refine List.mem_cons_of_mem _ (List.mem_flatMap.mpr ⟨c, all c, ?_⟩)
      exact List.mem_map.mpr ⟨rest, shorter rest (by simpa using short), rfl⟩

/-- Every string up to a length is in one list. -/
theorem exists_all_strings (n : Nat) :
    ∃ strings : List String, ∀ s : String, s.toList.length ≤ n → s ∈ strings := by
  obtain ⟨texts, all⟩ := exists_all_texts n
  refine ⟨texts.map String.ofList, fun s short => ?_⟩
  exact List.mem_map.mpr ⟨s.toList, all _ short, String.ofList_toList⟩

end Text

namespace Utf8

theorem length_le_length_encode (s : List Char) : s.length ≤ (encode s).length := by
  induction s with
  | nil => simp
  | cons c rest ih =>
    have positive : 0 < (String.utf8EncodeChar c).length := by
      simp [Char.utf8Size_pos]
    simp only [encode, List.flatMap_cons, List.length_append, List.length_cons] at ih ⊢
    omega

end Utf8

namespace Machine.FileSystem

theorem length_le_of_resolve {files : FileSystem} {path : String} {through : Bool} {name : Name}
    (h : files.resolve path through = .ok name) : path.toList.length ≤ longestPath := by
  unfold resolve at h
  split at h
  · simp at h
  · split at h
    · simp at h
    · split at h
      · simp at h
      · next short =>
        exact Nat.le_trans (Utf8.length_le_length_encode _) (Nat.le_of_not_lt short)

theorem length_le_of_read {files : FileSystem} {path : String} {bytes : Bytes}
    (h : files.read path = .ok bytes) : path.toList.length ≤ longestPath := by
  unfold read find at h
  cases resolved : files.resolve path with
  | error refusal => simp [resolved] at h
  | ok name => exact length_le_of_resolve resolved

/-- The source tree of all files. -/
def sourceTree (files : FileSystem) : SourceTree where
  size path := (files.size path).mapError Refusal.message
  read path := (files.read path).mapError Refusal.message
  finite := by
    obtain ⟨strings, all⟩ := Text.exists_all_strings longestPath
    refine ⟨strings, fun path bytes h => all path ?_⟩
    cases readable : files.read path with
    | error refusal => rw [readable] at h; cases h
    | ok contents => exact length_le_of_read readable

end Machine.FileSystem

end CheckedBuild
