import CheckedBuild.Proofs.Embedding.DepthFirst
import CheckedBuild.Proofs.Embedding.Helpers
import CheckedBuild.Proofs.Embedding.Minify
import CheckedBuild.Proofs.Text.Utf8

/-!
# Sizes of members

A source that is larger than the limit is left out of the archive. Helpers are not measured, so the
archive keeps to the limit just if those that can be read do, once they are shrunk. Shrinking can
lengthen a helper that is not text, at most threefold. The size of a file is taken to be the length
of what can be read there.
-/

namespace CheckedBuild

namespace Minify

open Text

/-- Shrinking leaves characters out; it adds at most a line feed at the end. -/
theorem text_sublist (source : List Char) : (text source).Sublist (source ++ ['\n']) := by
  unfold text
  by_cases nothing : keep (lines source) = []
  · rw [nothing]
    exact List.sublist_append_right source ['\n']
  · rw [joinWith_append_feed nothing]
    exact ((keep_sublist (lines source)).flatMap _).trans (lines_sublist source)

/-- A shrunk script is at most three times as long as the script, and a line feed. -/
theorem length_script_le (source : Bytes) : (script source).length ≤ 3 * source.length + 1 := by
  have fewer := ((text_sublist (Utf8.decode source)).flatMap String.utf8EncodeChar).length_le
  rw [List.flatMap_append, List.length_append] at fewer
  have decoded := Utf8.length_encode_decode_le source
  have feed : (['\n'].flatMap String.utf8EncodeChar).length = 1 := by decide
  rw [feed] at fewer
  exact Nat.le_trans fewer (Nat.succ_le_succ decoded)

/-- A line of code is a script that is not shrunk. -/
theorem script_of_line {line : List Char} (some : line ≠ []) (whole : '\n' ∉ line)
    (code : isComment line = false) (other : line ≠ delimiter) :
    script (Utf8.encode line) = Utf8.encode line ++ Utf8.encode ['\n'] := by
  have split : lines line = [line] := by simp [lines, pieces_of_notMem whole, some]
  have kept : keep [line] = [line] := by simp [keep, Pass.take, Pass.finish, code, other]
  rw [script, Utf8.decode_encode, text, split, kept, joinWith_singleton, Utf8.encode_append]

end Minify

/-- The size of a file is the length of what can be read there. -/
def SourceTree.Truthful (tree : SourceTree) : Prop :=
  ∀ path size contents, tree.size path = .ok size → tree.read path = .ok contents →
    size = contents.length

theorem length_found_le {tree : SourceTree} (truthful : tree.Truthful) {sources : List String}
    {file : Discovery.Found} (found : file ∈ (Discovery.collect tree sources).found) :
    file.2.length ≤ Discovery.sizeLimit := by
  obtain ⟨size, sized, read, small⟩ :=
    Discovery.embeddable?_cases ((Discovery.mem_collect_iff tree sources file).mp found).had
  exact truthful _ _ _ sized read ▸ small

theorem truthful_preparedTree {files : List Machine.PreparedFile}
    (plain : ∀ file ∈ files, file.size = none) : (Machine.preparedTree files).Truthful := by
  intro path size contents sized read
  have sized : (Machine.preparedFile files path >>= Machine.PreparedFile.askSize) = .ok size :=
    sized
  have read : (Machine.preparedFile files path >>= Machine.PreparedFile.read) = .ok contents := read
  unfold Machine.preparedFile at sized read
  cases found : files.find? (·.path == path) with
  | none =>
    rw [found] at read
    cases read
  | some file =>
    have bare := plain file (List.mem_of_find?_eq_some found)
    rw [found] at sized read
    have sized : file.askSize = .ok size := sized
    have read : file.read = .ok contents := read
    simp only [Machine.PreparedFile.askSize, Machine.PreparedFile.read, bare] at sized read
    split at sized
    · cases sized
    · split at read
      · cases read
      · rw [← Except.ok.inj sized, ← Except.ok.inj read]
        rfl

/-- No source in the archive is larger than the limit. A helper may be: all members keep to the
limit just if every helper that can be read does when it is shrunk, as it does if it is no larger
than a third of the limit. -/
theorem length_member_le_iff {tree : SourceTree} (truthful : tree.Truthful) (directory : String)
    (sources : List String) :
    let found := (Discovery.collect tree sources).found
    let members := (addHelpers tree directory helperScripts found).1
    (∀ file ∈ found, file.2.length ≤ Discovery.sizeLimit)
    ∧ ((∀ member ∈ members, member.2.length ≤ Discovery.sizeLimit) ↔
        ∀ script ∈ helperScripts, ∀ contents,
          tree.read (Path.joinText directory script) = .ok contents →
            (Minify.script contents).length ≤ Discovery.sizeLimit)
    ∧ ∀ contents : Bytes, 3 * contents.length < Discovery.sizeLimit →
        (Minify.script contents).length ≤ Discovery.sizeLimit := by
  intro found members
  have small : ∀ file ∈ found, file.2.length ≤ Discovery.sizeLimit :=
    fun file among => length_found_le truthful among
  have overlaid : members = Members.overlaid found (tree.helpers directory helperScripts) :=
    addHelpers_fst tree directory (by decide) found
  refine ⟨small, ⟨fun all script given contents read => ?_, fun helpers member among => ?_⟩,
    fun contents third => ?_⟩
  · generalize shrunk : Minify.script contents = bytes
    have helper : (script, bytes) ∈ tree.helpers directory helperScripts :=
      mem_helpers_iff.mpr ⟨given, contents, read, shrunk.symm⟩
    have among : (script, bytes) ∈ members := by
      rw [overlaid]
      exact Members.mem_overlaid_of_mem (nodup_names_helpers tree directory (by decide)) helper
    exact all _ among
  · rw [overlaid] at among
    rcases Members.mem_overlaid among with file | helper
    · exact small member file
    · obtain ⟨given, contents, read, same⟩ := mem_helpers_iff.mp helper
      rw [same]
      exact helpers member.1 given contents read
  · exact Nat.le_trans (Minify.length_script_le contents) third

/-- One helper of a single line that is longer than the limit. -/
theorem length_member_gt_of_long_line :
    let line := List.replicate (Discovery.sizeLimit + 1) 'x'
    let tree := Machine.preparedTree [{ path := "h/colors.py", contents := Utf8.encode line }]
    let members := (addHelpers tree "h" helperScripts (Discovery.collect tree []).found).1
    tree.Truthful ∧ ¬ ∀ member ∈ members, member.2.length ≤ Discovery.sizeLimit := by
  intro line tree members
  have truthful : tree.Truthful := truthful_preparedTree (by simp)
  refine ⟨truthful, fun all => ?_⟩
  have read : tree.read (Path.joinText "h" "colors.py") = .ok (Utf8.encode line) := rfl
  have small := (length_member_le_iff truthful "h" []).2.1.mp all "colors.py" (by decide) _ read
  have code : Minify.isComment line = false := rfl
  have other : line ≠ Minify.delimiter := fun same => by
    have := congrArg List.head? same
    cases this
  have one : 'x'.utf8Size = 1 := rfl
  have long : (Utf8.encode line).length = Discovery.sizeLimit + 1 := by
    simp [line, Utf8.encode, List.length_flatMap, one]
  rw [Minify.script_of_line (by simp [line]) (by simp [line]) code other, List.length_append,
    long] at small
  omega

end CheckedBuild
