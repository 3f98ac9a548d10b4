import PatternAudit.Proofs.Walk.Distinguishing
import PatternAudit.Proofs.Walk.Opening

/-! Walks from differently spelled roots. Below one directory the same files are met under the same
keys, if only the spellings of the directory have the same key.
-/

namespace PatternAudit.Walk

open Files (Node Content FileSystem IsListing)

/-- A file with the key of its path in place of the path. -/
def keyed (file : Bytes × Content) : String × Content :=
  (Path.key file.1, file.2)

mutual

/-- The files below a node have the same keys under paths with the same key, by recursion on the
tree.
-/
theorem map_keyed_files {left right : Bytes} (same : Path.key left = Path.key right)
    (nonempty : left ≠ []) (nonempty' : right ≠ [])
    : {node : Node}
      → node.Everywhere IsListing
      → (files left node).map keyed = (files right node).map keyed
  | .file content, _ => by simp [files, below, file?, keyed, same]
  | .special _, _ => rfl
  | .link _, _ => rfl
  | .directory hindrance entries, everywhere => by
      have each := map_keyed_filesEach same nonempty nonempty'
        (everywhere.entries everywhere.listing)
      have skipped (path : Bytes) : file? (path, .directory hindrance entries) = none := rfl
      rw [files, files, below, below, List.filterMap_cons_none (skipped left),
        List.filterMap_cons_none (skipped right)]
      exact each
termination_by structural node => node

/-- The same for some entries of a directory. -/
theorem map_keyed_filesEach {left right : Bytes} (same : Path.key left = Path.key right)
    (nonempty : left ≠ []) (nonempty' : right ≠ [])
    : {entries : List (Bytes × Node)}
      → (∀ entry ∈ entries, Files.IsName entry.1 ∧ entry.2.Everywhere IsListing)
      → ((belowEach left entries).filterMap file?).map keyed
        = ((belowEach right entries).filterMap file?).map keyed
  | [], _ => by simp [belowEach]
  | (name, node) :: entries, possible => by
      obtain ⟨⟨named, everywhere⟩, rest⟩ := List.forall_mem_cons.mp possible
      have sameHere := Path.key_child_congr same nonempty nonempty' named.toIsSegment
      have first := map_keyed_files sameHere (Path.child_ne_nil nonempty name)
        (Path.child_ne_nil nonempty' name) everywhere
      have later := map_keyed_filesEach same nonempty nonempty' rest
      rw [files, files] at first
      rw [belowEach, belowEach, List.filterMap_append, List.filterMap_append, List.map_append,
        List.map_append, first, later]
termination_by structural entries => entries

end

/-- Being in scope asks about the key only, so the files in scope correspond too. -/
theorem map_keyed_accepted {accepts : String → Bool} {left right : Bytes} {node : Node}
    (same : (files left node).map keyed = (files right node).map keyed)
    : (accepted accepts left node).map keyed = (accepted accepts right node).map keyed := by
  have filtered (path : Bytes)
      : (accepted accepts path node).map keyed
        = ((files path node).map keyed).filter fun entry => accepts entry.1 := by
    rw [List.filter_map]
    rfl
  rw [filtered, filtered, same]

end PatternAudit.Walk
