import PatternAudit.Proofs.Files.Leading
import PatternAudit.Proofs.Walk.Below

/-! Walks and paths agree: in a file system that a system could hold, the path under which a walk
meets a file in scope opens that file.
-/

namespace PatternAudit.Walk

open Files (Node Content FileSystem Location)

/-- A path leads to a node, unless it is too long or the node is a link. -/
def Arrives (files : FileSystem) (path : Bytes) (location : Location) (node : Node) : Prop :=
  isTooLong path = false → (∀ target, node ≠ .link target) → files.Leads path location node

/-- The path of a root leads to the start of its walk. -/
theorem arrives_of_start {files : FileSystem} {root : Bytes} {node : Node}
    (started : start files root = .ok node)
    : ∃ location, Arrives files root location node := by
  rcases node_of_start started with entered | followed
  · obtain ⟨location, resolved, found⟩ := FileSystem.node_eq_ok_iff.mp entered
    exact ⟨location, fun _ notLink => .of_entry resolved found notLink⟩
  · obtain ⟨location, resolved, found⟩ := FileSystem.node_eq_ok_iff.mp followed
    exact ⟨location, fun _ _ => ⟨resolved, found⟩⟩

/-- A walk from a root that leads to a directory starts at that directory, whether the root is
the directory or a link to it.
-/
theorem start_of_directory {files : FileSystem} {root : Bytes} {hindrance : Option Files.Hindrance}
    {entries : List (Bytes × Node)}
    (leads : files.node .target root = .ok (.directory hindrance entries))
    : start files root = .ok (.directory hindrance entries) := by
  unfold start
  rcases FileSystem.node_entry_of_target leads with entered | ⟨target, entered⟩
  · simp [entered, bind, Except.bind]
  · simp [entered, leads, bind, Except.bind]

mutual

/-- The files in scope below a node that a path arrives at open under their own paths, by
recursion on the tree.
-/
theorem contentAt_of_arrives {files : FileSystem} (wellFormed : files.WellFormed)
    {accepts : String → Bool} {path : Bytes} {location : Location}
    : {node : Node}
      → Arrives files path location node
      → Readable accepts path node
      → ∀ file ∈ accepted accepts path node, files.contentAt file.1 = file.2
  | .file content, arrives, readable => by
      intro file member
      obtain ⟨isFile, inScope⟩ := List.mem_filter.mp member
      obtain rfl : file = (path, content) := by simpa [Walk.files, below, file?] using isFile
      have leads := arrives (canRead_of_mem_files readable isFile inScope).1 (by simp)
      simp [FileSystem.contentAt, leads.node]
  | .special _, _, _ => by simp [accepted, Walk.files, below, file?]
  | .link _, _, _ => by simp [accepted, Walk.files, below, file?]
  | .directory hindrance entries, arrives, readable => by
      rw [Readable, below, List.forall_mem_cons] at readable
      have leads := arrives readable.1.1 (by simp)
      intro file member
      exact contentAt_of_arrivesEach wellFormed leads (fun _ => id) readable.2 file
        (by simpa [accepted, Walk.files, below, file?] using member)
termination_by structural node => node

/-- The same for some entries of a directory that a path leads to. -/
theorem contentAt_of_arrivesEach {files : FileSystem} (wellFormed : files.WellFormed)
    {accepts : String → Bool} {path : Bytes} {location : Location}
    {hindrance : Option Files.Hindrance} {all : List (Bytes × Node)}
    (leads : files.Leads path location (.directory hindrance all))
    : {entries : List (Bytes × Node)}
      → (∀ entry ∈ entries, entry ∈ all)
      → (∀ entry ∈ belowEach path entries, CanRead accepts entry)
      → ∀ file ∈ ((belowEach path entries).filterMap file?).filter
            fun file => accepts (Path.key file.1),
          files.contentAt file.1 = file.2
  | [], _, _ => by simp [belowEach]
  | (name, node) :: entries, included, readable => by
      obtain ⟨first, rest⟩ := List.forall_mem_cons.mp included
      rw [belowEach, List.forall_mem_append] at readable
      have arrives : Arrives files (Path.child path name) (location ++ [name]) node := by
        intro short notLink
        refine leads.child (wellFormed _ _ _ leads.found) first notLink ?_
        simpa [isTooLong] using short
      intro file member
      rw [belowEach, List.filterMap_append, List.filter_append, List.mem_append] at member
      rcases member with here | later
      · exact contentAt_of_arrives wellFormed arrives readable.1 file here
      · exact contentAt_of_arrivesEach wellFormed leads rest readable.2 file later
termination_by structural entries => entries

end

/-- A file in scope that a walk from a root meets in a readable tree opens under its own path. -/
theorem contentAt_of_start {files : FileSystem} (wellFormed : files.WellFormed)
    {accepts : String → Bool} {root : Bytes} {node : Node}
    (started : start files root = .ok node) (readable : Readable accepts root node)
    {file : Bytes × Content} (member : file ∈ accepted accepts root node)
    : files.contentAt file.1 = file.2 := by
  obtain ⟨location, arrives⟩ := arrives_of_start started
  exact contentAt_of_arrives wellFormed arrives readable file member

end PatternAudit.Walk
