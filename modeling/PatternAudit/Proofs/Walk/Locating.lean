import PatternAudit.Proofs.Files.Downward
import PatternAudit.Proofs.Walk.Below

/-! Where a walk has what stands at a place. A node at a place below the start of a walk is met
there, under a path that has the names of the place after those of the root.
-/

namespace PatternAudit.Walk

open Files (Node FileSystem Location)

-----------------------------------------------------------------------------------------
-- Places below a node
-----------------------------------------------------------------------------------------

/-- A node stands at or below itself. -/
theorem mem_below_self (path : Bytes) (node : Node) : (path, node) ∈ below path node := by
  cases node <;> simp [below]

/-- What stands below an entry stands below all entries, by induction on them. -/
theorem below_subset_belowEach {path name : Bytes} {node : Node}
    {entries : List (Bytes × Node)} (member : (name, node) ∈ entries)
    : below (Path.child path name) node ⊆ belowEach path entries := by
  induction entries with
  | nil => cases member
  | cons entry entries ih =>
      rcases List.mem_cons.mp member with rfl | later
      · exact List.subset_append_left _ _
      · exact List.subset_append_of_subset_right _ (ih later)

/-- What stands at a place stands below, under a path with the names of the place, by induction
on them.
-/
theorem exists_mem_below_of_at? {path : Bytes} (nonempty : path ≠ []) {node found : Node}
    {location : Location} (named : ∀ name ∈ location, Path.IsSegment Path.slash Path.dot name)
    (here : node.at? location = some found)
    : ∃ place,
        (place, found) ∈ below path node
        ∧ Path.names place = Path.names path ++ location
        ∧ Path.isAbsolute place = Path.isAbsolute path := by
  induction location generalizing path node with
  | nil =>
      obtain rfl : node = found := by simpa [Node.at?] using here
      exact ⟨path, mem_below_self path node, (List.append_nil _).symm, rfl⟩
  | cons name location ih =>
      obtain ⟨isSegment, areSegments⟩ := List.forall_mem_cons.mp named
      cases node with
      | file | special | link => cases here
      | directory hindrance entries =>
          rw [Node.at?, Option.bind_eq_some_iff] at here
          obtain ⟨child, looked, further⟩ := here
          obtain ⟨before, after, listing, _⟩ := List.lookup_eq_some_iff.mp looked
          have isEntry : (name, child) ∈ entries := by simp [listing]
          obtain ⟨place, isBelow, names, starts⟩ :=
            ih (Path.child_ne_nil nonempty name) areSegments further
          refine ⟨place, ?_, ?_, starts.trans (Path.isAbsolute_child nonempty name)⟩
          · exact List.mem_cons_of_mem _ (below_subset_belowEach isEntry isBelow)
          · rw [names, Path.names_child nonempty isSegment, ← List.append_cons]

-----------------------------------------------------------------------------------------
-- Walks from the working directory
-----------------------------------------------------------------------------------------

/-- The directory itself is the working directory. -/
theorem at?_workingDirectory_of_node {files : FileSystem} {purpose : Files.Purpose}
    (existing : purpose ≠ .creation) {node : Node}
    (reached : files.node purpose [Path.dot] = .ok node)
    : files.root.at? files.workingDirectory = some node := by
  obtain ⟨location, resolved, here⟩ := FileSystem.node_eq_ok_iff.mp reached
  obtain ⟨_, follows⟩ := FileSystem.resolve_eq_ok_iff.mp resolved
  have single : Files.namesOf [Path.dot] = [[Path.dot]] := rfl
  have relative : Path.isAbsolute [Path.dot] = false := rfl
  simp only [single, relative, Bool.false_eq_true, if_false] at follows
  rw [Files.resolveFrom, Files.descend_cons existing] at follows
  have stays : Files.leadsOn [Path.dot] = false := rfl
  rcases Files.move_of_not_leadsOn stays files.root files.workingDirectory with moved | moved
  · obtain rfl : files.workingDirectory = location := by
      simpa [moved, Files.descend] using follows
    exact here
  · simp [moved] at follows

/-- A walk from the directory itself starts at the working directory. -/
theorem at?_workingDirectory_of_start {files : FileSystem} {node : Node}
    (started : start files [Path.dot] = .ok node)
    : files.root.at? files.workingDirectory = some node := by
  rcases node_of_start started with entered | followed
  · exact at?_workingDirectory_of_node (by decide) entered
  · exact at?_workingDirectory_of_node (by decide) followed

/-- A regular file to which a path leads downward is among the files of a walk from the working
directory, under a path with the same key.
-/
theorem exists_mem_files_of_downward {files : FileSystem} {node : Node} {path : Bytes}
    {content : Files.Content} (started : start files [Path.dot] = .ok node)
    (relative : Path.isAbsolute path = false)
    (here
      : files.root.at? (files.workingDirectory ++ Path.names path) = some (.file content))
    : ∃ place,
        (place, content) ∈ Walk.files [Path.dot] node ∧ Path.key place = Path.key path := by
  rw [Node.at?_append, at?_workingDirectory_of_start started] at here
  obtain ⟨place, isBelow, names, starts⟩ :=
    exists_mem_below_of_at? (List.cons_ne_nil _ _) (fun _ => Path.isSegment_of_mem_segments) here
  refine ⟨place, List.mem_filterMap.mpr ⟨_, isBelow, rfl⟩, Path.key_eq_key_iff.mpr ⟨?_, ?_⟩⟩
  · exact starts.trans relative.symm
  · rw [names]
    rfl

end PatternAudit.Walk
