import Mathlib.Data.List.Basic
import PatternAudit.Proofs.Walk.Scanning
import PatternAudit.Proofs.Walk.Siblings

/-! What stands at or below a node, whatever the order of siblings and whatever can be read.
Exploring succeeds exactly if all directories and all files in scope can be read, and then scans
the regular files in scope and nothing else.
-/

namespace PatternAudit.Walk

open Files (Node Content FileSystem)

-----------------------------------------------------------------------------------------
-- The tree below a node
-----------------------------------------------------------------------------------------

mutual

/-- Every node at or below a node, with its path. Links are not followed. -/
def below (path : Bytes) : Node → List (Bytes × Node)
  | .file content => [(path, .file content)]
  | .special content => [(path, .special content)]
  | .link target => [(path, .link target)]
  | .directory hindrance entries => (path, .directory hindrance entries) :: belowEach path entries
termination_by structural node => node

/-- Every node at or below the entries of a directory, with its path. -/
def belowEach (path : Bytes) : List (Bytes × Node) → List (Bytes × Node)
  | [] => []
  | (name, node) :: entries => below (Path.child path name) node ++ belowEach path entries
termination_by structural entries => entries

end

/-- The content of a regular file, with its path. -/
def file? : Bytes × Node → Option (Bytes × Content)
  | (path, .file content) => some (path, content)
  | _ => none

/-- The regular files at or below a node, at any depth. -/
def files (path : Bytes) (node : Node) : List (Bytes × Content) :=
  (below path node).filterMap file?

/-- A directory can be listed whole, and a regular file in scope can be read to its end. -/
def CanRead (accepts : String → Bool) : Bytes × Node → Prop
  | (path, .directory hindrance _) => isTooLong path = false ∧ hindrance = none
  | (path, .file content) =>
    accepts (Path.key path) = true → isTooLong path = false ∧ content.fault? = none
  | _ => True

/-- Every directory and every file in scope at or below a node can be read. -/
def Readable (accepts : String → Bool) (path : Bytes) (node : Node) : Prop :=
  ∀ entry ∈ below path node, CanRead accepts entry

/-- The regular files in scope at or below a node. -/
def accepted (accepts : String → Bool) (path : Bytes) (node : Node) : List (Bytes × Content) :=
  (files path node).filter fun file => accepts (Path.key file.1)

/-- The visit of a regular file. -/
def visitOf (file : Bytes × Content) : Visit :=
  .file file.1 (contentUnder file.1 file.2)

-----------------------------------------------------------------------------------------
-- When a walk succeeds
-----------------------------------------------------------------------------------------

/-- A directory is listed whole exactly if its path is not too long and nothing hinders it. -/
theorem hindranceUnder_eq_none_iff {path : Bytes} {hindrance : Option Files.Hindrance}
    : hindranceUnder path hindrance = none ↔ isTooLong path = false ∧ hindrance = none := by
  cases long : isTooLong path <;> simp [hindranceUnder, long]

/-- Reading a file under a path fails if the path is too long or its content fails. -/
theorem fault_contentUnder_eq_none_iff {path : Bytes} {content : Content}
    : (contentUnder path content).fault? = none
      ↔ isTooLong path = false ∧ content.fault? = none := by
  cases long : isTooLong path <;> simp [contentUnder, long, Content.fault?]

/-- The visit of a file succeeds exactly if the file can be read, should it be in scope. -/
theorem failure_visitOf_eq_none_iff (scope : Scope) (file : Bytes × Content)
    : (visitOf file).failure? scope = none ↔ CanRead scope.accepts (file.1, .file file.2) := by
  by_cases inScope : scope.accepts (Path.key file.1) = true <;>
    simp [visitOf, Visit.failure?, CanRead, inScope, fault_contentUnder_eq_none_iff]

mutual

/-- The walk in listed order succeeds exactly if the tree can be read, by recursion on the tree:
a directory that cannot be listed whole is a failure, whatever it holds.
-/
theorem succeeds_iff_readable (scope : Scope) (root path : Bytes)
    : (node : Node)
      → ((∀ visit ∈ visits .listed root path node, visit.failure? scope = none)
          ↔ Readable scope.accepts path node)
  | .file content => by
      have single := failure_visitOf_eq_none_iff scope (path, content)
      simpa [visits, Readable, below, visitOf] using single
  | .special _ => by simp [visits, Readable, below, CanRead]
  | .link _ => by simp [visits, Readable, below, CanRead]
  | .directory hindrance entries => by
      have each := succeeds_iff_readableEach scope root path entries
      rw [visits_directory, Readable, below, List.forall_mem_cons]
      cases state : hindranceUnder path hindrance with
      | none =>
          have hListed : CanRead scope.accepts (path, .directory hindrance entries) :=
            hindranceUnder_eq_none_iff.mp state
          simpa [hListed, Order.arrange] using each
      | some hindered =>
          have hHindered : ¬CanRead scope.accepts (path, .directory hindrance entries) := by
            rw [CanRead, ← hindranceUnder_eq_none_iff, state]
            simp
          cases hindered <;> simp [Visit.failure?, hHindered, Order.breakOff]
termination_by structural node => node

/-- The same for the entries of a directory. -/
theorem succeeds_iff_readableEach (scope : Scope) (root path : Bytes)
    : (entries : List (Bytes × Node))
      → ((∀ visit ∈ ((visitsOfEach .listed root path entries).map (·.2)).flatten,
            visit.failure? scope = none)
          ↔ ∀ entry ∈ belowEach path entries, CanRead scope.accepts entry)
  | [] => by simp [visitsOfEach, belowEach]
  | (name, node) :: entries => by
      have first := succeeds_iff_readable scope root (Path.child path name) node
      have rest := succeeds_iff_readableEach scope root path entries
      rw [visitsOfEach, belowEach, List.map_cons, List.flatten_cons, List.forall_mem_append,
        List.forall_mem_append]
      exact and_congr first rest
termination_by structural entries => entries

end

-----------------------------------------------------------------------------------------
-- What a successful walk visits
-----------------------------------------------------------------------------------------

mutual

/-- Where every directory is listed whole, the walk in listed order meets the regular files. -/
theorem visits_eq_of_readable {accepts : String → Bool} (root : Bytes) {path : Bytes}
    : {node : Node}
      → Readable accepts path node
      → visits .listed root path node = (files path node).map visitOf
  | .file _, _ => by simp [visits, files, below, file?, visitOf]
  | .special _, _ => by simp [visits, files, below, file?]
  | .link _, _ => by simp [visits, files, below, file?]
  | .directory hindrance entries, readable => by
      rw [Readable, below, List.forall_mem_cons] at readable
      have allowed : hindranceUnder path hindrance = none :=
        hindranceUnder_eq_none_iff.mpr readable.1
      have each := visitsEach_eq_of_readable root readable.2
      have skipped : file? (path, .directory hindrance entries) = none := rfl
      rw [visits_directory, allowed, files, below, List.filterMap_cons_none skipped]
      exact each
termination_by structural node => node

/-- The same for the entries of a directory. -/
theorem visitsEach_eq_of_readable {accepts : String → Bool} (root : Bytes) {path : Bytes}
    : {entries : List (Bytes × Node)}
      → (∀ entry ∈ belowEach path entries, CanRead accepts entry)
      → ((visitsOfEach .listed root path entries).map (·.2)).flatten
        = ((belowEach path entries).filterMap file?).map visitOf
  | [], _ => by simp [visitsOfEach, belowEach]
  | (name, node) :: entries, readable => by
      rw [belowEach, List.forall_mem_append] at readable
      have first := visits_eq_of_readable root readable.1
      have rest := visitsEach_eq_of_readable root readable.2
      simp only [visitsOfEach, belowEach, List.map_cons, List.flatten_cons,
        List.filterMap_append, List.map_append, first, rest, files]
termination_by structural entries => entries

end

/-- The files among nodes that can be read can be read, those in scope at least. -/
theorem canRead_of_mem_filterMap {accepts : String → Bool} {nodes : List (Bytes × Node)}
    (readable : ∀ node ∈ nodes, CanRead accepts node) {file : Bytes × Content}
    (member : file ∈ nodes.filterMap file?)
    : CanRead accepts (file.1, .file file.2) := by
  obtain ⟨⟨path, node⟩, isNode, isFile⟩ := List.mem_filterMap.mp member
  cases node with
  | file content =>
      obtain rfl : (path, content) = file := Option.some.inj isFile
      exact readable _ isNode
  | special | link | directory => cases isFile

/-- The files of a readable tree can be read, those in scope at least. -/
theorem canRead_of_mem_files {accepts : String → Bool} {path : Bytes} {node : Node}
    (readable : Readable accepts path node) {file : Bytes × Content}
    (member : file ∈ files path node)
    : CanRead accepts (file.1, .file file.2) :=
  canRead_of_mem_filterMap readable member

/-- The files in scope of a readable tree are read to their end. -/
theorem fault_of_mem_accepted {accepts : String → Bool} {path : Bytes} {node : Node}
    (readable : Readable accepts path node) {file : Bytes × Content}
    (member : file ∈ accepted accepts path node)
    : file.2.fault? = none := by
  obtain ⟨isFile, inScope⟩ := List.mem_filter.mp member
  exact (canRead_of_mem_files readable isFile inScope).2

section Scopes

variable {accepts fewer : String → Bool}

/-- What can be read for a scope can be read for a smaller one, which asks for fewer files. -/
theorem Readable.mono {path : Bytes} {node : Node} (readable : Readable accepts path node)
    (within : ∀ key, fewer key = true → accepts key = true)
    : Readable fewer path node := by
  intro entry member
  have canRead := readable entry member
  obtain ⟨place, node⟩ := entry
  cases node with
  | file content => exact fun inScope => canRead (within _ inScope)
  | special | link | directory => exact canRead

/-- The files in a smaller scope are among those in scope, in the same order. -/
theorem accepted_sublist (within : ∀ key, fewer key = true → accepts key = true) (path : Bytes)
    (node : Node)
    : (accepted fewer path node).Sublist (accepted accepts path node) := by
  apply List.monotone_filter_right
  intro file inScope
  exact within _ inScope

end Scopes

/-- Visiting files does what reading those in scope does, by induction on the files. -/
theorem events_of_files {scope : Scope} {found : List (Bytes × Content)}
    (readable : ∀ file ∈ found, CanRead scope.accepts (file.1, .file file.2))
    : (found.map visitOf).flatMap (Visit.events scope)
      = (found.filter fun file => scope.accepts (Path.key file.1)).flatMap fun file =>
          Observations.Event.ofFile (Path.key file.1) file.2 := by
  induction found with
  | nil => rfl
  | cons file found ih =>
      obtain ⟨first, rest⟩ := List.forall_mem_cons.mp readable
      by_cases inScope : scope.accepts (Path.key file.1) = true
      · have whole : contentUnder file.1 file.2 = file.2 := by
          simp [contentUnder, (first inScope).1]
        simp [visitOf, Visit.events, inScope, whole, ih rest]
      · simp [visitOf, Visit.events, inScope, ih rest]

/-- In a readable tree, the events of the visits are those of the files in scope. -/
theorem events_of_readable {scope : Scope} (root : Bytes) {path : Bytes} {node : Node}
    (readable : Readable scope.accepts path node)
    : (visits .listed root path node).flatMap (Visit.events scope)
      = (accepted scope.accepts path node).flatMap fun file =>
          Observations.Event.ofFile (Path.key file.1) file.2 := by
  rw [visits_eq_of_readable root readable]
  exact events_of_files fun file member => canRead_of_mem_files readable member

end PatternAudit.Walk
