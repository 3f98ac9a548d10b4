import PatternAudit.Proofs.Walk.Below
import PatternAudit.Proofs.Walk.VisitingOrder

/-! Where a walk stops. Exploring does what the places of the tree ask for, one after the other in
visiting order, as far as the first of them that cannot be read.
-/

namespace PatternAudit

open Files (Node Content Hindrance Location)

namespace Walk

-----------------------------------------------------------------------------------------
-- Walks that go equally far
-----------------------------------------------------------------------------------------

section UpToFailure

variable {scope : Scope}

/-- After the same visits, what goes equally far still does. -/
theorem upToFailure_append_congr {left right : List Visit}
    (same : upToFailure scope left = upToFailure scope right) (first : List Visit)
    : upToFailure scope (first ++ left) = upToFailure scope (first ++ right) := by
  induction first with
  | nil => exact same
  | cons visit first ih =>
      rw [List.cons_append, List.cons_append, upToFailure_cons, upToFailure_cons, ih]

/-- The first failure is among the visits that are reached. -/
theorem findSome?_upToFailure (scope : Scope) (visits : List Visit)
    : (upToFailure scope visits).findSome? (Visit.failure? scope)
      = visits.findSome? (Visit.failure? scope) := by
  induction visits with
  | nil => rfl
  | cons visit visits ih =>
      rw [upToFailure_cons, List.findSome?_cons, List.findSome?_cons]
      cases visit.failure? scope with
      | some failure => rfl
      | none => exact ih

/-- Two parts of a walk go equally far, whatever comes after them. -/
def GoesAsFar (scope : Scope) (left right : List Visit) : Prop :=
  ∀ rest, upToFailure scope (left ++ rest) = upToFailure scope (right ++ rest)

/-- Walks go equally far if their parts do, by induction on the parts. -/
theorem GoesAsFar.flatMap {α : Type} {parts : List α} {left right : α → List Visit}
    (each : ∀ part ∈ parts, GoesAsFar scope (left part) (right part))
    : GoesAsFar scope (parts.flatMap left) (parts.flatMap right) := by
  induction parts with
  | nil => exact fun _ => rfl
  | cons part parts ih =>
      obtain ⟨first, others⟩ := List.forall_mem_cons.mp each
      intro rest
      rw [List.flatMap_cons, List.flatMap_cons, List.append_assoc, List.append_assoc,
        first (parts.flatMap left ++ rest)]
      exact upToFailure_append_congr (ih others rest) (right part)

/-- Where two parts of a walk come to the same failure, they go equally far. -/
theorem GoesAsFar.failed {left right : List Visit} (same : GoesAsFar scope left right)
    (failure : ReadFailure) (others others' : List Visit)
    : GoesAsFar scope (left ++ .failed failure :: others)
        (right ++ .failed failure :: others') := by
  intro rest
  have stops (more : List Visit)
      : upToFailure scope (.failed failure :: (more ++ rest)) = [.failed failure] := by
    rw [upToFailure_cons]
    rfl
  rw [List.append_assoc, List.append_assoc, List.cons_append, List.cons_append,
    same (.failed failure :: (others ++ rest))]
  exact upToFailure_append_congr ((stops others).trans (stops others').symm) right

end UpToFailure

-----------------------------------------------------------------------------------------
-- Places on a walk
-----------------------------------------------------------------------------------------

/-- The node at a place below a path, with the path under which a walk meets it. -/
def located (path : Bytes) (entry : Location × Node) : Bytes × Node :=
  (entry.1.foldl Path.child path, entry.2)

/-- The listing of a directory breaks off. -/
def BreaksOff : Bytes × Node → Prop
  | (path, .directory hindrance _) =>
    ∃ listed fault, hindranceUnder path hindrance = some (.broken listed fault)
  | _ => False

/-- How a walk from a root fails at a directory that is not listed whole. -/
def hindranceFailure (root path : Bytes) : Hindrance → ReadFailure
  | .refused fault => { path, fault }
  | .broken _ fault => { path := root, fault }

/-- What a walk from a root has to do at a node: report a directory that is not listed whole, or
scan a regular file.
-/
def visit? (root : Bytes) : Bytes × Node → Option Visit
  | (path, .file content) => some (visitOf (path, content))
  | (path, .directory hindrance _) =>
    (hindranceUnder path hindrance).map fun hindered =>
      .failed (hindranceFailure root path hindered)
  | _ => none

/-- In some entries of a directory, a walk goes through each of them. -/
theorem flatten_visitsOfEach (order : Order) (root path : Bytes) (entries : List (Bytes × Node))
    : ((order.arrange (visitsOfEach order root path entries)).map (·.2)).flatten
      = (order.arrange entries).flatMap fun entry =>
        visits order root (Path.child path entry.1) entry.2 := by
  rw [visitsOfEach_eq, Order.arrange_map, List.map_map]
  rfl

/-- In a directory that is listed whole, a walk goes through the entries in their order. -/
theorem visits_of_listed {path : Bytes} {hindrance : Option Hindrance}
    (whole : hindranceUnder path hindrance = none) (order : Order) (root : Bytes)
    (entries : List (Bytes × Node))
    : visits order root path (.directory hindrance entries)
      = (order.arrange entries).flatMap fun entry =>
        visits order root (Path.child path entry.1) entry.2 := by
  rw [visits_directory, whole]
  exact flatten_visitsOfEach order root path entries

/-- In a directory that is not listed whole, a walk goes through the entries that come before it and
then fails.
-/
theorem visits_of_hindered {path : Bytes} {hindrance : Option Hindrance} {hindered : Hindrance}
    (state : hindranceUnder path hindrance = some hindered) (order : Order) (root : Bytes)
    (entries : List (Bytes × Node))
    : ∃ others,
        visits order root path (.directory hindrance entries)
        = (((order.arrange entries).take (order.ahead path hindrance)).flatMap fun entry =>
            visits order root (Path.child path entry.1) entry.2)
          ++ .failed (hindranceFailure root path hindered) :: others := by
  rw [visits_directory, state]
  cases hindered with
  | refused fault =>
      have nothing : order.ahead path hindrance = 0 := by cases order <;> simp [Order.ahead, state]
      rw [nothing]
      exact ⟨[], rfl⟩
  | broken listed fault =>
      cases order with
      | ascending | descending => exact ⟨_, rfl⟩
      | listed =>
          have given : Order.listed.ahead path hindrance = listed := by simp [Order.ahead, state]
          have part : ((visitsOfEach .listed root path entries).take listed).map (·.2)
              = (entries.take listed).map fun entry =>
                visits .listed root (Path.child path entry.1) entry.2 := by
            rw [visitsOfEach_eq, ← List.map_take, List.map_map]
            rfl
          refine ⟨[], ?_⟩
          rw [given]
          simp only [Order.breakOff, Order.arrange, part]
          rfl

/-- Nothing comes before a directory that is listed whole. -/
theorem Order.ahead_of_listed {path : Bytes} {hindrance : Option Hindrance}
    (whole : hindranceUnder path hindrance = none) (order : Order)
    : order.ahead path hindrance = 0 := by
  cases order <;> simp [ahead, whole]

/-- A walk goes as far as what the places ask for, in visiting order: what stands below a directory
that is not listed whole, and is not ahead of it, comes after its failure. Witness: induction on
the tree.
-/
theorem goesAsFar_visits (scope : Scope) (order : Order) (root path : Bytes) (node : Node)
    : GoesAsFar scope (visits order root path node)
        (((places order path node).map (located path)).filterMap (visit? root)) := by
  induction node using Node.induction generalizing path with
  | leaf node leaf =>
      rw [places_of_isLeaf order path leaf]
      cases node with
      | directory hindrance entries => cases leaf
      | file | special | link => exact fun _ => rfl
  | directory hindrance entries ih =>
      have each {some : List (Bytes × Node)} (among : ∀ entry ∈ some, entry ∈ entries)
          : GoesAsFar scope
              (some.flatMap fun entry => visits order root (Path.child path entry.1) entry.2)
              (((some.flatMap (placesIn order path)).map (located path)).filterMap
                (visit? root)) := by
        rw [List.map_flatMap, List.filterMap_flatMap]
        refine GoesAsFar.flatMap fun entry member => ?_
        have below := ih entry (among entry member) (Path.child path entry.1)
        rwa [placesIn, List.map_map]
      have arranged : ∀ entry ∈ order.arrange entries, entry ∈ entries :=
        fun _ => (order.arrange_perm entries).mem_iff.mp
      rw [places_directory]
      cases state : hindranceUnder path hindrance with
      | none =>
          have passes : visit? root (located path ([], .directory hindrance entries)) = none := by
            simp [visit?, located, state]
          rw [visits_of_listed state, Order.ahead_of_listed state, List.take_zero, List.drop_zero,
            List.flatMap_nil, List.nil_append, List.map_cons, List.filterMap_cons_none passes]
          exact each arranged
      | some hindered =>
          have asks : visit? root (located path ([], .directory hindrance entries))
              = some (.failed (hindranceFailure root path hindered)) := by
            simp [visit?, located, state]
          obtain ⟨others, met⟩ := visits_of_hindered state order root entries
          rw [met, List.map_append, List.map_cons, List.filterMap_append,
            List.filterMap_cons_some asks]
          exact (each fun entry given => arranged entry (List.mem_of_mem_take given)).failed _ _ _

-----------------------------------------------------------------------------------------
-- What a place does to exploring
-----------------------------------------------------------------------------------------

/-- Why a directory is not listed whole or a regular file cannot be read to its end. -/
def fault? : Bytes × Node → Option Files.Fault
  | (path, .directory hindrance _) => (hindranceUnder path hindrance).map Hindrance.fault
  | (path, .file content) => (contentUnder path content).fault?
  | _ => none

/-- The lines that can be read from a node, which has some only if it is a regular file. -/
def linesRead : Bytes × Node → List Bytes
  | (path, .file content) => (contentUnder path content).lines
  | _ => []

/-- The failure at a node, if exploring from a root fails there. -/
def failureAt? (scope : Scope) (root : Bytes) (entry : Bytes × Node) : Option ReadFailure :=
  (visit? root entry).bind (Visit.failure? scope)

/-- Exploring passes a node exactly if it can be read. -/
theorem failureAt?_eq_none_iff {scope : Scope} {root : Bytes} {entry : Bytes × Node}
    : failureAt? scope root entry = none ↔ CanRead scope.accepts entry := by
  obtain ⟨path, node⟩ := entry
  cases node with
  | file content => exact failure_visitOf_eq_none_iff scope (path, content)
  | directory hindrance entries =>
      rw [CanRead, ← hindranceUnder_eq_none_iff]
      cases state : hindranceUnder path hindrance <;>
        simp [failureAt?, visit?, Visit.failure?, state]
  | special | link => exact iff_of_true rfl trivial

/-- A failure has the fault of the node that it occurs at, and its path or, where a listing breaks
off, that of the root. What was done there before is to test the lines that could be read.
-/
theorem visit_of_failureAt? {scope : Scope} {root : Bytes} {entry : Bytes × Node}
    {failure : ReadFailure} (fails : failureAt? scope root entry = some failure)
    : (¬BreaksOff entry → failure.path = entry.1)
      ∧ (BreaksOff entry → failure.path = root)
      ∧ fault? entry = some failure.fault
      ∧ ∃ visit,
          visit? root entry = some visit
          ∧ visit.failure? scope = some failure
          ∧ visit.events scope
            = Observations.Event.ofLines (Path.key entry.1) (linesRead entry) := by
  obtain ⟨path, node⟩ := entry
  obtain ⟨visit, asks, failed⟩ := Option.bind_eq_some_iff.mp fails
  cases node with
  | file content =>
      obtain rfl : visitOf (path, content) = visit := Option.some.inj asks
      by_cases inScope : scope.accepts (Path.key path) = true
      · simp only [visitOf, Visit.failure?, if_pos inScope, Option.map_eq_some_iff] at failed
        obtain ⟨fault, why, rfl⟩ := failed
        refine ⟨fun _ => rfl, False.elim, why, _, rfl, ?_, ?_⟩
        · simp [visitOf, Visit.failure?, inScope, why]
        · simp [visitOf, Visit.events, inScope, Observations.Event.ofFile, linesRead, why]
      · simp [visitOf, Visit.failure?, inScope] at failed
  | directory hindrance entries =>
      obtain ⟨hindered, state, rfl⟩ := Option.map_eq_some_iff.mp asks
      obtain rfl : hindranceFailure root path hindered = failure := Option.some.inj failed
      refine ⟨fun whole => ?_, ?_, ?_, _, asks, failed, rfl⟩
      · cases hindered with
        | refused fault => rfl
        | broken listed fault => exact absurd ⟨listed, fault, state⟩ whole
      · rintro ⟨listed, fault, breaks⟩
        obtain rfl := Option.some.inj (state.symm.trans breaks)
        rfl
      · rw [fault?, state]
        cases hindered <;> rfl
  | special | link => cases asks

/-- The regular files in scope among nodes. -/
def inScope (accepts : String → Bool) (nodes : List (Bytes × Node)) : List (Bytes × Content) :=
  (nodes.filterMap file?).filter fun file => accepts (Path.key file.1)

/-- A node that can be read only asks to be visited if it is a regular file. -/
theorem visit?_of_canRead {accepts : String → Bool} (root : Bytes) {entry : Bytes × Node}
    (readable : CanRead accepts entry)
    : visit? root entry = (file? entry).map visitOf := by
  obtain ⟨path, node⟩ := entry
  cases node with
  | directory hindrance entries =>
      rw [visit?, hindranceUnder_eq_none_iff.mpr readable]
      rfl
  | file | special | link => rfl

/-- After nodes that can be read, exploring stops at one that cannot. Then the files in scope among
the former have been scanned, and of the latter the lines that could be read.
-/
theorem events_of_firstFailure {scope : Scope} {root : Bytes}
    {earlier later : List (Bytes × Node)} {entry : Bytes × Node} {failure : ReadFailure}
    (readable : ∀ node ∈ earlier, CanRead scope.accepts node)
    (fails : failureAt? scope root entry = some failure)
    : events scope ((earlier ++ entry :: later).filterMap (visit? root))
      = ((inScope scope.accepts earlier).flatMap fun file =>
          Observations.Event.ofFile (Path.key file.1) file.2)
        ++ Observations.Event.ofLines (Path.key entry.1) (linesRead entry) := by
  obtain ⟨_, _, _, visit, asks, failed, partly⟩ := visit_of_failureAt? fails
  have whole : ∀ file ∈ earlier.filterMap file?, CanRead scope.accepts (file.1, .file file.2) :=
    fun _ => canRead_of_mem_filterMap readable
  have asked : earlier.filterMap (visit? root) = (earlier.filterMap file?).map visitOf := by
    rw [List.map_filterMap]
    exact List.filterMap_congr fun node isNode => visit?_of_canRead root (readable node isNode)
  have succeeds : ∀ visit ∈ (earlier.filterMap file?).map visitOf,
      visit.failure? scope = none :=
    List.forall_mem_map.mpr fun file isFile =>
      (failure_visitOf_eq_none_iff scope file).mpr (whole file isFile)
  rw [List.filterMap_append, List.filterMap_cons_some asks, asked, events_append succeeds,
    events_of_files whole, events_cons, failed, partly, inScope]
  simp

end Walk

end PatternAudit
