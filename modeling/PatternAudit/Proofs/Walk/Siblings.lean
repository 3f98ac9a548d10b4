import Mathlib.Data.List.Perm.Basic
import PatternAudit.Walk.Basic

/-! Walks with the siblings of every directory in any order. All of them meet the same visits as
the walk in listed order, and each of the fixed orders is one of them.
-/

namespace PatternAudit.Walk

open Files (Node FileSystem)

-----------------------------------------------------------------------------------------
-- Walks in any order
-----------------------------------------------------------------------------------------

mutual

/-- A walk from a root may meet these visits from a node under a path on: at every directory, what
its entries meet is put together in some order of the entries. Where a listing breaks off, that is
what the entries met that it gave, and its failure somewhere among them.
-/
inductive Met (root : Bytes) : Bytes → Node → List Visit → Prop
  | file {path content}
    : Met root path (.file content) [.file path (contentUnder path content)]
  | special {path content} : Met root path (.special content) []
  | link {path target} : Met root path (.link target) []
  | refused {path hindrance entries fault}
    (refused : hindranceUnder path hindrance = some (.refused fault))
    : Met root path (.directory hindrance entries) [.failed { path, fault }]
  | broken {path hindrance entries listed fault} {groups ordered : List (List Visit)}
    (broken : hindranceUnder path hindrance = some (.broken listed fault))
    (each : MetEach root path entries groups)
    (order : ordered.Perm ([.failed { path := root, fault }] :: groups.take listed))
    : Met root path (.directory hindrance entries) ordered.flatten
  | listed {path hindrance entries} {groups ordered : List (List Visit)}
    (allowed : hindranceUnder path hindrance = none)
    (each : MetEach root path entries groups) (order : ordered.Perm groups)
    : Met root path (.directory hindrance entries) ordered.flatten

/-- The entries of a directory, one by one, may meet these visits. -/
inductive MetEach (root : Bytes) : Bytes → List (Bytes × Node) → List (List Visit) → Prop
  | nil {path} : MetEach root path [] []
  | cons {path name node entries visits groups}
    (first : Met root (Path.child path name) node visits)
    (rest : MetEach root path entries groups)
    : MetEach root path ((name, node) :: entries) (visits :: groups)

end

/-- The node that a walk starts from: a link to a directory stands for the directory, and any
other node for itself.
-/
def start (files : FileSystem) (root : Bytes) : Except Files.Fault Node := do
  match ← files.node .entry root with
  | .link target =>
    match ← files.node .target root with
    | .directory hindrance entries => .ok (.directory hindrance entries)
    | _ => .ok (.link target)
  | node => .ok node

/-- The start of a walk is where the path of its root leads, itself or through links. -/
theorem node_of_start {files : FileSystem} {root : Bytes} {node : Node}
    (started : start files root = .ok node)
    : files.node .entry root = .ok node ∨ files.node .target root = .ok node := by
  unfold start at started
  cases entered : files.node .entry root with
  | error fault => simp [entered, bind, Except.bind] at started
  | ok entry =>
      cases entry with
      | file | special | directory =>
          obtain rfl : _ = node := by simpa [entered, bind, Except.bind] using started
          exact .inl rfl
      | link target =>
          cases followed : files.node .target root with
          | error fault => simp [entered, followed, bind, Except.bind] at started
          | ok reached =>
              cases reached with
              | directory hindrance entries =>
                  obtain rfl : .directory hindrance entries = node := by
                    simpa [entered, followed, bind, Except.bind] using started
                  exact .inr rfl
              | file | special | link =>
                  obtain rfl : .link target = node := by
                    simpa [entered, followed, bind, Except.bind] using started
                  exact .inl rfl

/-- A walk from a root may meet these visits. -/
inductive MetFrom (files : FileSystem) (root : Bytes) : List Visit → Prop
  | failed {fault} (failed : start files root = .error fault)
    : MetFrom files root [.failed { path := root, fault }]
  | walked {node visits} (started : start files root = .ok node)
    (met : Met root root node visits)
    : MetFrom files root visits

/-- A walk from a root is a walk from its start, or the failure to find that. -/
theorem visitsFrom_eq (files : FileSystem) (order : Order) (root : Bytes)
    : visitsFrom files order root
      = match start files root with
        | .error fault => [.failed { path := root, fault }]
        | .ok node => visits order root root node := by
  unfold visitsFrom start
  cases entered : files.node .entry root with
  | error fault => rfl
  | ok node =>
      cases node with
      | file content | special content | directory hindrance entries => rfl
      | link target =>
          cases followed : files.node .target root with
          | error fault => simp [bind, Except.bind]
          | ok node => cases node <;> simp [bind, Except.bind, visits]

/-- A walk from a root that has a start is the walk from that. -/
theorem visitsFrom_of_start {files : FileSystem} {root : Bytes} {node : Node}
    (started : start files root = .ok node) (order : Order)
    : visitsFrom files order root = visits order root root node := by
  rw [visitsFrom_eq, started]

/-- What is met in each entry of a directory, entry by entry. -/
theorem visitsOfEach_eq (order : Order) (root path : Bytes) (entries : List (Bytes × Node))
    : visitsOfEach order root path entries
      = entries.map fun entry =>
        (entry.1, visits order root (Path.child path entry.1) entry.2) := by
  induction entries with
  | nil => rfl
  | cons entry entries ih => rw [visitsOfEach, ih, List.map_cons]

/-- What a directory meets in a fixed order. -/
theorem visits_directory (order : Order) (root path : Bytes)
    (hindrance : Option Files.Hindrance) (entries : List (Bytes × Node))
    : visits order root path (.directory hindrance entries)
      = match hindranceUnder path hindrance with
        | none => ((order.arrange (visitsOfEach order root path entries)).map (·.2)).flatten
        | some (.refused fault) => [.failed { path, fault }]
        | some (.broken listed fault) =>
          order.breakOff (.failed { path := root, fault })
            ((order.arrange ((visitsOfEach order root path entries).take listed)).map
              (·.2)).flatten :=
  rfl

-----------------------------------------------------------------------------------------
-- The fixed orders are among them
-----------------------------------------------------------------------------------------

/-- Putting siblings in order neither drops nor repeats one. -/
theorem Order.arrange_perm {α : Type} (order : Order) (siblings : List (Bytes × α))
    : (order.arrange siblings).Perm siblings := by
  cases order with
  | ascending | descending => exact List.mergeSort_perm _ _
  | listed => exact .refl _

/-- Where a listing breaks off, what it gave is met, with the failure before or after it. -/
theorem Order.breakOff_perm (order : Order) (failure : Visit) (met : List Visit)
    : (order.breakOff failure met).Perm (failure :: met) := by
  cases order with
  | ascending | descending => exact .refl _
  | listed => exact List.perm_append_singleton _ _

/-- The failure of a listing is put before or after the groups of visits that it gave. -/
theorem Order.exists_breakOff_eq (order : Order) (failure : Visit) {groups : List (List Visit)}
    : ∃ ordered : List (List Visit),
        ordered.Perm ([failure] :: groups)
        ∧ order.breakOff failure groups.flatten = ordered.flatten := by
  cases order with
  | ascending | descending => exact ⟨_, .refl _, rfl⟩
  | listed => exact ⟨groups ++ [[failure]], List.perm_append_singleton _ _, by simp [breakOff]⟩

mutual

/-- The walk in a fixed order is a walk, by recursion on the tree. -/
theorem met_visits (order : Order) (root path : Bytes)
    : (node : Node) → Met root path node (visits order root path node)
  | .file _ => .file
  | .special _ => .special
  | .link _ => .link
  | .directory hindrance entries => by
      have each := metEach_visitsOfEach order root path entries
      rw [visits_directory]
      cases state : hindranceUnder path hindrance with
      | none => exact .listed state each ((order.arrange_perm _).map _)
      | some hindrance =>
          cases hindrance with
          | refused fault => exact .refused state
          | broken listed fault =>
              have given := (order.arrange_perm
                ((visitsOfEach order root path entries).take listed)).map (·.2)
              rw [List.map_take] at given
              obtain ⟨ordered, permuted, whole⟩ :=
                order.exists_breakOff_eq (.failed { path := root, fault })
              dsimp only
              rw [whole]
              exact .broken state each (permuted.trans (given.cons _))
termination_by structural node => node

/-- The entries of a directory meet what the walk in a fixed order lists for them. -/
theorem metEach_visitsOfEach (order : Order) (root path : Bytes)
    : (entries : List (Bytes × Node))
      → MetEach root path entries ((visitsOfEach order root path entries).map (·.2))
  | [] => .nil
  | (name, node) :: entries =>
      .cons (met_visits order root (Path.child path name) node)
        (metEach_visitsOfEach order root path entries)
termination_by structural entries => entries

end

/-- The walk from a root in a fixed order is a walk. -/
theorem metFrom_visitsFrom (files : FileSystem) (order : Order) (root : Bytes)
    : MetFrom files root (visitsFrom files order root) := by
  rw [visitsFrom_eq]
  cases started : start files root with
  | error fault => exact .failed started
  | ok node => exact .walked started (met_visits order root root node)

-----------------------------------------------------------------------------------------
-- Every walk meets what the listed one meets
-----------------------------------------------------------------------------------------

mutual

/-- Any order of siblings permutes the visits of the listed order, by recursion on the tree. -/
theorem Met.perm {root path : Bytes} {met : List Visit}
    : {node : Node} → Met root path node met → met.Perm (visits .listed root path node)
  | .file _, .file => by rw [visits]
  | .special _, .special => by rw [visits]
  | .link _, .link => by rw [visits]
  | .directory hindrance entries, walk => by
      rw [visits_directory]
      cases walk with
      | refused refused => rw [refused]
      | broken broken each order =>
          rw [broken]
          refine order.flatten.trans (.trans ?_ (Order.breakOff_perm _ _ _).symm)
          rw [Order.arrange, List.map_take]
          exact (List.Perm.flatten_congr (List.forall₂_take _ each.perm)).cons _
      | listed allowed each order =>
          rw [allowed]
          exact order.flatten.trans (List.Perm.flatten_congr each.perm)
termination_by structural node => node

/-- Each entry of a directory meets what the listed order meets from it. -/
theorem MetEach.perm {root path : Bytes} {groups : List (List Visit)}
    : {entries : List (Bytes × Node)}
      → MetEach root path entries groups
      → List.Forall₂ List.Perm groups ((visitsOfEach .listed root path entries).map (·.2))
  | [], .nil => by rw [visitsOfEach]; exact .nil
  | (_, _) :: _, .cons first rest => by
      rw [visitsOfEach]
      exact .cons first.perm rest.perm
termination_by structural entries => entries

end

/-- Two walks from one root meet the same visits, up to their order. -/
theorem MetFrom.perm {files : FileSystem} {root : Bytes} {left right : List Visit}
    (first : MetFrom files root left) (second : MetFrom files root right)
    : left.Perm right := by
  cases first with
  | failed failed =>
      cases second with
      | failed again =>
          cases failed.symm.trans again
          exact .refl _
      | walked started _ => cases failed.symm.trans started
  | walked started met =>
      cases second with
      | failed failed => cases started.symm.trans failed
      | walked again met' =>
          cases started.symm.trans again
          exact met.perm.trans met'.perm.symm

/-- A walk from a root that has a start meets what the listed one from that meets. -/
theorem MetFrom.perm_visits {files : FileSystem} {root : Bytes} {node : Node}
    {met : List Visit} (walk : MetFrom files root met) (started : start files root = .ok node)
    : met.Perm (visits .listed root root node) := by
  rw [← visitsFrom_of_start started]
  exact walk.perm (metFrom_visitsFrom files .listed root)

end PatternAudit.Walk
