import PatternAudit.Observations.Basic

/-! Walking a directory tree. A walk is the list of what is met in visiting order: a directory
before its contents, siblings in a chosen order, special files and links below the root passed
over. Exploring scans the files in scope, in that order, up to the first failure.
-/

namespace PatternAudit

namespace Walk

/-- The order of siblings: by the bytes of their names, or as the directory lists them. -/
inductive Order where
  | ascending
  | descending
  | listed
  deriving DecidableEq, Repr

/-- Puts named siblings in order. -/
def Order.arrange {α : Type} : Order → List (Bytes × α) → List (Bytes × α)
  | ascending, siblings => siblings.mergeSort fun left right => decide (left.1 ≤ right.1)
  | descending, siblings => siblings.mergeSort fun left right => decide (right.1 ≤ left.1)
  | listed, siblings => siblings

/-- What is met on a walk. -/
inductive Visit where
  /-- A path that cannot be walked. -/
  | failed (failure : ReadFailure)
  /-- A regular file. -/
  | file (path : Bytes) (content : Files.Content)
  deriving DecidableEq

/-- A path of too many bytes cannot be handed to the system. -/
def isTooLong (path : Bytes) : Bool :=
  Files.pathLimit < path.length

/-- What opening and reading a file under a path gives. -/
def contentUnder (path : Bytes) (content : Files.Content) : Files.Content :=
  if isTooLong path then .unopenable .nameTooLong else content

/-- What keeps a directory under a path from being listed whole. -/
def hindranceUnder (path : Bytes) (hindrance : Option Files.Hindrance) : Option Files.Hindrance :=
  if isTooLong path then some (.refused .nameTooLong) else hindrance

/-- What is met where a listing breaks off: the failure after all that was listed, or before it
where siblings are sorted.
-/
def Order.breakOff (failure : Visit) (met : List Visit) : Order → List Visit
  | ascending => failure :: met
  | descending => failure :: met
  | listed => met ++ [failure]

mutual

/-- What is met from a node on, under a path, on a walk from a root. A directory that cannot be
opened is a failure of its own path, and a listing that breaks off is one of the root.
-/
def visits (order : Order) (root path : Bytes) : Files.Node → List Visit
  | .file content => [.file path (contentUnder path content)]
  | .special _ => []
  | .link _ => []
  | .directory hindrance entries =>
    match hindranceUnder path hindrance with
    | none => (order.arrange (visitsOfEach order root path entries)).flatMap (·.2)
    | some (.refused fault) => [.failed { path, fault }]
    | some (.broken listed fault) =>
      order.breakOff (.failed { path := root, fault })
        ((order.arrange ((visitsOfEach order root path entries).take listed)).flatMap (·.2))
termination_by structural node => node

/-- What is met from each entry of a directory on, with the entry's name. -/
def visitsOfEach (order : Order) (root path : Bytes)
    : List (Bytes × Files.Node) → List (Bytes × List Visit)
  | [] => []
  | (name, node) :: entries =>
    (name, visits order root (Path.child path name) node) :: visitsOfEach order root path entries
termination_by structural entries => entries

end

/-- What is met from a root on. A root that is a link to a directory is walked; one that is a link
to anything else is passed over.
-/
def visitsFrom (files : Files.FileSystem) (order : Order) (root : Bytes) : List Visit :=
  match files.node .entry root with
  | .error fault => [.failed { path := root, fault }]
  | .ok (.link _) =>
    match files.node .target root with
    | .error fault => [.failed { path := root, fault }]
    | .ok (.directory hindrance entries) => visits order root root (.directory hindrance entries)
    | .ok _ => []
  | .ok node => visits order root root node

end Walk

namespace Observations

/-- Scans the files in scope in order, up to the first failure. -/
def matchVisits (ruleset : Ruleset)
    : Observations → List Walk.Visit → Observations × Option ReadFailure
  | seen, [] => (seen, none)
  | seen, .failed failure :: _ => (seen, some failure)
  | seen, .file path content :: visits =>
    if ruleset.scope.accepts (Path.key path) then
      match seen.matchContent ruleset.rules path (Path.key path) content with
      | (seen, some failure) => (seen, some failure)
      | (seen, none) => matchVisits ruleset seen visits
    else
      matchVisits ruleset seen visits

/-- Scans every file in scope at or below a root. -/
def explore (seen : Observations) (ruleset : Ruleset) (files : Files.FileSystem)
    (order : Walk.Order) (root : Bytes)
    : Observations × Option ReadFailure :=
  seen.matchVisits ruleset (Walk.visitsFrom files order root)

end Observations

end PatternAudit
