import PatternAudit.Files.Node
import PatternAudit.Path.Basic

/-! Resolving paths. A path is followed name by name from the root or from the working
directory; links are replaced by their targets, at most forty times.
-/

namespace PatternAudit.Files

/-- What writing a file at a place meets with. -/
structure Writing where
  /-- Why no file can be opened for writing there, if none can. -/
  refused : Option Fault := none
  /-- How many bytes there is room for, and the failure of writing more, if there is an end. -/
  room : Option (Nat × Fault) := none
  /-- Why a file that is created there cannot be opened for reading, if it cannot. -/
  hidden : Option Fault := none
  deriving DecidableEq, Repr

/-- A file tree, the place that relative paths start from, and what writing meets with. -/
structure FileSystem where
  root : Node := .emptyDirectory
  workingDirectory : Location := []
  writing : Location → Writing := fun _ => {}

/-- Where a path leads. -/
inductive Destination where
  /-- A node is there. -/
  | existing (location : Location)
  /-- No node is there, but its directory exists. -/
  | absent (location : Location)
  deriving DecidableEq, Repr

/-- The place that a path leads to. -/
def Destination.location : Destination → Location
  | existing location => location
  | absent location => location

/-- How far names lead without following a link. -/
inductive Descent where
  | arrived (destination : Destination)
  /-- A link in a directory is to be followed before the names that remain. -/
  | link (directory : Location) (target : Bytes) (names : List Bytes)
  | failed (fault : Fault)

/-- What the last name of a path is wanted for. -/
inductive Purpose where
  /-- The node itself, also if it is a link. -/
  | entry
  /-- The node that links lead to. -/
  | target
  /-- A file to be written where links lead to. -/
  | creation
  deriving DecidableEq, Repr

/-- The most bytes of a name. -/
def nameLimit : Nat := 255

/-- The most bytes of a path. -/
def pathLimit : Nat := 4095

/-- The most links that are followed for one path. -/
def linkLimit : Nat := 40

/-- The names in a path. A slash at the end counts as an empty last name, which wants a
directory.
-/
def namesOf (path : Bytes) : List Bytes :=
  let names := (Path.pieces Path.slash path).filter (!·.isEmpty)
  if path.getLast? == some Path.slash then names ++ [[]] else names

/-- Follows names from a place until a link has to be followed. -/
def descend (root : Node) (purpose : Purpose) : Location → List Bytes → Descent
  | place, [] => .arrived (.existing place)
  | place, name :: names =>
    match root.at? place with
    | some (.directory _ entries) =>
      if name.isEmpty || name == [Path.dot] then descend root purpose place names
      else if name == [Path.dot, Path.dot] then descend root purpose place.dropLast names
      else if purpose = .creation ∧ names = [[]] then .failed .isADirectory
      else if nameLimit < name.length then .failed .nameTooLong
      else
        match entries.lookup name with
        | none => if names.isEmpty then .arrived (.absent (place ++ [name])) else .failed .notFound
        | some (.link target) =>
          if names.isEmpty ∧ purpose = .entry then .arrived (.existing (place ++ [name]))
          else .link place target names
        | some _ => descend root purpose (place ++ [name]) names
    | _ => .failed .notADirectory

/-- Follows names from a place through at most so many links. -/
def resolveFrom (root : Node) (purpose : Purpose)
    : Nat → Location → List Bytes → Except Fault Destination
  | links, place, names =>
    match descend root purpose place names with
    | .arrived destination => .ok destination
    | .failed fault => .error fault
    | .link directory target names =>
      match links with
      | 0 => .error .tooManyLinks
      | links + 1 =>
        resolveFrom root purpose links (if Path.isAbsolute target then [] else directory)
          (namesOf target ++ names)

/-- Whether a path can be handed to the system at all. -/
def checkPath (path : Bytes) : Except Fault Unit :=
  if path.contains 0 then .error .nulInPath
  else if path.isEmpty then .error .notFound
  else if pathLimit < path.length then .error .nameTooLong
  else .ok ()

namespace FileSystem

/-- Where a path leads. -/
def resolve (files : FileSystem) (purpose : Purpose) (path : Bytes)
    : Except Fault Destination := do
  checkPath path
  resolveFrom files.root purpose linkLimit
    (if Path.isAbsolute path then [] else files.workingDirectory) (namesOf path)

/-- The node that a path leads to. -/
def node (files : FileSystem) (purpose : Purpose) (path : Bytes) : Except Fault Node := do
  match ← files.resolve purpose path with
  | .existing location =>
    match files.root.at? location with
    | some node => .ok node
    | none => .error .notFound
  | .absent _ => .error .notFound

/-- Whether the working directory is there. -/
def isStanding (files : FileSystem) : Bool :=
  match files.root.at? files.workingDirectory with
  | some (.directory ..) => true
  | _ => false

/-- Whether a path leads to anything, through links. -/
def pathExists (files : FileSystem) (path : Bytes) : Bool :=
  (files.node .target path).toBool

/-- What opening a path and reading gives. A directory can be opened, but not read. -/
def contentAt (files : FileSystem) (path : Bytes) : Content :=
  match files.node .target path with
  | .ok (.file content) => content
  | .ok (.special content) => content
  | .ok (.directory (some (.refused fault)) _) => .unopenable fault
  | .ok (.directory _ _) => .stream [] (some .isADirectory)
  | .ok (.link _) => .unopenable .tooManyLinks
  | .error fault => .unopenable fault

/-- The whole content of a path. -/
def readBytes (files : FileSystem) (path : Bytes) : Except Fault Bytes :=
  match files.contentAt path with
  | .stream bytes none => .ok bytes
  | .stream _ (some fault) => .error fault
  | .unopenable fault => .error fault

/-- The whole content of a path, as text. -/
def readText (files : FileSystem) (path : Bytes) : Except Fault String := do
  match Utf8.decode? (← files.readBytes path) with
  | some chars => .ok (.ofList chars)
  | none => .error .notText

end FileSystem

end PatternAudit.Files
