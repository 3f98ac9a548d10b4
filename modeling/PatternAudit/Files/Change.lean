import PatternAudit.Files.Resolution

/-! Changing a file tree: writing files, making directories and links, and removing nodes.
-/

namespace PatternAudit.Files

namespace Writing

/-- What there is room for. -/
def taken (writing : Writing) (bytes : Bytes) : Bytes :=
  match writing.room with
  | some (count, _) => bytes.take count
  | none => bytes

/-- Why not everything is written, if it is not. -/
def fault? (writing : Writing) (bytes : Bytes) : Option Fault :=
  match writing.room with
  | some (count, fault) => if (bytes.drop count).isEmpty then none else some fault
  | none => none

/-- What a file holds once bytes were written to it, whether it is new or had a content before. One
that cannot be opened for reading stays so.
-/
def content (writing : Writing) (bytes : Bytes) : Option Content → Content
  | some (.unopenable fault) => .unopenable fault
  | some (.stream ..) => .stream (writing.taken bytes)
  | none =>
    match writing.hidden with
    | some fault => .unopenable fault
    | none => .stream (writing.taken bytes)

end Writing

namespace FileSystem

/-- Puts a node at a place whose directory exists, or removes what is there. -/
def set (files : FileSystem) (location : Location) (new : Option Node) : FileSystem :=
  { files with root := files.root.set new location }

/-- Writes a file and tells why that fails, if it does. Where the path leads to, a file is created,
or the one that is there is emptied, unless it cannot be opened for writing; then it takes what
there is room for. A special file takes that too and stays as it is.
-/
def write (files : FileSystem) (path bytes : Bytes) : FileSystem × Option Fault :=
  match files.resolve .creation path with
  | .error fault => (files, some fault)
  | .ok destination =>
    let location := destination.location
    let writing := files.writing location
    let holding (old : Option Content) : FileSystem :=
      files.set location (some (.file (writing.content bytes old)))
    match writing.refused, files.root.at? location with
    | some fault, _ => (files, some fault)
    | none, none => (holding none, writing.fault? bytes)
    | none, some (.file old) => (holding (some old), writing.fault? bytes)
    | none, some (.special _) => (files, writing.fault? bytes)
    | none, some _ => (files, some .isADirectory)

/-- Makes the directories on the way that do not exist yet. -/
def makeDirectoriesFrom (files : FileSystem) (place : Location)
    : List Bytes → Except Fault FileSystem
  | [] => .ok files
  | name :: names => do
    match ← resolveFrom files.root .target linkLimit place [name] with
    | .existing location => files.makeDirectoriesFrom location names
    | .absent location =>
      (files.set location (some .emptyDirectory)).makeDirectoriesFrom location names

/-- Makes a directory and those above it, as far as they do not exist yet. -/
def makeDirectories (files : FileSystem) (path : Bytes) : Except Fault FileSystem :=
  files.makeDirectoriesFrom (if Path.isAbsolute path then [] else files.workingDirectory)
    (namesOf path)

/-- Makes the directories above the last name of a path. -/
def makeParents (files : FileSystem) (path : Bytes) : Except Fault FileSystem :=
  files.makeDirectoriesFrom (if Path.isAbsolute path then [] else files.workingDirectory)
    ((namesOf path).filter (!·.isEmpty)).dropLast

/-- Makes a symbolic link. -/
def makeLink (files : FileSystem) (path target : Bytes) : Except Fault FileSystem := do
  match ← files.resolve .entry path with
  | .absent location => .ok (files.set location (some (.link target)))
  | .existing _ => .error .fileExists

/-- Removes what a path names, with everything below it; a link is removed itself. -/
def remove (files : FileSystem) (path : Bytes) : Except Fault FileSystem := do
  match ← files.resolve .entry path with
  | .absent _ => .error .notFound
  | .existing location => .ok (files.set location none)

end FileSystem

end PatternAudit.Files
