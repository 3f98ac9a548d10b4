import PatternAudit.CommandLine.Run

/-! The program: it takes in the files that a run may look at, runs the command line on them, and
writes the one file that a run may have made.
-/

namespace PatternAudit.Disk

open Files (FileSystem Node)

/-- The entry of a path, given by its directory and its name. -/
def entry (directory name : String) : IO.FS.DirEntry where
  root := directory
  fileName := name

/-- The bytes of a file. -/
def content (entry : IO.FS.DirEntry) : IO Files.Content := do
  try
    return .stream (← IO.FS.readBinFile entry.path).toList
  catch _ =>
    return .unopenable .permissionDenied

/-- Where a link leads in the end; one that leads nowhere leads to a name that no file has. -/
def target (entry : IO.FS.DirEntry) : IO Bytes := do
  try
    return Utf8.ofString (← IO.FS.realPath entry.path).toString
  catch _ =>
    return Utf8.ofString entry.path.toString ++ [0]

/-- What an entry stands for, with everything below it. -/
partial def node (entry : IO.FS.DirEntry) : IO Node := do
  match (← entry.path.symlinkMetadata).type with
  | .file => return .file (← content entry)
  | .other => return .special (.stream [])
  | .symlink => return .link (← target entry)
  | .dir =>
    try
      let entries ← (← entry.path.readDir).toList.mapM fun below => do
        return (Utf8.ofString below.fileName, ← node below)
      return .directory none entries
    catch _ =>
      return .directory (some (.refused .permissionDenied)) []

/-- Takes in what is at a path of some names, and the directories and links on the way to it. -/
partial def take (files : FileSystem) (directory : String) : List String → IO FileSystem
  | [] => return files
  | name :: names => do
    let here := entry directory name
    let path := if directory = "/" then directory ++ name else directory ++ "/" ++ name
    let bytes := Utf8.ofString path
    let some kind ← (try return some (← here.path.symlinkMetadata).type catch _ => return none)
      | return files
    match kind, names with
    | .symlink, _ =>
      let goal ← target here
      let files := (files.makeLink bytes goal).toOption.getD files
      if goal.contains 0 then return files
      let names' := ((Path.display goal).splitOn "/").filter (!·.isEmpty)
      take (← take files "/" names') path names
    | .dir, _ :: _ =>
      take ((files.makeDirectories bytes).toOption.getD files) path names
    | _, _ =>
      match files.resolve .entry bytes with
      | .ok (.existing location) => return files.set location (some (← node here))
      | .ok (.absent location) => return files.set location (some (← node here))
      | .error _ => return files

/-- Takes in what is at a path. -/
def takePath (workingDirectory : String) (files : FileSystem) (path : Bytes) : IO FileSystem :=
  let text := Path.display path
  let whole := if Path.isAbsolute path then text else workingDirectory ++ "/" ++ text
  take files "/" ((whole.splitOn "/").filter fun name => !name.isEmpty && name != ".")

/-- The paths that an invocation looks at. -/
def pathsOf (world : CommandLine.Surroundings) (invocation : CommandLine.Invocation)
    : List Bytes :=
  let global := (CommandLine.Source.globalDirectory world).map
    (Path.child · (Utf8.ofString CommandLine.Source.globalName))
  let sources := CommandLine.Source.projectNames.map world.projectPath
    ++ invocation.config.toList ++ global.toList
  match invocation.command with
  | .check target root _ => sources ++ target.toList ++ [root]
  | .listRules => sources
  | .init .. => sources

/-- Runs the command line on the files of the disk. -/
def run (words : List String) : IO UInt32 := do
  let arguments := words.map Utf8.ofString
  let workingDirectory := (← IO.currentDir).toString
  let empty : FileSystem := { workingDirectory := Path.names (Utf8.ofString workingDirectory) }
  let files := (empty.makeDirectories (Utf8.ofString workingDirectory)).toOption.getD empty
  let world : CommandLine.Surroundings := {
    files
    config := (← IO.getEnv "LIDDER_CONFIG").map Utf8.ofString
    configDirectory := (← IO.getEnv "LIDDER_CONFIG_DIR").map Utf8.ofString
    home := ((← IO.getEnv "HOME").filter (!·.isEmpty)).map Utf8.ofString }
  let parsed := CommandLine.Arguments.parse world.config arguments
  let paths := match parsed with
    | .ok invocation => pathsOf world invocation
    | .error _ => []
  let files ← paths.foldlM (takePath workingDirectory) files
  let outcome := CommandLine.run { world with files } arguments
  if outcome.status = 0 then
    if let .ok { command := .init _ yaml, .. } := parsed then
      let format : Format := if yaml then .yaml else .toml
      IO.FS.writeFile (entry workingDirectory (CommandLine.Template.name format)).path
        (CommandLine.Template.content format)
  IO.print outcome.output
  IO.eprint outcome.errors
  return outcome.status.toUInt32

end PatternAudit.Disk

/-- Runs the command line. -/
def main (arguments : List String) : IO UInt32 :=
  PatternAudit.Disk.run arguments
