import PatternAudit.CommandLine.Failure
import PatternAudit.Config.Parse
import PatternAudit.Files.Resolution

/-! Where a configuration comes from. A file that is named is used, whether it exists or not; else
the first of some files of the project that exists; else the user's own file.
-/

namespace PatternAudit.CommandLine

/-- What a run can see of the world around it. The environment holds byte strings. -/
structure Surroundings where
  files : Files.FileSystem
  /-- The configuration file that the environment names. -/
  config : Option Bytes := none
  /-- The directory of the user's configuration, where the environment gives one. -/
  configDirectory : Option Bytes := none
  home : Option Bytes := none

/-- Nothing is done once the working directory is gone. -/
def Surroundings.requireDirectory (world : Surroundings) : Except Failure Unit :=
  if world.files.isStanding then .ok () else .error { top := Files.Fault.notFound.message }

/-- The path of a place. -/
def pathOf (location : Files.Location) : Bytes :=
  match location with
  | [] => [Path.slash]
  | names => names.flatMap (Path.slash :: ·)

/-- The path of a file in the working directory. -/
def Surroundings.projectPath (world : Surroundings) (name : String) : Bytes :=
  Path.child (pathOf world.files.workingDirectory) (Utf8.ofString name)

/-- The file from which a configuration is read. -/
inductive Source where
  /-- It was named. -/
  | named (path : Bytes)
  /-- It belongs to the project. -/
  | project (path : Bytes)
  /-- It is the user's own. -/
  | global (path : Bytes)
  | missing
  deriving DecidableEq, Repr

namespace Source

/-- The files of a project, the first choice first. -/
def projectNames : List String :=
  ["lidder.toml", ".lidder.toml", "lidder.yaml", ".lidder.yaml"]

/-- The user's own file in its directory. -/
def globalName : String := "config.toml"

/-- The directory of the user's own file. One that the environment gives is only taken as text. -/
def globalDirectory (world : Surroundings) : Option Bytes :=
  world.configDirectory.filter (fun directory => (Utf8.decode? directory).isSome)
    <|> world.home.map (Path.child · (Utf8.ofString ".lidder"))

/-- Chooses a file. -/
def resolve (world : Surroundings) (named? : Option Bytes) : Source :=
  match named? with
  | some path => named path
  | none =>
    match (projectNames.map world.projectPath).find? world.files.pathExists with
    | some path => project path
    | none =>
      match (globalDirectory world).map (Path.child · (Utf8.ofString globalName)) with
      | some path => if world.files.pathExists path then global path else missing
      | none => missing

/-- The chosen path. -/
def path? : Source → Option Bytes
  | named path => some path
  | project path => some path
  | global path => some path
  | missing => none

end Source

/-- Why there is no configuration. -/
inductive LoadError where
  | missing
  | unreadable (path : Bytes) (fault : Files.Fault)
  | unparsable (path : Bytes)
  deriving DecidableEq, Repr

/-- How a file that cannot be read is reported. -/
def unreadableMessage (path : Bytes) (fault : Files.Fault) : String :=
  "Failed to read config file " ++ Path.display path ++ ": " ++ fault.message

/-- How an error of loading is shown. -/
def LoadError.failure : LoadError → Failure
  | missing => {
      top := "no configuration found; pass --config or create one of "
        ++ ", ".intercalate Source.projectNames ++ " (see `lidder init`)" }
  | unreadable path fault => {
      top := "Failed to load config: " ++ Path.display path
      causes := [unreadableMessage path fault, fault.message] }
  | unparsable path => {
      top := "Failed to load config: " ++ Path.display path
      causes := ["Failed to parse config: the document does not describe a configuration"] }

/-- Reads the configuration of a file, in the format that its name announces. -/
def loadPath (files : Files.FileSystem) (path : Bytes) : Except LoadError Configuration :=
  match files.readText path with
  | .error fault => .error (.unreadable path fault)
  | .ok text =>
    match Configuration.parse? (.ofPath path) text with
    | some config => .ok config
    | none => .error (.unparsable path)

/-- Reads the configuration of a source. -/
def Source.load (files : Files.FileSystem) (source : Source) : Except LoadError Configuration :=
  match source.path? with
  | some path => loadPath files path
  | none => .error .missing

end PatternAudit.CommandLine
