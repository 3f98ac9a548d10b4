import PatternAudit.CommandLine.Source
import PatternAudit.Files.Change

/-! Starting a project: a first configuration to be edited. An existing file stays unless it is to
be replaced.
-/

namespace PatternAudit.CommandLine.Template

/-- The file of a format. -/
def name : Format → String
  | .toml => "lidder.toml"
  | .yaml => "lidder.yaml"

/-- How the first configuration begins, in either format. -/
def preface : String :=
  "# lidder configuration\n" ++
  "#\n" ++
  "# Files whose path matches an `include` regex are scanned, unless the path\n" ++
  "# also matches an `exclude` regex. Each rule's `pattern` may only occur in\n" ++
  "# the files listed under `expected`.\n" ++
  "\n"

/-- The first configuration. -/
def content : Format → String
  | .toml =>
    preface ++
    "include = ['\\.go$']\n" ++
    "exclude = ['^vendor/', '_test\\.go$']\n" ++
    "\n" ++
    "[[rules]]\n" ++
    "pattern = 'panic\\('\n" ++
    "expected = []\n" ++
    "\n" ++
    "# [[rules]]\n" ++
    "# pattern = 'TODO'\n" ++
    "# expected = [\"legacy/old.go\"]\n"
  | .yaml =>
    preface ++
    "include:\n" ++
    "  - '\\.go$'\n" ++
    "exclude:\n" ++
    "  - '^vendor/'\n" ++
    "  - '_test\\.go$'\n" ++
    "rules:\n" ++
    "  - pattern: 'panic\\('\n" ++
    "    expected: []\n" ++
    "#  - pattern: 'TODO'\n" ++
    "#    expected:\n" ++
    "#      - legacy/old.go\n"

/-- What is said after the file was written. -/
def advice (format : Format) : String :=
  "Created " ++ name format ++ "\n\nNext steps:\n  1. Edit " ++ name format
    ++ " to list your lidded patterns\n  2. Run: lidder check\n"

/-- Writes the first configuration into the working directory and tells why that fails, if it does.
-/
def write (world : Surroundings) (force : Bool) (format : Format)
    : Files.FileSystem × Option Failure :=
  let path := world.projectPath (name format)
  match world.requireDirectory with
  | .error failure => (world.files, some failure)
  | .ok () =>
    if world.files.pathExists path && !force then
      (world.files,
        some {
          top := "Configuration file already exists at " ++ Path.display path
            ++ ". Use --force to overwrite." })
    else
      let (files, fault?) := world.files.write path (Utf8.ofString (content format))
      (files, fault?.map fun fault => { top := fault.message })

end PatternAudit.CommandLine.Template
