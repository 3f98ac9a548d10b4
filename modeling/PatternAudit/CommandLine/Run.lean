import PatternAudit.Audit.Basic
import PatternAudit.CommandLine.Arguments
import PatternAudit.CommandLine.Listing
import PatternAudit.CommandLine.Template
import PatternAudit.Report.Json
import PatternAudit.Report.Text

/-! Running the command line. A run ends with status 0 if all is well, 1 if it could not be carried
out, and 2 if a rule failed or the arguments make no sense; it shows nothing but its result or its
failure.
-/

namespace PatternAudit.CommandLine

/-- What a run leaves behind. -/
structure Outcome where
  status : Nat
  output : String := ""
  errors : String := ""
  files : Files.FileSystem

/-- A report in a style. -/
def render (style : Style) (report : Report) : String :=
  match style with
  | .text => report.text
  | .json => report.jsonText
  | .compact => report.compactText

/-- The status of a run that gives a report. -/
def statusOf (report : Report) : Nat :=
  if report.passed then 0 else 2

/-- How a pattern that cannot be used is shown, by itself. -/
def patternFailure (error : PatternError) : Failure where
  top := error.message
  causes := [error.reason]

/-- Puts a failure under a heading. -/
def Failure.under (heading : String) (failure : Failure) : Failure where
  top := heading
  causes := failure.top :: failure.causes

/-- How a path that cannot be read is shown. -/
def readFailure (failure : ReadFailure) : Failure where
  top := "Check failed"
  causes := [failure.message, failure.fault.message]

/-- The configuration that an invocation uses. No file can be chosen without a working directory. -/
def configuration (world : Surroundings) (named : Option Bytes)
    : Except Failure Configuration := do
  world.requireDirectory
  ((Source.resolve world named).load world.files).mapError LoadError.failure

/-- Audits in ascending order. -/
def check (world : Surroundings) (named target : Option Bytes) (root : Bytes)
    : Except Failure Report := do
  let config ← configuration world named
  let ruleset ← (Ruleset.build config).mapError fun error =>
    (patternFailure error).under "Invalid configuration"
  (Audit.run ruleset world.files .ascending (Audit.plan ruleset target root)).mapError readFailure

/-- Lists the rules of a configuration whose patterns can all be used. -/
def listRules (world : Surroundings) (named : Option Bytes) : Except Failure String := do
  let config ← configuration world named
  let ruleset ← (Ruleset.build config).mapError patternFailure
  return Listing.text config ruleset

/-- The outcome of a failure. -/
def failed (world : Surroundings) (failure : Failure) : Outcome where
  status := 1
  errors := failure.text
  files := world.files

/-- Carries out an invocation. -/
def Invocation.run (invocation : Invocation) (world : Surroundings) : Outcome :=
  match invocation.command with
  | .check target root style =>
    match check world invocation.config target root with
    | .error failure => failed world failure
    | .ok report =>
      { status := statusOf report, output := render style report, files := world.files }
  | .listRules =>
    match listRules world invocation.config with
    | .error failure => failed world failure
    | .ok output => { status := 0, output, files := world.files }
  | .init force yaml =>
    let format : Format := if yaml then .yaml else .toml
    match Template.write world force format with
    | (files, some failure) => failed { world with files } failure
    | (files, none) => { status := 0, output := Template.advice format, files }

/-- What the command line can do. -/
def help : String :=
  "Keeps discouraged code patterns confined to an explicit allow-list of files\n\n" ++
  "Usage: lidder [OPTIONS] <COMMAND>\n\n" ++
  "Commands:\n" ++
  "  check       Check that lidded patterns only occur where expected\n" ++
  "  list-rules  List configured rules and their expected files\n" ++
  "  init        Initialize configuration file\n" ++
  "  help        Print this message\n"

/-- The name and version. -/
def version : String := "lidder 0.1.0\n"

/-- What is said of arguments that make no sense. -/
def usage : String :=
  "error: the arguments make no sense\n\nUsage: lidder [OPTIONS] <COMMAND>\n\n"
    ++ "For more information, try 'lidder help'.\n"

/-- Runs the command line on its arguments. -/
def run (world : Surroundings) (arguments : List Bytes) : Outcome :=
  match Arguments.parse world.config arguments with
  | .ok invocation => invocation.run world
  | .error .usage => { status := 2, errors := usage, files := world.files }
  | .error .help => { status := 0, output := help, files := world.files }
  | .error .version => { status := 0, output := version, files := world.files }

end PatternAudit.CommandLine
