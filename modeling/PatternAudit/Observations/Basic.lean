import PatternAudit.Files.Resolution
import PatternAudit.Lines.Basic
import PatternAudit.Rules.Basic

/-! What a run has seen: for each rule the keys of the files in which its pattern occurred, and how
many files were read to their end. Reading that fails keeps what was seen before.
-/

namespace PatternAudit

/-- A path that could not be read. -/
structure ReadFailure where
  path : Bytes
  fault : Files.Fault
  deriving DecidableEq, Repr

namespace ReadFailure

/-- The whole message. -/
def message (failure : ReadFailure) : String :=
  "failed to read " ++ Path.display failure.path ++ ": " ++ failure.fault.message

/-- The name of this kind of failure. -/
def code : String := "lidder::io"

end ReadFailure

/-- The files in which each rule's pattern was seen, by the rule's position, and the number of
files that were read to their end.
-/
@[ext]
structure Observations where
  actual : List KeySet
  filesChecked : Nat := 0
  deriving DecidableEq

namespace Observations

/-- Nothing seen, for so many rules. -/
def empty (count : Nat) : Observations where
  actual := List.replicate count ∅

/-- Nothing seen, for the rules of a set. -/
def emptyFor (ruleset : Ruleset) : Observations :=
  empty ruleset.rules.length

/-- Notes that a rule's pattern was seen in a file. A position without rule changes nothing. -/
def record (seen : Observations) (rule : Nat) (key : String) : Observations :=
  { seen with actual := seen.actual.modify rule (·.insert key) }

/-- Tests every rule on a line. -/
def matchLine (seen : Observations) (rules : List Rule) (key : String) (line : Bytes)
    : Observations :=
  rules.zipIdx.foldl
    (fun seen (rule, index) => if rule.occursIn line then seen.record index key else seen) seen

/-- Tests every rule on every line. -/
def matchLines (seen : Observations) (rules : List Rule) (key : String) (lines : List Bytes)
    : Observations :=
  lines.foldl (fun seen line => seen.matchLine rules key line) seen

/-- Tests every rule on every line that a reader gives. -/
def matchReader (seen : Observations) (rules : List Rule) (key : String)
    (reader : Reader Files.Fault)
    : Observations × Option Files.Fault :=
  (seen.matchLines rules key reader.lines, reader.fault)

/-- Reads what is at a path to its end and counts it. -/
def matchContent (seen : Observations) (rules : List Rule) (path : Bytes) (key : String)
    : Files.Content → Observations × Option ReadFailure
  | .unopenable fault => (seen, some { path, fault })
  | .stream bytes fault =>
    match seen.matchReader rules key { chunks := [bytes], fault } with
    | (seen, some fault) => (seen, some { path, fault })
    | (seen, none) => ({ seen with filesChecked := seen.filesChecked + 1 }, none)

/-- Opens a path and reads it to its end. -/
def matchFile (seen : Observations) (rules : List Rule) (files : Files.FileSystem) (path : Bytes)
    (key : String)
    : Observations × Option ReadFailure :=
  seen.matchContent rules path key (files.contentAt path)

end Observations

end PatternAudit
