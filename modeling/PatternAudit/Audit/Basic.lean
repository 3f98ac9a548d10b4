import PatternAudit.Report.Basic
import PatternAudit.Walk.Basic

/-! Audits: choosing what to scan, scanning it, and comparing the outcome with what is sanctioned.
Every run starts with nothing seen, and a failure leaves no report.
-/

namespace PatternAudit.Audit

/-- What a run scans. -/
inductive Plan where
  /-- Every file in scope at or below a root. -/
  | tree (root : Bytes)
  /-- One file. -/
  | singleFile (target : Bytes)
  deriving DecidableEq, Repr

/-- A target in scope is scanned alone. Without one, the tree is scanned. -/
def plan (ruleset : Ruleset) (target : Option Bytes) (root : Bytes) : Plan :=
  match target with
  | some target =>
    if ruleset.scope.accepts (Path.key target) then .singleFile target else .tree root
  | none => .tree root

/-- Reports what was seen, unless reading failed. -/
def conclude (ruleset : Ruleset) (mode : Report.Mode)
    : Observations × Option ReadFailure → Except ReadFailure Report
  | (_, some failure) => .error failure
  | (seen, none) => .ok (.reconcile ruleset seen mode)

/-- Scans every file in scope at or below a root. -/
def runTree (ruleset : Ruleset) (files : Files.FileSystem) (order : Walk.Order) (root : Bytes)
    : Except ReadFailure Report :=
  conclude ruleset .tree ((Observations.emptyFor ruleset).explore ruleset files order root)

/-- Scans one file, whatever the scope, with expectations narrowed to it. -/
def runSingleFile (ruleset : Ruleset) (files : Files.FileSystem) (target : Bytes)
    : Except ReadFailure Report :=
  let key := Path.key target
  let narrowed := ruleset.narrow key
  conclude narrowed .singleFile
    ((Observations.emptyFor narrowed).matchFile narrowed.rules files target key)

/-- Carries out a plan. -/
def run (ruleset : Ruleset) (files : Files.FileSystem) (order : Walk.Order)
    : Plan → Except ReadFailure Report
  | .tree root => runTree ruleset files order root
  | .singleFile target => runSingleFile ruleset files target

end PatternAudit.Audit
