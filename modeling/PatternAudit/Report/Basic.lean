import PatternAudit.Observations.Basic

/-! Reports: for each rule the files in which its pattern was seen without being sanctioned, and
those in which it is sanctioned without being seen.
-/

namespace PatternAudit

/-- What a run scanned. -/
inductive Report.Mode where
  /-- Every file in scope at or below a root. -/
  | tree
  /-- One file, with expectations narrowed to it. -/
  | singleFile
  deriving DecidableEq, Repr

/-- The two differences between where a pattern is sanctioned and where it was seen. -/
@[ext]
structure Mismatches where
  /-- Seen and not sanctioned. -/
  extra : KeySet
  /-- Sanctioned and not seen. -/
  missing : KeySet
  deriving DecidableEq

/-- No difference. -/
def Mismatches.isEmpty (mismatches : Mismatches) : Bool :=
  mismatches.extra.isEmpty && mismatches.missing.isEmpty

/-- Compares where a rule's pattern is sanctioned with where it was seen. -/
def Rule.mismatches (rule : Rule) (actual : KeySet) : Mismatches where
  extra := actual \ rule.expected
  missing := rule.expected \ actual

/-- The outcome for one rule. -/
@[ext]
structure RuleReport extends Mismatches where
  pattern : String
  deriving DecidableEq

/-- The rule has no mismatch. -/
def RuleReport.passed (rule : RuleReport) : Bool :=
  rule.toMismatches.isEmpty

/-- The outcome of a run. -/
@[ext]
structure Report where
  mode : Report.Mode
  rules : List RuleReport
  filesChecked : Nat
  deriving DecidableEq

namespace Report

/-- Every rule passed. -/
def passed (report : Report) : Bool :=
  report.rules.all RuleReport.passed

/-- The rules with mismatches. -/
def failing (report : Report) : List RuleReport :=
  report.rules.filter (!·.passed)

/-- Compares every rule with what was seen; what was seen for no rule is nothing. -/
def reconcile (ruleset : Ruleset) (seen : Observations) (mode : Mode) : Report where
  mode := mode
  rules := ruleset.rules.zipIdx.map fun (rule, index) =>
    { rule.mismatches (seen.actual.getD index ∅) with pattern := rule.source }
  filesChecked := seen.filesChecked

end Report

end PatternAudit
