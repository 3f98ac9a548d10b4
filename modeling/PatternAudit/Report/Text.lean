import PatternAudit.Report.Basic

/-! Reports in words: a breakdown for people, and one line per mismatch for tools. -/

namespace PatternAudit.Report

/-- The line of a run in which every rule passed. -/
def successLine : String := "ok\tlid on all the things, nothing to see here.\n"

/-- The last line of a run in which a rule failed. -/
def failureLine : String := "lid test failed. sorry.\n"

/-- Paths under a heading; without paths there is no heading. -/
def pathLines (heading : String) (paths : KeySet) : List String :=
  if paths.isEmpty then []
  else ("  " ++ heading ++ "\n") :: paths.toList.map fun path => "   - " ++ path ++ "\n"

/-- What is said of a rule that failed. A single file is either extra or missing. -/
def ruleLines (mode : Mode) (rule : RuleReport) : List String :=
  match mode with
  | .singleFile =>
    if rule.extra.isEmpty then ["Lidded pattern '" ++ rule.pattern ++ "' expected but not found\n"]
    else ["Lidded pattern '" ++ rule.pattern ++ "' found\n"]
  | .tree =>
    (rule.pattern ++ "\n") :: pathLines "didn't expect to find:" rule.extra
      ++ pathLines "expected exceptions which were missing:" rule.missing

/-- The breakdown for people. -/
def text (report : Report) : String :=
  if report.passed then successLine
  else
    String.join (report.failing.flatMap (ruleLines report.mode)) ++ "\n" ++ failureLine

/-- What is said of a file in which a pattern is sanctioned and was not seen. -/
def missingKind : Mode → String
  | .tree => "missing exception"
  | .singleFile => "expected but not found"

/-- The line of one mismatch. -/
def mismatchLine (kind : String) (pattern path : String) : String :=
  path ++ ": " ++ kind ++ " '" ++ pattern ++ "'\n"

/-- The lines of a rule's mismatches. -/
def mismatchLines (mode : Mode) (rule : RuleReport) : List String :=
  rule.extra.toList.map (mismatchLine "unexpected" rule.pattern)
    ++ rule.missing.toList.map (mismatchLine (missingKind mode) rule.pattern)

/-- One line per mismatch. -/
def compactText (report : Report) : String :=
  String.join (report.failing.flatMap (mismatchLines report.mode))

end PatternAudit.Report
