import PatternAudit.Rules.Basic

/-! The listing of a configuration: each rule with its sanctioned files, then the path patterns. -/

namespace PatternAudit.CommandLine.Listing

/-- Patterns on one line. -/
def patterns (list : List String) : String :=
  if list.isEmpty then "(none)" else ", ".intercalate list

/-- The lines of a rule. -/
def ruleLines (rule : Rule) : List String :=
  let expected :=
    if rule.expected.isEmpty then ["  (not expected anywhere)\n"]
    else rule.expected.toList.map fun path => "   - " ++ path ++ "\n"
  (rule.source ++ "\n") :: expected

/-- The whole listing. -/
def text (config : Configuration) (ruleset : Ruleset) : String :=
  if ruleset.rules.isEmpty then "No rules configured.\n"
  else
    "Configured rules:\n\n" ++ String.join (ruleset.rules.flatMap ruleLines)
      ++ "\nInclude: " ++ patterns config.included ++ "\nExclude: " ++ patterns config.excluded
      ++ "\n"

end PatternAudit.CommandLine.Listing
