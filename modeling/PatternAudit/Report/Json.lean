import PatternAudit.Json.Parser
import PatternAudit.Json.Printer
import PatternAudit.Report.Basic

/-! Reports as JSON values. Reading also takes a record as the array of its fields, in order, and
ignores fields that are not known.
-/

namespace PatternAudit

namespace Report

/-- The most files that a report can count. -/
def countLimit : Nat := 0xFFFFFFFFFFFFFFFF

/-- The name of a mode. -/
def Mode.name : Mode → String
  | tree => "tree"
  | singleFile => "single-file"

/-- The mode of a name. -/
def Mode.ofName? (name : String) : Option Mode :=
  if name = Mode.tree.name then some .tree
  else if name = Mode.singleFile.name then some .singleFile
  else none

/-- A mode is its name, or an object whose only field has that name and no value. -/
def Mode.ofJson? : Json → Option Mode
  | .string name => ofName? name
  | .object [(name, .null)] => ofName? name
  | _ => none

end Report

namespace Json

/-- The values of the wanted fields, in order: of an object, in which none of them may be repeated,
or of an array of just as many items.
-/
def record? (wanted : List String) : Json → Option (List Json)
  | .array items => if items.length = wanted.length then some items else none
  | .object fields =>
    wanted.mapM fun name =>
      match fields.filter (·.1 == name) with
      | [(_, value)] => some value
      | _ => none
  | _ => none

/-- A set of keys is an array in any order, with or without repetitions. -/
def keySet? (value : Json) : Option KeySet :=
  value.strings?.map .ofList

/-- A set of keys as an array. -/
def ofKeySet (keys : KeySet) : Json :=
  ofStrings keys.toList

end Json

/-- A rule's outcome as an object. -/
def RuleReport.toJson (rule : RuleReport) : Json :=
  .object [("pattern", .string rule.pattern), ("extra", .ofKeySet rule.extra),
    ("missing", .ofKeySet rule.missing)]

/-- The outcome of a rule that a value denotes. -/
def RuleReport.ofJson? (value : Json) : Option RuleReport := do
  match ← value.record? ["pattern", "extra", "missing"] with
  | [pattern, extra, missing] =>
    return {
      pattern := ← pattern.string?
      extra := ← extra.keySet?
      missing := ← missing.keySet? }
  | _ => none

namespace Report

/-- The report as an object. -/
def toJson (report : Report) : Json :=
  .object [("mode", .string report.mode.name), ("rules", .array (report.rules.map (·.toJson))),
    ("files_checked", .ofNat report.filesChecked)]

/-- The report that a value denotes. -/
def ofJson? (value : Json) : Option Report := do
  match ← value.record? ["mode", "rules", "files_checked"] with
  | [mode, rules, filesChecked] =>
    return {
      mode := ← Mode.ofJson? mode
      rules := ← (← rules.array?).mapM RuleReport.ofJson?
      filesChecked := ← filesChecked.natUpTo? countLimit }
  | _ => none

/-- The report as text. -/
def jsonText (report : Report) : String :=
  report.toJson.pretty ++ "\n"

/-- The report that a text denotes. -/
def ofJsonText? (text : String) : Option Report :=
  (Json.parse? text).bind ofJson?

end Report

end PatternAudit
