import PatternAudit.Report.Json
import PatternAudit.Proofs.Json.Layout

/-! Reports are read back from the JSON that they are shown as: no rule, path or count is lost, and
different reports are shown differently.
-/

namespace PatternAudit

-----------------------------------------------------------------------------------------
-- Sets and records
-----------------------------------------------------------------------------------------

/-- A set is that of the list that shows it. -/
theorem KeySet.ofList_toList (keys : KeySet) : ofList keys.toList = keys :=
  ext_mem fun _ => mem_ofList

namespace Json

/-- What is read from each item of a list is read from the list. -/
theorem mapM_map_eq_some {α β γ : Type} {write : α → β} {read : β → Option γ} {told : α → γ}
    {list : List α} (each : ∀ item ∈ list, read (write item) = some (told item))
    : (list.map write).mapM read = some (list.map told) := by
  induction list with
  | nil => rfl
  | cons item list ih =>
      obtain ⟨first, rest⟩ := List.forall_mem_cons.mp each
      simp [List.mapM_cons, first, ih rest]

/-- Strings are read back from their array. -/
theorem strings?_ofStrings (values : List String) : (ofStrings values).strings? = some values := by
  have each : (values.map .string).mapM string? = some (values.map id) :=
    mapM_map_eq_some fun _ _ => rfl
  rwa [List.map_id] at each

/-- A set is read back from its array. -/
theorem keySet?_ofKeySet (keys : KeySet) : (ofKeySet keys).keySet? = some keys := by
  rw [keySet?, ofKeySet, strings?_ofStrings, Option.map_some, KeySet.ofList_toList]

/-- The values of an object's fields are read back if no field is repeated. -/
theorem record?_object {fields : List (String × Json)} (distinct : (fields.map (·.1)).Nodup)
    : (object fields).record? (fields.map (·.1)) = some (fields.map (·.2)) := by
  rw [record?]
  refine mapM_map_eq_some fun field isField => ?_
  obtain ⟨before, after, rfl⟩ := List.append_of_mem isField
  rw [List.map_append, List.map_cons, List.nodup_append, List.nodup_cons] at distinct
  obtain ⟨-, ⟨notAfter, -⟩, apart⟩ := distinct
  have noneBefore : before.filter (·.1 == field.1) = [] := by
    refine List.filter_eq_nil_iff.mpr fun other isOther => ?_
    simpa using apart other.1 (List.mem_map_of_mem isOther) field.1 List.mem_cons_self
  have noneAfter : after.filter (·.1 == field.1) = [] := by
    refine List.filter_eq_nil_iff.mpr fun other isOther => ?_
    have different : other.1 ≠ field.1 := fun same =>
      notAfter (same ▸ List.mem_map_of_mem isOther)
    simpa using different
  rw [List.filter_append, noneBefore, List.filter_cons_of_pos (by simp), noneAfter]
  rfl

/-- Strings make a value without numbers. -/
theorem isWhole_ofStrings (values : List String) : (ofStrings values).IsWhole := by
  refine .array fun item isItem => ?_
  obtain ⟨value, _, rfl⟩ := List.mem_map.mp isItem
  exact .string value

end Json

-----------------------------------------------------------------------------------------
-- Reports
-----------------------------------------------------------------------------------------

namespace RuleReport

/-- The outcome of a rule has no numbers. -/
theorem isWhole_toJson (rule : RuleReport) : rule.toJson.IsWhole := by
  refine .object ?_
  simp only [List.forall_mem_cons, Json.ofKeySet]
  exact ⟨.string _, Json.isWhole_ofStrings _, Json.isWhole_ofStrings _, by simp⟩

/-- The outcome of a rule is read back from its value. -/
theorem ofJson?_toJson (rule : RuleReport) : ofJson? rule.toJson = some rule := by
  have fields : rule.toJson.record? ["pattern", "extra", "missing"]
      = some [.string rule.pattern, .ofKeySet rule.extra, .ofKeySet rule.missing] :=
    Json.record?_object (by decide : ["pattern", "extra", "missing"].Nodup)
  simp [ofJson?, fields, Json.string?, Json.keySet?_ofKeySet]

end RuleReport

namespace Report

/-- A mode is read back from its name. -/
theorem Mode.ofJson?_name (mode : Mode) : ofJson? (.string mode.name) = some mode := by
  cases mode <;> decide

/-- All numbers in the value of a report are whole. -/
theorem isWhole_toJson (report : Report) : report.toJson.IsWhole := by
  refine .object ?_
  simp only [List.forall_mem_cons]
  refine ⟨.string _, .array fun item isItem => ?_, .number _, by simp⟩
  obtain ⟨rule, _, rfl⟩ := List.mem_map.mp isItem
  exact rule.isWhole_toJson

/-- A report is read back from its value, unless it counts more files than can be counted. -/
theorem ofJson?_toJson {report : Report} (countable : report.filesChecked ≤ countLimit)
    : ofJson? report.toJson = some report := by
  have fields : report.toJson.record? ["mode", "rules", "files_checked"]
      = some [
          .string report.mode.name,
          .array (report.rules.map (·.toJson)),
          .ofNat report.filesChecked
        ] :=
    Json.record?_object (by decide : ["mode", "rules", "files_checked"].Nodup)
  have rules : (report.rules.map (·.toJson)).mapM RuleReport.ofJson?
      = some (report.rules.map id) :=
    Json.mapM_map_eq_some fun rule _ => rule.ofJson?_toJson
  simp [ofJson?, fields, Mode.ofJson?_name, Json.array?, rules, Json.natUpTo?_ofNat countable]

/-- A report is read back from its text. -/
theorem ofJsonText?_jsonText {report : Report} (countable : report.filesChecked ≤ countLimit)
    : ofJsonText? report.jsonText = some report := by
  have gap : Json.IsGap "\n".toList := List.forall_mem_singleton.mpr (by decide)
  rw [ofJsonText?, jsonText, Json.parse?_pretty report.isWhole_toJson gap, Option.bind_some,
    ofJson?_toJson countable]

end Report

end PatternAudit
