import PatternAudit.Report.Json
import PatternAudit.Report.Text

/-! What renderings tell. Text and compact text tell whether every rule passed, and in no style is
nothing said of a run in which a rule failed.
-/

namespace PatternAudit.Report

-----------------------------------------------------------------------------------------
-- Rules that fail
-----------------------------------------------------------------------------------------

/-- A report passes exactly if no rule has a mismatch. -/
theorem passed_iff {report : Report}
    : report.passed = true ↔ ∀ rule ∈ report.rules, rule.extra = ∅ ∧ rule.missing = ∅ := by
  simp only [passed, List.all_eq_true, RuleReport.passed, Mismatches.isEmpty, Bool.and_eq_true,
    KeySet.isEmpty_iff_eq_empty]

/-- A report passes exactly if no rule is among the failing ones. -/
theorem failing_eq_nil_iff {report : Report}
    : report.failing = [] ↔ report.passed = true := by
  simp [failing, passed, List.filter_eq_nil_iff]

/-- A failing rule has an extra or a missing key. -/
theorem exists_mem_of_mem_failing {report : Report} {rule : RuleReport}
    (member : rule ∈ report.failing)
    : (∃ path, path ∈ rule.extra.toList) ∨ ∃ path, path ∈ rule.missing.toList := by
  obtain ⟨_, failed⟩ := List.mem_filter.mp member
  have mismatched : rule.extra.toList ≠ [] ∨ rule.missing.toList ≠ [] := by
    simpa [RuleReport.passed, Mismatches.isEmpty, KeySet.isEmpty] using failed
  rcases mismatched with extra | missing
  · exact .inl (List.exists_mem_of_ne_nil _ extra)
  · exact .inr (List.exists_mem_of_ne_nil _ missing)

-----------------------------------------------------------------------------------------
-- What is written
-----------------------------------------------------------------------------------------

/-- Joined lines are nothing only if every line is. -/
theorem join_eq_empty_iff {lines : List String}
    : String.join lines = "" ↔ ∀ line ∈ lines, line = "" := by
  rw [← String.toList_eq_nil_iff, String.toList_join, List.flatMap_eq_nil_iff]
  simp only [String.toList_eq_nil_iff]

/-- The line of a mismatch is not nothing. -/
theorem mismatchLine_ne_empty (kind pattern path : String)
    : mismatchLine kind pattern path ≠ "" := by
  rw [Ne, ← String.toList_eq_nil_iff]
  simp [mismatchLine]

/-- The breakdown of a failing report ends in another line than that of success. -/
theorem text_eq_successLine_iff {report : Report}
    : report.text = successLine ↔ report.passed = true := by
  by_cases passes : report.passed = true
  · simp [text, passes]
  · refine iff_of_false (fun success => ?_) passes
    rw [text, if_neg passes] at success
    have ending : ("\n" ++ failureLine).toList <:+ successLine.toList := by
      rw [← success, String.append_assoc, String.toList_append (t := _ ++ _)]
      exact List.suffix_append _ _
    exact absurd ending (by decide)

/-- Something is said of every report. -/
theorem text_ne_empty (report : Report) : report.text ≠ "" := by
  rw [text, Ne, ← String.toList_eq_nil_iff]
  split
  · decide
  · simp [failureLine]

/-- Compact text is nothing exactly if no rule failed: a failing rule has a line for each of its
mismatches.
-/
theorem compactText_eq_empty_iff {report : Report}
    : report.compactText = "" ↔ report.passed = true := by
  rw [compactText, join_eq_empty_iff, ← failing_eq_nil_iff, List.eq_nil_iff_forall_not_mem]
  constructor
  · intro silent rule member
    have nothing (line : String) (isLine : line ∈ mismatchLines report.mode rule) : line = "" :=
      silent line (List.mem_flatMap.mpr ⟨rule, member, isLine⟩)
    rcases exists_mem_of_mem_failing member with ⟨path, extra⟩ | ⟨path, missing⟩
    · exact mismatchLine_ne_empty _ _ _
        (nothing _ (List.mem_append_left _ (List.mem_map_of_mem extra)))
    · exact mismatchLine_ne_empty _ _ _
        (nothing _ (List.mem_append_right _ (List.mem_map_of_mem missing)))
  · intro none line isLine
    obtain ⟨rule, member, _⟩ := List.mem_flatMap.mp isLine
    exact absurd member (none rule)

/-- JSON is not nothing. -/
theorem jsonText_ne_empty (report : Report) : report.jsonText ≠ "" := by
  rw [Ne, ← String.toList_eq_nil_iff]
  simp [jsonText]

end PatternAudit.Report
