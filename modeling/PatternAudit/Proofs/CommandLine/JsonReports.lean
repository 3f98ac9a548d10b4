import PatternAudit.Proofs.CommandLine.Checking
import PatternAudit.Proofs.Report.RoundTrip

/-! What a check shows as JSON is the report itself: nothing of it is lost, and different reports
are shown differently.
-/

namespace PatternAudit.CommandLine

/-- A report is read back from what is shown of it as JSON, whatever its patterns and paths are and
however many files it counts up to the limit. So no other report is shown as the same text, and the
report of a check that shows JSON is read back from the output.
-/
theorem json_shows_report {report : Report} (countable : report.filesChecked ≤ Report.countLimit)
    : Report.ofJsonText? (render .json report) = some report
      ∧ (∀ other : Report,
          other.filesChecked ≤ Report.countLimit
          → render .json other = render .json report
          → other = report)
      ∧ ∀ world arguments named target root,
          Arguments.parse world.config arguments
            = .ok { config := named, command := .check target root .json }
          → check world named target root = .ok report
          → Report.ofJsonText? (run world arguments).output = some report := by
  have reads := Report.ofJsonText?_jsonText countable
  refine ⟨reads, ?_, ?_⟩
  · intro other countable' same
    have readsOther := Report.ofJsonText?_jsonText countable'
    have shown : other.jsonText = report.jsonText := same
    rw [shown, reads] at readsOther
    exact (Option.some.inj readsOther).symm
  · intro world arguments named target root parsed checked
    rw [run_of_parse parsed]
    simpa only [Invocation.run, checked, render] using reads

/-- A report with quotes, backslashes, control characters and characters beyond the basic plane. -/
def oddReport : Report where
  mode := .tree
  rules := [{ pattern := "\"\\\x01\n", extra := .ofList ["𝄞\u2028", "a/\t"], missing := ∅ }]
  filesChecked := Report.countLimit

/-- A check of `f` in the sample directory finds the rule in it. -/
def foundReport : Report where
  mode := .singleFile
  rules := [{ pattern := "a", extra := .ofList ["f"], missing := ∅ }]
  filesChecked := 1

/-- The odd report is read back from its JSON, and the report of a check from its output. -/
theorem json_shows_report_sample
    : Report.ofJsonText? (render .json oddReport) = some oddReport
      ∧ Report.ofJsonText? (run sampleWorld (words ["check", "-f", "json", "f"])).output
        = some foundReport
      ∧ render .json foundReport ≠ render .json oddReport := by
  have described
      : Configuration.parse? .toml sampleText
        = some { included := [""], rules := [{ pattern := "a" }] } := by
    decide +kernel
  obtain ⟨ruleset, built, ran⟩
      : ∃ ruleset,
          Ruleset.build { included := [""], rules := [{ pattern := "a" }] } = .ok ruleset
          ∧ Audit.run ruleset sampleWorld.files .ascending
              (Audit.plan ruleset (some [0x66]) [Path.dot])
            = .ok foundReport :=
    ⟨_, rfl, rfl⟩
  have configures : Configures sampleWorld none _ ruleset :=
    ⟨rfl, Utf8.ofString "/lidder.toml", sampleText, rfl, rfl, described, built⟩
  have checked : check sampleWorld none (some [0x66]) [Path.dot] = .ok foundReport := by
    rw [configures.check_eq, ran]
    rfl
  obtain ⟨odd, only, _⟩ := json_shows_report (by decide : oddReport.filesChecked ≤ _)
  obtain ⟨_, _, found⟩ := json_shows_report (by decide : foundReport.filesChecked ≤ _)
  refine ⟨odd, found sampleWorld _ none (some [0x66]) [Path.dot] rfl checked, fun same => ?_⟩
  have equal := only foundReport (by decide) same
  cases congrArg Report.mode equal

end PatternAudit.CommandLine
