import PatternAudit.Proofs.Audit.SingleFile
import PatternAudit.Proofs.Report.Rendering

/-! Verdicts on single files. Each rule has one of three verdicts on a file, which decides its
outcome and what the text says of it.
-/

namespace PatternAudit

-----------------------------------------------------------------------------------------
-- Verdicts
-----------------------------------------------------------------------------------------

/-- How a rule stands to a file. -/
inductive Verdict where
  /-- It occurs in the file and is not sanctioned there. -/
  | unsanctioned
  /-- It is sanctioned in the file and does not occur there. -/
  | stale
  /-- It occurs in the file exactly if it is sanctioned there. -/
  | fits
  deriving DecidableEq, Repr

/-- The verdict of a rule on a file with a key and lines. -/
def Rule.verdict (rule : Rule) (key : String) (lines : List Bytes) : Verdict :=
  if ∃ line ∈ lines, rule.occursIn line = true then
    if key ∈ rule.expected then .fits else .unsanctioned
  else
    if key ∈ rule.expected then .stale else .fits

/-- A rule is unsanctioned exactly if some line shows it and the key is not expected, and stale
exactly if the key is expected and no line shows it.
-/
theorem Rule.verdict_iff (rule : Rule) (key : String) (lines : List Bytes)
    : (rule.verdict key lines = .unsanctioned
        ↔ (∃ line ∈ lines, rule.occursIn line = true) ∧ ¬key ∈ rule.expected)
      ∧ (rule.verdict key lines = .stale
        ↔ key ∈ rule.expected ∧ ¬∃ line ∈ lines, rule.occursIn line = true) := by
  by_cases occurs : ∃ line ∈ lines, rule.occursIn line = true <;>
    by_cases sanctioned : key ∈ rule.expected <;>
    simp only [verdict, occurs, sanctioned, if_true, if_false] <;> decide

namespace Verdict

/-- The outcome of a verdict: the key is extra for an unsanctioned rule and missing for a stale
one, and nothing else is.
-/
def outcome (pattern key : String) (verdict : Verdict) : RuleReport where
  pattern := pattern
  extra := if verdict = .unsanctioned then .ofList [key] else ∅
  missing := if verdict = .stale then .ofList [key] else ∅

/-- What the text says of a rule: nothing if it fits. -/
def lines (pattern : String) : Verdict → List String
  | unsanctioned => ["Lidded pattern '" ++ pattern ++ "' found\n"]
  | stale => ["Lidded pattern '" ++ pattern ++ "' expected but not found\n"]
  | fits => []

variable {verdict : Verdict} {pattern key : String}

/-- A key alone, or nothing. -/
private theorem mem_onlyIf {condition : Prop} [Decidable condition] {other : String}
    : other ∈ (if condition then KeySet.ofList [key] else ∅) ↔ condition ∧ other = key := by
  by_cases holds : condition
  · simp [holds]
  · rw [if_neg holds]
    exact iff_of_false KeySet.not_mem_empty fun told => holds told.1

/-- The key alone is extra, and only for an unsanctioned rule. -/
theorem mem_extra_outcome {other : String}
    : other ∈ (verdict.outcome pattern key).extra ↔ verdict = .unsanctioned ∧ other = key :=
  mem_onlyIf

/-- The key alone is missing, and only for a stale rule. -/
theorem mem_missing_outcome {other : String}
    : other ∈ (verdict.outcome pattern key).missing ↔ verdict = .stale ∧ other = key :=
  mem_onlyIf

/-- An outcome does not have both a key that is extra and one that is missing. -/
theorem extra_or_missing_eq_empty
    : (verdict.outcome pattern key).extra = ∅ ∨ (verdict.outcome pattern key).missing = ∅ := by
  cases verdict with
  | unsanctioned => exact .inr rfl
  | stale => exact .inl rfl
  | fits => exact .inl rfl

/-- An outcome passes exactly if the rule fits. -/
theorem passed_outcome_iff (verdict : Verdict) (pattern key : String)
    : (verdict.outcome pattern key).passed = true ↔ verdict = .fits := by
  have shown : (KeySet.ofList [key]).isEmpty = false := rfl
  have none : (∅ : KeySet).isEmpty = true := rfl
  cases verdict <;> simp [outcome, RuleReport.passed, Mismatches.isEmpty, shown, none]

/-- Of a rule that does not fit, the text says what its verdict says. -/
theorem ruleLines_outcome (failed : verdict ≠ .fits)
    : Report.ruleLines .singleFile (verdict.outcome pattern key) = verdict.lines pattern := by
  cases verdict with
  | unsanctioned => rfl
  | stale => rfl
  | fits => exact absurd rfl failed

end Verdict

/-- The outcome of a verdict compares where the rule occurs with where it is sanctioned, as far as
the key is concerned.
-/
theorem Rule.compares_verdict (rule : Rule) (key : String) (lines : List Bytes)
    : ((rule.verdict key lines).outcome rule.source key).Compares
        (fun other => other = key ∧ ∃ line ∈ lines, rule.occursIn line = true)
        (fun other => other ∈ rule.expected ∧ other = key) where
  extra other := by
    rw [Verdict.mem_extra_outcome, (rule.verdict_iff key lines).1]
    constructor
    · intro told
      obtain ⟨⟨occurs, unsanctioned⟩, rfl⟩ := told
      exact ⟨⟨rfl, occurs⟩, fun both => unsanctioned both.1⟩
    · intro told
      obtain ⟨⟨rfl, occurs⟩, unsanctioned⟩ := told
      exact ⟨⟨occurs, fun sanctioned => unsanctioned ⟨sanctioned, rfl⟩⟩, rfl⟩
  missing other := by
    rw [Verdict.mem_missing_outcome, (rule.verdict_iff key lines).2]
    constructor
    · intro told
      obtain ⟨⟨sanctioned, absent⟩, rfl⟩ := told
      exact ⟨⟨sanctioned, rfl⟩, fun both => absent both.2⟩
    · intro told
      obtain ⟨⟨sanctioned, rfl⟩, absent⟩ := told
      exact ⟨⟨sanctioned, fun occurs => absent ⟨rfl, occurs⟩⟩, rfl⟩

-----------------------------------------------------------------------------------------
-- Reports of verdicts
-----------------------------------------------------------------------------------------

namespace Report

/-- The report of a single file under a key, in which every rule has a verdict. -/
def ofVerdicts (key : String) (verdicts : Rule → Verdict) (rules : List Rule) : Report where
  mode := .singleFile
  rules := rules.map fun rule => (verdicts rule).outcome rule.source key
  filesChecked := 1

variable {key : String} {verdicts : Rule → Verdict} {rules : List Rule}

/-- A report of verdicts passes exactly if every rule fits. -/
theorem passed_ofVerdicts_iff
    : (ofVerdicts key verdicts rules).passed = true ↔ ∀ rule ∈ rules, verdicts rule = .fits := by
  simp only [passed, ofVerdicts, List.all_map, List.all_eq_true, Function.comp_apply,
    Verdict.passed_outcome_iff]

/-- The rules that failed are told of in order, each by its verdict, and those that fit say
nothing, by induction on the rules.
-/
theorem failing_ofVerdicts
    : (ofVerdicts key verdicts rules).failing.flatMap (ruleLines .singleFile)
      = rules.flatMap fun rule => (verdicts rule).lines rule.source := by
  simp only [failing, ofVerdicts]
  induction rules with
  | nil => rfl
  | cons rule rules ih =>
      rw [List.map_cons, List.flatMap_cons]
      by_cases isFit : verdicts rule = .fits
      · have passes := (Verdict.passed_outcome_iff (verdicts rule) rule.source key).mpr isFit
        rw [List.filter_cons_of_neg (by simp [passes]), ih, isFit]
        rfl
      · have fails : ((verdicts rule).outcome rule.source key).passed = false := by
          rwa [← Bool.not_eq_true, Verdict.passed_outcome_iff]
        rw [List.filter_cons_of_pos (by simp [fails]), List.flatMap_cons, ih,
          Verdict.ruleLines_outcome isFit]

/-- The text of a report of verdicts. -/
theorem text_ofVerdicts
    : (ofVerdicts key verdicts rules).text
      = if ∀ rule ∈ rules, verdicts rule = .fits then successLine
        else
          String.join (rules.flatMap fun rule => (verdicts rule).lines rule.source)
            ++ "\n" ++ failureLine := by
  simp only [text, passed_ofVerdicts_iff]
  rw [← failing_ofVerdicts]
  rfl

end Report

namespace Audit

open Files (FileSystem)

/-- The verdicts on a single file. For every target that can be opened and read, the run over it
gives a report in which every rule, in order, has the outcome of its verdict on the target's key
and lines. One file is counted, no outcome has both extra and missing keys, and no other key ever
appears. The text says in order which rules were found and which are stale, nothing of those that
fit, and if all fit it is the line of success.
-/
theorem runSingleFile_verdicts (ruleset : Ruleset) {files : FileSystem} {target bytes : Bytes}
    (opens : files.contentAt target = .stream bytes none)
    : let key := Path.key target
      let lines := (Lines.pieces bytes).map Lines.strip
      ∃ report,
        runSingleFile ruleset files target = .ok report
        ∧ report.mode = .singleFile
        ∧ report.filesChecked = 1
        ∧ report.rules
          = ruleset.rules.map (fun rule => (rule.verdict key lines).outcome rule.source key)
        ∧ (∀ outcome ∈ report.rules,
            (outcome.extra = ∅ ∨ outcome.missing = ∅)
            ∧ ∀ path, path ∈ outcome.extra ∨ path ∈ outcome.missing → path = key)
        ∧ report.text
          = if ∀ rule ∈ ruleset.rules, rule.verdict key lines = .fits then Report.successLine
            else
              String.join
                  (ruleset.rules.flatMap fun rule => (rule.verdict key lines).lines rule.source)
                ++ "\n" ++ Report.failureLine := by
  intro key lines
  let verdicts (rule : Rule) : Verdict := rule.verdict key lines
  have whole : (files.contentAt target).fault? = none := by rw [opens, Files.Content.fault?]
  obtain ⟨report, ran, mode, count, shown⟩ := runSingleFile_shows ruleset whole
  have read : (files.contentAt target).lines = lines := by rw [opens, Files.Content.lines]; rfl
  have compared : Report.Shows
      (fun rule other => other = key ∧ ∃ line ∈ lines, rule.occursIn line = true)
      (fun rule other => other ∈ rule.expected ∧ other = key) ruleset.rules
      (ruleset.rules.map fun rule => (verdicts rule).outcome rule.source key) := by
    refine List.forall₂_map_right_iff.mpr (List.forall₂_same.mpr fun rule _ => ?_)
    exact ⟨rfl, rule.compares_verdict key lines⟩
  -- Outcomes that compare the same two sides are the same, so the run has those of the verdicts.
  have outcomes : report.rules
      = ruleset.rules.map fun rule => (verdicts rule).outcome rule.source key := by
    refine compared.unique shown (fun rule _ other => ?_) fun _ _ _ => .rfl
    rw [occursUnder_single_iff, read]
  obtain rfl : report = Report.ofVerdicts key verdicts ruleset.rules :=
    Report.ext mode outcomes count
  refine ⟨_, ran, mode, count, outcomes, ?_, Report.text_ofVerdicts⟩
  intro outcome member
  obtain ⟨rule, _, rfl⟩ := List.mem_map.mp member
  refine ⟨Verdict.extra_or_missing_eq_empty, ?_⟩
  intro path told
  rw [Verdict.mem_extra_outcome, Verdict.mem_missing_outcome] at told
  rcases told with extra | missing
  · exact extra.2
  · exact missing.2

/-- Three rules: one occurs where it is not sanctioned, one is sanctioned where it does not occur,
and one occurs where it is sanctioned.
-/
def judgedRuleset : Ruleset where
  scope := { included := [], excluded := [] }
  rules := [
    { source := "a", occursIn := (·.contains 0x61), expected := .ofList ["b"] },
    { source := "b", occursIn := (·.contains 0x62), expected := .ofList ["b", "f"] },
    { source := "^", occursIn := fun _ => true, expected := .ofList ["f"] }]

/-- Each of three rules has another verdict on a file, by an unusual spelling of its path. -/
theorem runSingleFile_verdicts_sample
    : ∃ report,
        runSingleFile judgedRuleset sampleFiles [0x2E, 0x2F, 0x2F, 0x66] = .ok report
        ∧ report.filesChecked = 1
        ∧ report.rules
          = [{ pattern := "a", extra := .ofList ["f"], missing := ∅ },
            { pattern := "b", extra := ∅, missing := .ofList ["f"] },
            { pattern := "^", extra := ∅, missing := ∅ }]
        ∧ report.text
          = "Lidded pattern 'a' found\nLidded pattern 'b' expected but not found\n"
            ++ "\n" ++ Report.failureLine := by
  have opens : sampleFiles.contentAt [0x2E, 0x2F, 0x2F, 0x66] = .stream [0x61, 0x0A] none := rfl
  obtain ⟨report, ran, _, count, outcomes, _, text⟩ :=
    runSingleFile_verdicts judgedRuleset opens
  exact ⟨report, ran, count, outcomes.trans rfl, text.trans rfl⟩

end Audit

end PatternAudit
