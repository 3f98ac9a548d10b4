import PatternAudit.Proofs.Audit.Running

/-! Acting on a report. A configuration that gives up the expected files which a report misses,
and takes on those which it has as extra, is one with which the same run passes.
-/

namespace PatternAudit

open Files (Node Content FileSystem)

-----------------------------------------------------------------------------------------
-- Configurations edited by a report
-----------------------------------------------------------------------------------------

/-- An entry edited by its outcome: of the expected files, those that are not missing stay, and
the extra ones are added as they are shown.
-/
def RuleEntry.settle (entry : RuleEntry) (outcome : RuleReport) : RuleEntry :=
  { entry with
    expected :=
      entry.expected.filter (fun path => decide (Path.textKey path ∉ outcome.missing))
        ++ outcome.extra.toList }

/-- A configuration whose entries are edited by their outcomes. -/
def Configuration.settle (config : Configuration) (report : Report) : Configuration :=
  { config with rules := List.zipWith RuleEntry.settle config.rules report.rules }

/-- An edited entry expects what it expected, but for what was missing, and what was extra. -/
theorem RuleEntry.mem_expected_settle {entry : RuleEntry} {outcome : RuleReport} {key : String}
    : key ∈ (entry.settle outcome).expected.map Path.textKey
      ↔ (key ∈ entry.expected.map Path.textKey ∧ key ∉ outcome.missing)
        ∨ ∃ extra ∈ outcome.extra, Path.textKey extra = key := by
  have kept : key ∈ (entry.expected.filter
          (fun path => decide (Path.textKey path ∉ outcome.missing))).map Path.textKey
      ↔ key ∈ entry.expected.map Path.textKey ∧ key ∉ outcome.missing := by
    simp only [List.mem_map, List.mem_filter, decide_eq_true_eq]
    constructor
    · rintro ⟨path, ⟨member, stays⟩, rfl⟩
      exact ⟨⟨path, member, rfl⟩, stays⟩
    · rintro ⟨⟨path, member, rfl⟩, stays⟩
      exact ⟨path, ⟨member, stays⟩, rfl⟩
  rw [settle, List.map_append, List.mem_append, kept, List.mem_map (l := outcome.extra.toList)]
  rfl

/-- The edited entry at a position is the entry there, edited by the outcome there. -/
theorem Configuration.rules_settle {config : Configuration} {report : Report} {position : Nat}
    {edited : RuleEntry} (found : (config.settle report).rules[position]? = some edited)
    : ∃ entry outcome,
        config.rules[position]? = some entry
        ∧ report.rules[position]? = some outcome
        ∧ entry.settle outcome = edited :=
  List.getElem?_zipWith_eq_some.mp found

/-- A report with an outcome for every entry loses none of them: their patterns stay in order. -/
theorem Configuration.patterns_settle {config : Configuration} {report : Report}
    (complete : report.rules.length = config.rules.length)
    : (config.settle report).rules.map (·.pattern) = config.rules.map (·.pattern) := by
  refine List.ext_getElem (by simp [settle, complete]) fun position _ _ => ?_
  simp [settle, RuleEntry.settle]

/-- Editing leaves every pattern as it is, so the patterns compile as before. -/
theorem Configuration.Compiles.settle {engine : Engine} {config : Configuration}
    (compiles : config.Compiles engine) (report : Report)
    : (config.settle report).Compiles engine where
  included := compiles.included
  excluded := compiles.excluded
  rules := by
    intro edited member
    obtain ⟨position, found⟩ := List.mem_iff_getElem?.mp member
    obtain ⟨entry, outcome, isEntry, _, rfl⟩ := rules_settle found
    exact compiles.rules entry (List.mem_of_getElem? isEntry)

-----------------------------------------------------------------------------------------
-- Rules built after editing
-----------------------------------------------------------------------------------------

namespace Ruleset

section Settled

variable {engine : Engine} {config : Configuration} {report : Report}
variable {ruleset settled : Ruleset}

/-- Editing leaves the scope as it is. -/
theorem accepts_of_settled (built : buildWith engine config = .ok ruleset)
    (rebuilt : buildWith engine (config.settle report) = .ok settled)
    : settled.scope.accepts = ruleset.scope.accepts := by
  funext key
  rw [accepts_of_buildWith rebuilt, accepts_of_buildWith built]
  rfl

/-- A rule built after editing is the one built before, but for where it is sanctioned. -/
theorem rule_of_settled (built : buildWith engine config = .ok ruleset)
    (rebuilt : buildWith engine (config.settle report) = .ok settled) {position : Nat}
    {edited : Rule} (found : settled.rules[position]? = some edited)
    : ∃ rule outcome,
        ruleset.rules[position]? = some rule
        ∧ report.rules[position]? = some outcome
        ∧ (∀ line, edited.occursIn line = rule.occursIn line)
        ∧ ∀ key,
            key ∈ edited.expected
            ↔ (key ∈ rule.expected ∧ key ∉ outcome.missing)
              ∨ ∃ extra ∈ outcome.extra, Path.textKey extra = key := by
  obtain ⟨_, isEdited, _, occurs', expected'⟩ := entry_of_buildWith rebuilt found
  obtain ⟨entry, outcome, isEntry, isOutcome, edits⟩ := Configuration.rules_settle isEdited
  obtain ⟨rule, isRule, _, occurs, expected⟩ := rule_of_buildWith built isEntry
  rw [← edits] at occurs' expected'
  refine ⟨rule, outcome, isRule, isOutcome, fun line => ?_, fun key => ?_⟩
  · exact (occurs' line).trans (occurs line).symm
  · rw [expected', RuleEntry.mem_expected_settle, expected]

end Settled

end Ruleset

-----------------------------------------------------------------------------------------
-- Runs after editing
-----------------------------------------------------------------------------------------

/-- A rule occurs where a rule with the same test does. -/
theorem Rule.occursUnder_congr {found : List (Bytes × Content)} {rule other : Rule}
    (same : ∀ line, other.occursIn line = rule.occursIn line) (key : String)
    : other.OccursUnder found key ↔ rule.OccursUnder found key := by
  simp only [OccursUnder, same]

/-- Giving up what is missing and taking on what is extra leaves exactly what was seen. Keys that
an outcome is not about stay out of it, and the keys of paths are their own keys.
-/
theorem RuleReport.Compares.settled {outcome : RuleReport}
    {seen sanctioned about : String → Prop}
    (compares : outcome.Compares seen fun key => sanctioned key ∧ about key)
    (within : ∀ key, seen key → about key) (own : ∀ key, seen key → Path.textKey key = key)
    (key : String)
    : (((sanctioned key ∧ key ∉ outcome.missing)
          ∨ ∃ extra ∈ outcome.extra, Path.textKey extra = key)
        ∧ about key)
      ↔ seen key := by
  have isExtra : (∃ extra ∈ outcome.extra, Path.textKey extra = key) ↔ key ∈ outcome.extra := by
    constructor
    · rintro ⟨extra, member, rfl⟩
      rwa [own extra ((compares.extra extra).mp member).1]
    · intro member
      exact ⟨key, member, own key ((compares.extra key).mp member).1⟩
  rw [isExtra, compares.extra, compares.missing]
  have inside := within key
  tauto

namespace Audit

/-- Acting on a report makes the run pass. For every configuration that was built and every run
over any files, of a tree or of a single file: if the run gives a report, then the configuration
edited by that report keeps every pattern and can be built too, and the same run with it, in any
order of siblings, gives a report that passes and counts as many files.
-/
theorem run_settled (engine : Engine) {config : Configuration} {ruleset : Ruleset}
    (built : Ruleset.buildWith engine config = .ok ruleset) {files : FileSystem}
    {order : Walk.Order} {plan : Plan} {report : Report}
    (ran : run ruleset files order plan = .ok report)
    : (config.settle report).rules.map (·.pattern) = config.rules.map (·.pattern)
      ∧ ∃ settled,
          Ruleset.buildWith engine (config.settle report) = .ok settled
          ∧ ∀ other : Walk.Order,
              ∃ again,
                run settled files other plan = .ok again
                ∧ again.passed = true
                ∧ again.filesChecked = report.filesChecked := by
  obtain ⟨settled, rebuilt⟩ :=
    Ruleset.exists_buildWith ((Ruleset.compiles_of_buildWith built).settle report)
  obtain ⟨found, scans, count, shown⟩ := run_shows ran
  have accepts := Ruleset.accepts_of_settled built rebuilt
  have complete : report.rules.length = config.rules.length :=
    shown.length_eq.symm.trans (Ruleset.length_rules_of_buildWith built)
  refine ⟨Configuration.patterns_settle complete, settled, rebuilt, fun other => ?_⟩
  obtain ⟨again, ranAgain⟩ := exists_run (accepts.symm ▸ scans) other
  obtain ⟨found', scans', count', shown'⟩ := run_shows ranAgain
  obtain rfl : found' = found := (accepts ▸ scans').unique scans
  refine ⟨again, ranAgain, shown'.all_passed_iff.mpr ?_, count'.trans count.symm⟩
  intro edited member key
  obtain ⟨position, isEdited⟩ := List.mem_iff_getElem?.mp member
  obtain ⟨rule, outcome, isRule, isOutcome, occurs, expected⟩ :=
    Ruleset.rule_of_settled built rebuilt isEdited
  obtain ⟨outcome', isOutcome', _, compares⟩ := shown.outcome isRule
  obtain rfl : outcome' = outcome := Option.some.inj (isOutcome'.symm.trans isOutcome)
  have within : ∀ key, rule.OccursUnder found' key → plan.IsAbout key := by
    rintro _ ⟨file, isFile, rfl, _⟩
    exact scans.isAbout file isFile
  have own : ∀ key, rule.OccursUnder found' key → Path.textKey key = key := by
    rintro _ ⟨file, _, rfl, _⟩
    exact Path.textKey_key file.1
  rw [Rule.occursUnder_congr occurs, expected]
  exact (compares.settled within own key).symm

/-- A tree with an unsanctioned file and a stale exception, and a single file that is not
sanctioned: acting on each report makes its run pass.
-/
theorem run_settled_sample
    : ∃ ruleset tree settled again single resettled passing,
        Ruleset.buildWith .standard sampleConfiguration = .ok ruleset
        ∧ run ruleset sampleFiles .listed (.tree [Path.dot]) = .ok tree
        ∧ tree.passed = false
        ∧ (sampleConfiguration.settle tree).rules.map (·.expected) = [["f"]]
        ∧ Ruleset.buildWith .standard (sampleConfiguration.settle tree) = .ok settled
        ∧ run settled sampleFiles .descending (.tree [Path.dot]) = .ok again
        ∧ again.passed = true
        ∧ run ruleset sampleFiles .listed (.singleFile [0x67]) = .ok single
        ∧ (sampleConfiguration.settle single).rules.map (·.expected) = [["./b", "g"]]
        ∧ Ruleset.buildWith .standard (sampleConfiguration.settle single) = .ok resettled
        ∧ run resettled sampleFiles .listed (.singleFile [0x67]) = .ok passing
        ∧ passing.passed = true := by
  obtain ⟨ruleset, built, tree, ranTree, failed, edited, single, ranSingle, edited'⟩
      : ∃ ruleset,
          Ruleset.buildWith .standard sampleConfiguration = .ok ruleset
          ∧ ∃ tree,
              run ruleset sampleFiles .listed (.tree [Path.dot]) = .ok tree
              ∧ tree.passed = false
              ∧ (sampleConfiguration.settle tree).rules.map (·.expected) = [["f"]]
              ∧ ∃ single,
                  run ruleset sampleFiles .listed (.singleFile [0x67]) = .ok single
                  ∧ (sampleConfiguration.settle single).rules.map (·.expected)
                    = [["./b", "g"]] :=
    ⟨_, rfl, _, rfl, rfl, rfl, _, rfl, rfl⟩
  obtain ⟨_, settled, rebuilt, runs⟩ := run_settled .standard built ranTree
  obtain ⟨again, ranAgain, passed, _⟩ := runs .descending
  obtain ⟨_, resettled, rebuilt', runs'⟩ := run_settled .standard built ranSingle
  obtain ⟨passing, ranPassing, passed', _⟩ := runs' .listed
  exact ⟨ruleset, tree, settled, again, single, resettled, passing, built, ranTree, failed,
    edited, rebuilt, ranAgain, passed, ranSingle, edited', rebuilt', ranPassing, passed'⟩

end Audit

end PatternAudit
