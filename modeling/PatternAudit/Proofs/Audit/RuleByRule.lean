import PatternAudit.Proofs.Audit.Running

/-! Runs rule by rule. What a run says of a rule is what it says of it alone: rules may be
rearranged, repeated and left out, and their outcomes follow them.
-/

namespace PatternAudit

-----------------------------------------------------------------------------------------
-- Items at positions
-----------------------------------------------------------------------------------------

/-- The items at some positions, in the order of the positions. Positions may come in any order
and more than once; one without item gives nothing.
-/
def select {α : Type} (positions : List Nat) (items : List α) : List α :=
  positions.filterMap (items[·]?)

/-- The item at a single position. -/
theorem select_singleton {α : Type} {items : List α} {position : Nat} {item : α}
    (found : items[position]? = some item)
    : select [position] items = [item] := by
  simp [select, found]

/-- What is selected from two lists whose items are related is related, by induction on the
positions.
-/
theorem forall₂_select {α β : Type} {related : α → β → Prop} {left : List α} {right : List β}
    (each : List.Forall₂ related left right) (positions : List Nat)
    : List.Forall₂ related (select positions left) (select positions right) := by
  induction positions with
  | nil => exact .nil
  | cons position positions ih =>
      by_cases inside : position < left.length
      · have inside' : position < right.length := each.length_eq ▸ inside
        have here : related left[position] right[position] := each.get inside inside'
        have found := List.getElem?_eq_getElem inside
        have found' := List.getElem?_eq_getElem inside'
        rw [select, select, List.filterMap_cons_some found, List.filterMap_cons_some found']
        exact .cons here ih
      · have outside' : ¬position < right.length := each.length_eq ▸ inside
        have absent := List.getElem?_eq_none (Nat.not_lt.mp inside)
        have absent' := List.getElem?_eq_none (Nat.not_lt.mp outside')
        rw [select, select, List.filterMap_cons_none absent, List.filterMap_cons_none absent']
        exact ih

/-- The report of the rules at some positions. -/
def Report.select (positions : List Nat) (report : Report) : Report :=
  { report with rules := PatternAudit.select positions report.rules }

/-- The configuration with the entries at some positions. -/
def Configuration.select (positions : List Nat) (config : Configuration) : Configuration :=
  { config with rules := PatternAudit.select positions config.rules }

/-- The rules at some positions, for the same scope. -/
def Ruleset.select (positions : List Nat) (ruleset : Ruleset) : Ruleset :=
  { ruleset with rules := PatternAudit.select positions ruleset.rules }

/-- The entries at some positions make the rules at these positions. -/
theorem Ruleset.buildWith_select {engine : Engine} {config : Configuration} {ruleset : Ruleset}
    (built : buildWith engine config = .ok ruleset) (positions : List Nat)
    : buildWith engine (config.select positions) = .ok (ruleset.select positions) := by
  obtain ⟨included, excluded, made⟩ := buildWith_eq_ok_iff.mp built
  exact buildWith_eq_ok_iff.mpr ⟨included, excluded, forall₂_select made positions⟩

/-- Configurations with the same patterns on keys have the same scope. -/
theorem Ruleset.scope_eq_of_buildWith {engine : Engine} {config : Configuration}
    {entries : List RuleEntry} {ruleset other : Ruleset}
    (built : buildWith engine config = .ok ruleset)
    (built' : buildWith engine { config with rules := entries } = .ok other)
    : other.scope = ruleset.scope := by
  obtain ⟨included, excluded, _⟩ := buildWith_eq_ok_iff.mp built
  obtain ⟨included', excluded', _⟩ := buildWith_eq_ok_iff.mp built'
  have inj {α : Type} : Function.Injective (Except.ok : α → Except Pattern.Fault α) :=
    fun _ _ => Except.ok.inj
  have sameIncluded := inj.list_map (included'.symm.trans included)
  have sameExcluded := inj.list_map (excluded'.symm.trans excluded)
  exact congrArg₂ Scope.mk sameIncluded sameExcluded

-----------------------------------------------------------------------------------------
-- Runs with some of the rules
-----------------------------------------------------------------------------------------

namespace Audit

open Files (FileSystem)

/-- A run with the rules at some positions is the run with all of them, of which the outcomes at
these positions are kept. Witness: the scanned files are the same, and they determine the outcome
of each rule.
-/
theorem run_select (ruleset : Ruleset) (positions : List Nat) (files : FileSystem)
    (order : Walk.Order) (plan : Plan)
    : run (ruleset.select positions) files order plan
      = (run ruleset files order plan).map (·.select positions) := by
  cases ran : run ruleset files order plan with
  | error failure =>
      have failed := run_eq_error_iff.mp ran
      exact run_eq_error_iff.mpr failed
  | ok report =>
      obtain ⟨found, scans, count, shown⟩ := run_shows ran
      have scans' : plan.Scans (ruleset.select positions).scope.accepts files found := scans
      obtain ⟨selected, ran'⟩ := exists_run scans' order
      obtain ⟨found', again, count', shown'⟩ := run_shows ran'
      obtain rfl : found' = found := again.unique scans'
      have mode : selected.mode = report.mode := (mode_of_run ran').trans (mode_of_run ran).symm
      have outcomes : selected.rules = select positions report.rules :=
        Report.Shows.unique (forall₂_select shown positions) shown' (fun _ _ _ => .rfl)
          fun _ _ _ => .rfl
      rw [ran']
      exact congrArg Except.ok (Report.ext mode outcomes (count'.trans count.symm))

/-- How far a run reached, whatever its rules: what it scanned and how many files. -/
def extent (report : Report) : Report.Mode × Nat :=
  (report.mode, report.filesChecked)

/-- How far a run reaches is the same for all lists of rules: it is that of the run without rules.
-/
theorem run_extent {ruleset other : Ruleset} (sameScope : other.scope = ruleset.scope)
    (files : FileSystem) (order : Walk.Order) (plan : Plan)
    : (run other files order plan).map extent = (run ruleset files order plan).map extent := by
  have without : other.select [] = ruleset.select [] := by
    rw [Ruleset.select, Ruleset.select, sameScope]
    rfl
  have reaches (ruleset : Ruleset)
      : (run ruleset files order plan).map extent
        = (run (ruleset.select []) files order plan).map extent := by
    rw [run_select]
    cases run ruleset files order plan <;> rfl
  rw [reaches other, without, ← reaches ruleset]

/-- Rules do not interfere. For every configuration that was built and every run over any files,
of a tree or of a single file: with any other list of rules that can be built, none included, the
run fails in the same way or scans as many files; the outcome of each rule is the only outcome of
the run with that rule alone; and rearranging, repeating or leaving out rules does the same to
their outcomes and changes nothing else.
-/
theorem run_rule_by_rule (engine : Engine) {config : Configuration} {ruleset : Ruleset}
    (built : Ruleset.buildWith engine config = .ok ruleset) (files : FileSystem)
    (order : Walk.Order) (plan : Plan)
    : (∀ entries other,
        Ruleset.buildWith engine { config with rules := entries } = .ok other
        → (run other files order plan).map extent = (run ruleset files order plan).map extent)
      ∧ (∀ (position : Nat) (entry : RuleEntry),
          config.rules[position]? = some entry
          → ∃ alone,
              Ruleset.buildWith engine { config with rules := [entry] } = .ok alone
              ∧ ∀ report,
                  run ruleset files order plan = .ok report
                  → ∃ outcome,
                      report.rules[position]? = some outcome
                      ∧ run alone files order plan = .ok { report with rules := [outcome] })
      ∧ ∀ positions,
          Ruleset.buildWith engine (config.select positions) = .ok (ruleset.select positions)
          ∧ run (ruleset.select positions) files order plan
            = (run ruleset files order plan).map (·.select positions) := by
  refine ⟨fun entries other built' => ?_, fun position entry isEntry => ?_, fun positions => ?_⟩
  · exact run_extent (Ruleset.scope_eq_of_buildWith built built') files order plan
  · refine ⟨ruleset.select [position], ?_, fun report ran => ?_⟩
    · rw [← select_singleton isEntry]
      exact Ruleset.buildWith_select built [position]
    · obtain ⟨_, _, _, shown⟩ := run_shows ran
      have inside : position < report.rules.length := by
        rw [← shown.length_eq, Ruleset.length_rules_of_buildWith built]
        exact (List.getElem?_eq_some_iff.mp isEntry).1
      have here := List.getElem?_eq_getElem inside
      refine ⟨_, here, ?_⟩
      rw [run_select, ran, ← select_singleton here]
      rfl
  · exact ⟨Ruleset.buildWith_select built positions, run_select ruleset positions files order plan⟩

/-- Two rules, of which one is sanctioned where it does not occur. -/
def pairedConfiguration : Configuration :=
  { sampleConfiguration with
    rules := [{ pattern := "a", expected := ["./b"] }, { pattern := "b", expected := ["f"] }] }

/-- A tree in which only one of two rules occurs: with the rules swapped and one of them repeated,
the outcomes are too, and the second rule alone has the second outcome. Without rules the run
counts the same file.
-/
theorem run_rule_by_rule_sample
    : ∃ ruleset report swapped alone bare,
        Ruleset.buildWith .standard pairedConfiguration = .ok ruleset
        ∧ run ruleset sampleFiles .listed (.tree [Path.dot]) = .ok report
        ∧ report.rules
          = [{ pattern := "a", extra := .ofList ["f"], missing := .ofList ["b"] },
            { pattern := "b", extra := ∅, missing := .ofList ["f"] }]
        ∧ Ruleset.buildWith .standard (pairedConfiguration.select [1, 0, 1]) = .ok swapped
        ∧ run swapped sampleFiles .listed (.tree [Path.dot]) = .ok (report.select [1, 0, 1])
        ∧ (report.select [1, 0, 1]).rules.map (·.pattern) = ["b", "a", "b"]
        ∧ Ruleset.buildWith .standard
            { pairedConfiguration with rules := [{ pattern := "b", expected := ["f"] }] }
          = .ok alone
        ∧ run alone sampleFiles .listed (.tree [Path.dot])
          = .ok { report with
                  rules := [{ pattern := "b", extra := ∅, missing := .ofList ["f"] }] }
        ∧ Ruleset.buildWith .standard { pairedConfiguration with rules := [] } = .ok bare
        ∧ (run bare sampleFiles .listed (.tree [Path.dot])).map extent = .ok (.tree, 1) := by
  obtain ⟨ruleset, built, report, ran, outcomes, count⟩
      : ∃ ruleset,
          Ruleset.buildWith .standard pairedConfiguration = .ok ruleset
          ∧ ∃ report,
              run ruleset sampleFiles .listed (.tree [Path.dot]) = .ok report
              ∧ report.rules
                = [{ pattern := "a", extra := .ofList ["f"], missing := .ofList ["b"] },
                  { pattern := "b", extra := ∅, missing := .ofList ["f"] }]
              ∧ extent report = (.tree, 1) :=
    ⟨_, rfl, _, rfl, rfl, rfl⟩
  obtain ⟨reaches, singles, rearranges⟩ :=
    run_rule_by_rule .standard built sampleFiles .listed (.tree [Path.dot])
  obtain ⟨alone, builtAlone, ranAlone⟩ := singles 1 _ rfl
  obtain ⟨outcome, isSecond, single⟩ := ranAlone report ran
  obtain ⟨builtSwapped, ranSwapped⟩ := rearranges [1, 0, 1]
  have without : Ruleset.buildWith .standard { pairedConfiguration with rules := [] }
      = .ok (ruleset.select []) :=
    (rearranges []).1
  rw [outcomes] at isSecond
  obtain rfl := Option.some.inj isSecond
  refine ⟨ruleset, report, _, alone, _, built, ran, outcomes, builtSwapped, ?_, ?_, builtAlone,
    single, without, ?_⟩
  · rw [ranSwapped, ran]
    rfl
  · rw [Report.select, outcomes]
    rfl
  · rw [reaches [] _ without, ran]
    exact congrArg Except.ok count

end Audit

end PatternAudit
