import PatternAudit.Proofs.Audit.Running

/-! Runs stay in scope. Scanning a single file asks nothing of the scope, and scanning a tree asks
nothing of the target: it is the choice of the plan by which only files in scope are reported.
-/

namespace PatternAudit.Audit

open Files (Content FileSystem)

-----------------------------------------------------------------------------------------
-- The choice of a plan
-----------------------------------------------------------------------------------------

section Plans

variable {ruleset : Ruleset} {target : Option Bytes} {root : Bytes}

/-- A target in scope is scanned alone, whatever the root. -/
theorem plan_of_accepted {path : Bytes}
    (inScope : ruleset.scope.accepts (Path.key path) = true)
    : plan ruleset (some path) root = .singleFile path :=
  if_pos inScope

/-- A target out of scope is planned as if it were not given. -/
theorem plan_of_rejected {path : Bytes}
    (outOfScope : ruleset.scope.accepts (Path.key path) = false)
    : plan ruleset (some path) root = plan ruleset none root :=
  if_neg (by simp [outOfScope])

/-- A single file is planned exactly for a target in scope. -/
theorem mode_plan_eq_singleFile_iff
    : (plan ruleset target root).mode = .singleFile
      ↔ ∃ path, target = some path ∧ ruleset.scope.accepts (Path.key path) = true := by
  cases target with
  | none => simp [plan, Plan.mode]
  | some path =>
      cases accepted : ruleset.scope.accepts (Path.key path) with
      | true => simp [plan_of_accepted accepted, Plan.mode, accepted]
      | false => simp [plan, Plan.mode, accepted]

/-- What a chosen plan scans is in scope. Witness: a tree keeps the files in scope of those that it
meets, and a single file was chosen for being in scope.
-/
theorem accepts_of_scans_plan {files : FileSystem} {found : List (Bytes × Content)}
    (scans : (plan ruleset target root).Scans ruleset.scope.accepts files found)
    : ∀ file ∈ found, ruleset.scope.accepts (Path.key file.1) = true := by
  have ofTree (scans : (Plan.tree root).Scans ruleset.scope.accepts files found)
      : ∀ file ∈ found, ruleset.scope.accepts (Path.key file.1) = true := by
    obtain ⟨node, _, _, rfl⟩ := scans
    intro file member
    exact (List.mem_filter.mp member).2
  cases target with
  | none => exact ofTree scans
  | some path =>
      cases accepted : ruleset.scope.accepts (Path.key path) with
      | true =>
          rw [plan_of_accepted accepted] at scans
          obtain ⟨_, rfl⟩ := scans
          exact List.forall_mem_singleton.mpr accepted
      | false =>
          rw [plan_of_rejected accepted] at scans
          exact ofTree scans

-----------------------------------------------------------------------------------------
-- Reports of chosen plans
-----------------------------------------------------------------------------------------

variable {files : FileSystem} {order : Walk.Order} {report : Report}

/-- The outcome at a position is that of the rule there. What it has as extra is in scope, and what
it misses is sanctioned for the rule.
-/
theorem outcome_of_run_plan
    (ran : run ruleset files order (plan ruleset target root) = .ok report) {position : Nat}
    {outcome : RuleReport} (found : report.rules[position]? = some outcome)
    : ∃ rule,
        ruleset.rules[position]? = some rule
        ∧ outcome.pattern = rule.source
        ∧ (∀ key ∈ outcome.extra, ruleset.scope.accepts key = true)
        ∧ ∀ key ∈ outcome.missing, key ∈ rule.expected := by
  obtain ⟨scanned, scans, _, shown⟩ := run_shows ran
  obtain ⟨rule, isRule, pattern, compares⟩ := shown.rule found
  refine ⟨rule, isRule, pattern, ?_, ?_⟩
  · intro key extra
    obtain ⟨⟨file, isScanned, rfl, _⟩, _⟩ := (compares.extra key).mp extra
    exact accepts_of_scans_plan scans file isScanned
  · intro key missing
    exact ((compares.missing key).mp missing).1.1

end Plans

/-- Runs of chosen plans stay in scope. For all rules, targets, roots and files, in every order of
siblings: a report has the mode of a single file exactly if a target in scope was given, and each
of its outcomes is that of the rule at its position, with extra keys that are in scope and missing
keys that are expected by the rule. If the rules were built from a configuration, these are keys of
files that the entry at that position expects. A target out of scope, whether or not it exists,
gives the same result as none, and for a target in scope the result is the same for every root.
-/
theorem run_within_scope (ruleset : Ruleset) (target : Option Bytes) (root : Bytes)
    (files : FileSystem) (order : Walk.Order)
    : (∀ report,
        run ruleset files order (plan ruleset target root) = .ok report
        → (report.mode = .singleFile
            ↔ ∃ path, target = some path ∧ ruleset.scope.accepts (Path.key path) = true)
          ∧ ∀ (position : Nat) (outcome : RuleReport),
              report.rules[position]? = some outcome
              → ∃ rule,
                  ruleset.rules[position]? = some rule
                  ∧ outcome.pattern = rule.source
                  ∧ (∀ key ∈ outcome.extra, ruleset.scope.accepts key = true)
                  ∧ (∀ key ∈ outcome.missing, key ∈ rule.expected)
                  ∧ ∀ engine config,
                      Ruleset.buildWith engine config = .ok ruleset
                      → ∃ entry : RuleEntry,
                          config.rules[position]? = some entry
                          ∧ ∀ key ∈ outcome.missing,
                              ∃ path ∈ entry.expected, Path.textKey path = key)
      ∧ (∀ path,
          target = some path
          → ruleset.scope.accepts (Path.key path) = false
          → run ruleset files order (plan ruleset target root)
            = run ruleset files order (plan ruleset none root))
      ∧ ∀ path,
          target = some path
          → ruleset.scope.accepts (Path.key path) = true
          → ∀ other,
              run ruleset files order (plan ruleset target root)
              = run ruleset files order (plan ruleset target other) := by
  refine ⟨?_, ?_, ?_⟩
  · intro report ran
    refine ⟨by rw [mode_of_run ran, mode_plan_eq_singleFile_iff], ?_⟩
    intro position outcome found
    obtain ⟨rule, isRule, pattern, extra, missing⟩ := outcome_of_run_plan ran found
    refine ⟨rule, isRule, pattern, extra, missing, ?_⟩
    intro engine config built
    obtain ⟨entry, isEntry, _, _, expected⟩ := Ruleset.entry_of_buildWith built isRule
    refine ⟨entry, isEntry, fun key isMissing => ?_⟩
    exact List.mem_map.mp ((expected key).mp (missing key isMissing))
  · intro path given outOfScope
    rw [given, plan_of_rejected outOfScope]
  · intro path given inScope other
    rw [given, plan_of_accepted inScope, plan_of_accepted inScope]

/-- One rule, for the file `f` only. -/
def scopedRuleset : Ruleset where
  scope := { included := [(· == "f")], excluded := [] }
  rules := [{ source := "a", occursIn := (·.contains 0x61), expected := .ofList ["b"] }]

/-- A target in scope is scanned even if the root does not exist, and a target out of scope that
does not exist gives the report of the tree.
-/
theorem run_within_scope_sample
    : ∃ single tree,
        run scopedRuleset sampleFiles .listed (plan scopedRuleset (some [0x66]) [0x78])
          = .ok single
        ∧ single.mode = .singleFile
        ∧ run scopedRuleset sampleFiles .listed (plan scopedRuleset (some [0x78]) [Path.dot])
          = .ok tree
        ∧ tree.mode ≠ .singleFile
        ∧ tree.rules.map (·.extra) = [.ofList ["f"]] := by
  obtain ⟨single, ranSingle⟩
      : ∃ single,
          run scopedRuleset sampleFiles .listed (plan scopedRuleset (some [0x66]) [Path.dot])
          = .ok single :=
    ⟨_, rfl⟩
  obtain ⟨tree, ranTree, extra⟩
      : ∃ tree,
          run scopedRuleset sampleFiles .listed (plan scopedRuleset none [Path.dot]) = .ok tree
          ∧ tree.rules.map (·.extra) = [.ofList ["f"]] :=
    ⟨_, rfl, rfl⟩
  obtain ⟨_, _, anyRoot⟩ :=
    run_within_scope scopedRuleset (some [0x66]) [0x78] sampleFiles .listed
  obtain ⟨ofTree, rejected, _⟩ :=
    run_within_scope scopedRuleset (some [0x78]) [Path.dot] sampleFiles .listed
  have ranSingle' := (anyRoot _ rfl rfl [Path.dot]).trans ranSingle
  have ranTree' := (rejected _ rfl rfl).trans ranTree
  refine ⟨single, tree, ranSingle', mode_of_run ranSingle', ranTree', ?_, extra⟩
  rw [Ne, (ofTree tree ranTree').1]
  intro given
  obtain ⟨path, isTarget, inScope⟩ := given
  cases isTarget
  exact absurd inScope (by decide)

end PatternAudit.Audit
