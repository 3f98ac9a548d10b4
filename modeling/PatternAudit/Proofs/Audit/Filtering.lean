import PatternAudit.Proofs.Audit.Scoping

/-! Configurations with other patterns on keys. More exclude patterns or fewer include patterns
leave less to scan: what is extra can only become less, and what is missing can only become more.
Neither the order nor the repetition of patterns matters.
-/

namespace PatternAudit

open Files (Node Content FileSystem)

-----------------------------------------------------------------------------------------
-- Tighter configurations
-----------------------------------------------------------------------------------------

/-- A configuration leaves out include patterns of another and adds exclude patterns to its own, at
any places and with any repetitions. The rules are the same.
-/
structure Configuration.Tightens (tight loose : Configuration) : Prop where
  included : tight.included ⊆ loose.included
  excluded : loose.excluded ⊆ tight.excluded
  rules : tight.rules = loose.rules

variable {engine : Engine} {tight loose : Configuration}

/-- What a tighter configuration selects was selected before. -/
theorem Configuration.Tightens.selects (tightens : tight.Tightens loose) {key : String}
    (selected : tight.selects engine key = true)
    : loose.selects engine key = true := by
  simp only [Configuration.selects, Bool.and_eq_true, Bool.not_eq_true', List.any_eq_true,
    List.any_eq_false] at selected ⊢
  obtain ⟨free, pattern, isIncluded, matched⟩ := selected
  refine ⟨?_, pattern, tightens.included isIncluded, matched⟩
  intro other isExcluded
  exact free other (tightens.excluded isExcluded)

namespace Ruleset

variable {ruleset : Ruleset}

/-- A tighter configuration can be built if its exclude patterns compile. It has the same rules, and
accepts no more keys.
-/
theorem exists_buildWith_tightened (built : buildWith engine loose = .ok ruleset)
    (tightens : tight.Tightens loose)
    (compiles : ∀ pattern ∈ tight.excluded, ∃ test, engine.text pattern = .ok test)
    : ∃ tightened,
        buildWith engine tight = .ok tightened
        ∧ tightened.rules = ruleset.rules
        ∧ ∀ key, tightened.scope.accepts key = true → ruleset.scope.accepts key = true := by
  have compilesLoose := compiles_of_buildWith built
  have compilesTight : tight.Compiles engine := {
    included := fun pattern member => compilesLoose.included pattern (tightens.included member)
    excluded := compiles
    rules := tightens.rules ▸ compilesLoose.rules }
  obtain ⟨tightened, built'⟩ := exists_buildWith compilesTight
  refine ⟨tightened, built', rules_eq_of_buildWith built' built tightens.rules, ?_⟩
  intro key accepted
  rw [accepts_of_buildWith built'] at accepted
  rw [accepts_of_buildWith built]
  exact tightens.selects accepted

end Ruleset

-----------------------------------------------------------------------------------------
-- Outcomes of tighter runs
-----------------------------------------------------------------------------------------

/-- An outcome has no more extra keys and no fewer missing ones than another of the same pattern. -/
structure RuleReport.Tightens (tight loose : RuleReport) : Prop where
  pattern : tight.pattern = loose.pattern
  extra : ∀ key ∈ tight.extra, key ∈ loose.extra
  missing : ∀ key ∈ loose.missing, key ∈ tight.missing

/-- Where less is seen, less is extra and more is missing. -/
theorem RuleReport.Compares.tightens {left right : RuleReport}
    {fewer seen sanctioned : String → Prop} (compares : left.Compares fewer sanctioned)
    (compares' : right.Compares seen sanctioned) (pattern : left.pattern = right.pattern)
    (within : ∀ key, fewer key → seen key)
    : left.Tightens right where
  pattern := pattern
  extra := by
    intro key extra
    obtain ⟨seenHere, unsanctioned⟩ := (compares.extra key).mp extra
    exact (compares'.extra key).mpr ⟨within key seenHere, unsanctioned⟩
  missing := by
    intro key missing
    obtain ⟨isSanctioned, unseen⟩ := (compares'.missing key).mp missing
    exact (compares.missing key).mpr ⟨isSanctioned, fun seenHere => unseen (within key seenHere)⟩

/-- Outcomes of the same rules tighten each other one by one where less is seen of every rule, by
induction on the rules.
-/
theorem Report.Shows.tightens {fewer seen sanctioned : Rule → String → Prop} {rules : List Rule}
    {outcomes outcomes' : List RuleReport} (shows' : Shows fewer sanctioned rules outcomes)
    (others : Shows seen sanctioned rules outcomes')
    (within : ∀ rule key, fewer rule key → seen rule key)
    : List.Forall₂ RuleReport.Tightens outcomes outcomes' := by
  induction shows' generalizing outcomes' with
  | nil =>
      cases others
      exact .nil
  | @cons rule _ _ _ first _ ih =>
      cases others with
      | cons first' rest' =>
          have samePattern := first.1.trans first'.1.symm
          exact .cons (first.2.tightens first'.2 samePattern (within rule)) (ih rest')

/-- A rule that occurs in some of the files occurs in all of them. -/
theorem Rule.OccursUnder.mono {found others : List (Bytes × Content)} {rule : Rule} {key : String}
    (occurs : rule.OccursUnder found key) (within : found ⊆ others)
    : rule.OccursUnder others key := by
  obtain ⟨file, member, told⟩ := occurs
  exact ⟨file, within member, told⟩

-----------------------------------------------------------------------------------------
-- Runs with the same scope
-----------------------------------------------------------------------------------------

section SameScope

variable {left right : Ruleset}

/-- Exploring asks of the scope only which keys it accepts, by induction on the visits. -/
theorem Observations.matchVisits_congr (rules : left.rules = right.rules)
    (accepts : left.scope.accepts = right.scope.accepts) (seen : Observations)
    (visits : List Walk.Visit)
    : seen.matchVisits left visits = seen.matchVisits right visits := by
  induction visits generalizing seen with
  | nil => rfl
  | cons visit visits ih =>
      cases visit with
      | failed failure => rfl
      | file path content => simp only [matchVisits, rules, accepts, ih]

/-- Reporting asks nothing of the scope. -/
theorem Audit.conclude_congr (rules : left.rules = right.rules) (mode : Report.Mode)
    (outcome : Observations × Option ReadFailure)
    : conclude left mode outcome = conclude right mode outcome := by
  obtain ⟨seen, ending⟩ := outcome
  cases ending with
  | none => simp only [conclude, Report.reconcile, rules]
  | some failure => rfl

/-- Runs ask of the scope only which keys it accepts. -/
theorem Audit.run_congr (rules : left.rules = right.rules)
    (accepts : left.scope.accepts = right.scope.accepts) (files : FileSystem)
    (order : Walk.Order) (plan : Plan)
    : run left files order plan = run right files order plan := by
  have explored (root : Bytes)
      : (Observations.emptyFor left).explore left files order root
        = (Observations.emptyFor right).explore right files order root := by
    rw [Observations.emptyFor, Observations.emptyFor, rules]
    exact Observations.matchVisits_congr rules accepts _ _
  have narrowed (key : String) : (left.narrow key).rules = (right.narrow key).rules := by
    rw [Ruleset.narrow, Ruleset.narrow, rules]
  cases plan with
  | tree root => rw [run, run, runTree, runTree, explored, conclude_congr rules]
  | singleFile target =>
      rw [run, run, runSingleFile, runSingleFile, Observations.emptyFor, Observations.emptyFor,
        narrowed, conclude_congr (narrowed _)]

end SameScope

-----------------------------------------------------------------------------------------
-- Runs with other patterns on keys
-----------------------------------------------------------------------------------------

namespace Audit

/-- The same rules with a smaller scope have a report of every tree that has one: it counts no more
files, and its outcomes tighten those of the larger scope.
-/
theorem exists_runTree_tightened {left right : Ruleset} (rules : left.rules = right.rules)
    (within : ∀ key, left.scope.accepts key = true → right.scope.accepts key = true)
    {files : FileSystem} {order : Walk.Order} {root : Bytes} {report : Report}
    (ran : runTree right files order root = .ok report) (other : Walk.Order)
    : ∃ tightened,
        runTree left files other root = .ok tightened
        ∧ tightened.filesChecked ≤ report.filesChecked
        ∧ List.Forall₂ RuleReport.Tightens tightened.rules report.rules := by
  obtain ⟨node, started, readable, _, count, shown⟩ := runTree_shows ran
  obtain ⟨tightened, ran'⟩ := exists_runTree started (readable.mono within) other
  obtain ⟨node', started', _, _, count', shown'⟩ := runTree_shows ran'
  obtain rfl : node' = node := Except.ok.inj (started'.symm.trans started)
  have fewer := Walk.accepted_sublist within root node'
  refine ⟨tightened, ran', ?_, ?_⟩
  · rw [count, count']
    exact fewer.length_le
  · rw [rules] at shown'
    exact shown'.tightens shown fun _ _ occurs => occurs.mono fewer.subset

/-- A key that an exclude pattern matches is not in scope. -/
theorem not_matches_of_accepts {engine : Engine} {config : Configuration} {ruleset : Ruleset}
    (built : Ruleset.buildWith engine config = .ok ruleset) {key : String}
    (accepted : ruleset.scope.accepts key = true)
    : ∀ pattern ∈ config.excluded, compiledMatches (engine.text pattern) key = false := by
  rw [Ruleset.accepts_of_buildWith built, Configuration.selects, Bool.and_eq_true,
    Bool.not_eq_true', List.any_eq_false] at accepted
  intro pattern isExcluded
  exact Bool.eq_false_iff.mpr (accepted.1 pattern isExcluded)

/-- Changes of the filter and their effect on reports. For every configuration that was built: a
tighter one, whose new exclude patterns compile, can be built too, and has a report of every tree
that the first has one of, with no more files counted, no more extra keys and no fewer missing
ones of each rule. Whatever the include patterns are, no extra key of a run, of a tree or of a
target, is matched by an exclude pattern. And configurations that tighten each other, whose lists
differ in order and repetition only, are planned and run alike.
-/
theorem runTree_filter_changes (engine : Engine) {config : Configuration} {ruleset : Ruleset}
    (built : Ruleset.buildWith engine config = .ok ruleset)
    : (∀ tight : Configuration,
        tight.Tightens config
        → (∀ pattern ∈ tight.excluded, ∃ test, engine.text pattern = .ok test)
        → ∃ tightened,
            Ruleset.buildWith engine tight = .ok tightened
            ∧ ∀ files order root report,
                runTree ruleset files order root = .ok report
                → ∀ other,
                    ∃ report',
                      runTree tightened files other root = .ok report'
                      ∧ report'.filesChecked ≤ report.filesChecked
                      ∧ List.Forall₂ RuleReport.Tightens report'.rules report.rules)
      ∧ (∀ included widened,
          Ruleset.buildWith engine { config with included } = .ok widened
          → ∀ files order target root report,
              run widened files order (plan widened target root) = .ok report
              → ∀ outcome ∈ report.rules, ∀ key ∈ outcome.extra, ∀ pattern ∈ config.excluded,
                  compiledMatches (engine.text pattern) key = false)
      ∧ ∀ rearranged : Configuration,
          rearranged.Tightens config
          → config.Tightens rearranged
          → ∃ same,
              Ruleset.buildWith engine rearranged = .ok same
              ∧ (∀ target root, plan same target root = plan ruleset target root)
              ∧ ∀ files order plan, run same files order plan = run ruleset files order plan := by
  refine ⟨?_, ?_, ?_⟩
  · intro tight tightens compiles
    obtain ⟨tightened, built', rules, within⟩ :=
      Ruleset.exists_buildWith_tightened built tightens compiles
    refine ⟨tightened, built', ?_⟩
    intro files order root report ran other
    exact exists_runTree_tightened rules within ran other
  · intro included widened built' files order target root report ran outcome member key extra
    obtain ⟨position, found⟩ := List.mem_iff_getElem?.mp member
    obtain ⟨_, _, _, inScope, _⟩ := outcome_of_run_plan ran found
    exact not_matches_of_accepts built' (inScope key extra)
  · intro rearranged tightens tightens'
    have compiles : ∀ pattern ∈ rearranged.excluded, ∃ test, engine.text pattern = .ok test := by
      intro pattern member
      exact (Ruleset.compiles_of_buildWith built).excluded pattern (tightens'.excluded member)
    obtain ⟨same, built', rules, _⟩ :=
      Ruleset.exists_buildWith_tightened built tightens compiles
    have accepts : same.scope.accepts = ruleset.scope.accepts := by
      funext key
      rw [Ruleset.accepts_of_buildWith built', Ruleset.accepts_of_buildWith built]
      exact Bool.eq_iff_iff.mpr ⟨tightens.selects, tightens'.selects⟩
    refine ⟨same, built', ?_, run_congr rules accepts⟩
    intro target root
    cases target with
    | none => rfl
    | some path => rw [plan, plan, accepts]

/-- The sample configuration with one more exclude pattern, in front of the other. -/
def tightConfiguration : Configuration :=
  { sampleConfiguration with excluded := ["f", "g"] }

/-- The sample configuration with its patterns on keys repeated. -/
def repeatedConfiguration : Configuration :=
  { sampleConfiguration with included := ["", ""], excluded := ["g", "g"] }

/-- A file that was extra is so no more when it is excluded. A pattern that includes an excluded
file does not make it extra, and repeated patterns change nothing.
-/
theorem runTree_filter_changes_sample
    : ∃ ruleset report tightened fewer widened more same,
        Ruleset.buildWith .standard sampleConfiguration = .ok ruleset
        ∧ runTree ruleset sampleFiles .listed [Path.dot] = .ok report
        ∧ report.rules.map (·.extra) = [.ofList ["f"]]
        ∧ Ruleset.buildWith .standard tightConfiguration = .ok tightened
        ∧ runTree tightened sampleFiles .listed [Path.dot] = .ok fewer
        ∧ fewer.filesChecked ≤ report.filesChecked
        ∧ List.Forall₂ RuleReport.Tightens fewer.rules report.rules
        ∧ fewer.rules.map (·.extra) = [∅]
        ∧ Ruleset.buildWith .standard { sampleConfiguration with included := ["", "g"] }
          = .ok widened
        ∧ run widened sampleFiles .listed (plan widened none [Path.dot]) = .ok more
        ∧ (∀ outcome ∈ more.rules, "g" ∉ outcome.extra)
        ∧ Ruleset.buildWith .standard repeatedConfiguration = .ok same
        ∧ run same sampleFiles .listed (.tree [Path.dot]) = .ok report := by
  obtain ⟨ruleset, built, report, ran, extra⟩
      : ∃ ruleset,
          Ruleset.buildWith .standard sampleConfiguration = .ok ruleset
          ∧ ∃ report,
              runTree ruleset sampleFiles .listed [Path.dot] = .ok report
              ∧ report.rules.map (·.extra) = [.ofList ["f"]] :=
    ⟨_, rfl, _, rfl, rfl⟩
  obtain ⟨tightened, builtTight, fewer, ranTight, noExtra⟩
      : ∃ tightened,
          Ruleset.buildWith .standard tightConfiguration = .ok tightened
          ∧ ∃ fewer,
              runTree tightened sampleFiles .listed [Path.dot] = .ok fewer
              ∧ fewer.rules.map (·.extra) = [∅] :=
    ⟨_, rfl, _, rfl, rfl⟩
  obtain ⟨widened, builtWide, more, ranWide⟩
      : ∃ widened,
          Ruleset.buildWith .standard { sampleConfiguration with included := ["", "g"] }
            = .ok widened
          ∧ ∃ more, run widened sampleFiles .listed (plan widened none [Path.dot]) = .ok more :=
    ⟨_, rfl, _, rfl⟩
  obtain ⟨tighter, wider, rearranges⟩ := runTree_filter_changes .standard built
  have tightens : tightConfiguration.Tightens sampleConfiguration :=
    ⟨fun _ => id, List.subset_cons_self _ _, rfl⟩
  have compiles : ∀ pattern ∈ tightConfiguration.excluded,
      ∃ test, Engine.standard.text pattern = .ok test :=
    List.forall_mem_cons.mpr ⟨⟨_, rfl⟩, List.forall_mem_singleton.mpr ⟨_, rfl⟩⟩
  obtain ⟨again, builtAgain, runs⟩ := tighter _ tightens compiles
  obtain rfl : again = tightened := Except.ok.inj (builtAgain.symm.trans builtTight)
  obtain ⟨fewer', ranFewer, counts, outcomes⟩ := runs _ _ _ _ ran .listed
  obtain rfl : fewer' = fewer := Except.ok.inj (ranFewer.symm.trans ranTight)
  have repeats : repeatedConfiguration.Tightens sampleConfiguration :=
    ⟨by decide, by decide, rfl⟩
  have repeats' : sampleConfiguration.Tightens repeatedConfiguration :=
    ⟨by decide, by decide, rfl⟩
  obtain ⟨same, builtSame, _, sameRuns⟩ := rearranges _ repeats repeats'
  refine ⟨ruleset, report, again, fewer', widened, more, same, built, ran, extra, builtTight,
    ranTight, counts, outcomes, noExtra, builtWide, ranWide, ?_, builtSame,
    (sameRuns _ _ _).trans ran⟩
  intro outcome member isExtra
  have unmatched := wider _ _ builtWide _ _ _ _ _ ranWide outcome member "g" isExtra "g"
    (List.mem_singleton_self _)
  exact absurd unmatched (by decide)

end Audit

end PatternAudit
