import Mathlib.Data.List.Forall2
import PatternAudit.Rules.Basic

/-! Rules built from a configuration say what its patterns say: a key is in scope, and a rule
occurs in a line, as the compiled patterns have it. Building succeeds if every pattern compiles.
-/

namespace PatternAudit

/-- A compiled pattern matches; one that does not compile matches nothing. -/
def compiledMatches {α : Type} (compiled : Except Pattern.Fault (α → Bool)) (subject : α)
    : Bool :=
  match compiled with
  | .ok test => test subject
  | .error _ => false

namespace Configuration

/-- Every pattern compiles, those on keys as text and those of rules on lines. -/
structure Compiles (engine : Engine) (config : Configuration) : Prop where
  included : ∀ pattern ∈ config.included, ∃ test, engine.text pattern = .ok test
  excluded : ∀ pattern ∈ config.excluded, ∃ test, engine.text pattern = .ok test
  rules : ∀ entry ∈ config.rules, ∃ test, engine.line entry.pattern = .ok test

/-- No exclude pattern matches a key, and some include pattern does. -/
def selects (engine : Engine) (config : Configuration) (key : String) : Bool :=
  !(config.excluded.any fun pattern => compiledMatches (engine.text pattern) key)
  && config.included.any fun pattern => compiledMatches (engine.text pattern) key

end Configuration

namespace Ruleset

/-- Compiling patterns gives their tests in order, and only if all compile. -/
theorem compileFrom_eq_ok_iff {α : Type} {list : PatternList}
    {compile : String → Except Pattern.Fault α} {index : Nat} {patterns : List String}
    {tests : List α}
    : compileFrom list compile index patterns = .ok tests
      ↔ patterns.map compile = tests.map .ok := by
  induction patterns generalizing index tests with
  | nil => cases tests <;> simp [compileFrom]
  | cons pattern patterns ih =>
      rw [compileFrom]
      cases compiled : compile pattern with
      | error fault => cases tests <;> simp [compiled]
      | ok test =>
          cases rest : compileFrom list compile (index + 1) patterns with
          | error error =>
              have none : ∀ others : List α, patterns.map compile ≠ others.map .ok := by
                intro others same
                cases rest.symm.trans (ih.mpr same)
              cases tests <;> simp [compiled, none, Except.map]
          | ok others =>
              have same := ih.mp rest
              cases tests with
              | nil => simp [Except.map]
              | cons first tests =>
                  rw [List.map_cons, List.map_cons, compiled, same, List.cons.injEq,
                    List.map_inj_right fun _ _ => Except.ok.inj]
                  simp [Except.map]

/-- Patterns that all compile have tests. -/
theorem exists_compileFrom {α : Type} (list : PatternList)
    {compile : String → Except Pattern.Fault α} (index : Nat) {patterns : List String}
    (compiles : ∀ pattern ∈ patterns, ∃ test, compile pattern = .ok test)
    : ∃ tests, compileFrom list compile index patterns = .ok tests := by
  induction patterns generalizing index with
  | nil => exact ⟨[], rfl⟩
  | cons pattern patterns ih =>
      obtain ⟨⟨test, compiled⟩, rest⟩ := List.forall_mem_cons.mp compiles
      obtain ⟨tests, done⟩ := ih (index + 1) rest
      exact ⟨test :: tests, by simp [compileFrom, compiled, done, Except.map]⟩

/-- Building has compiled the three lists and put entries and tests of rules together. -/
theorem tests_of_buildWith {engine : Engine} {config : Configuration} {ruleset : Ruleset}
    (built : buildWith engine config = .ok ruleset)
    : config.included.map engine.text = ruleset.scope.included.map .ok
      ∧ config.excluded.map engine.text = ruleset.scope.excluded.map .ok
      ∧ ∃ tests,
          (config.rules.map (·.pattern)).map engine.line = tests.map .ok
          ∧ ruleset.rules = List.zipWith ruleOf config.rules tests := by
  unfold buildWith at built
  cases included : compileFrom .included engine.text 0 config.included with
  | error error => simp [bind, Except.bind, included] at built
  | ok includedTests =>
      cases excluded : compileFrom .excluded engine.text 0 config.excluded with
      | error error => simp [bind, Except.bind, included, excluded] at built
      | ok excludedTests =>
          cases rules : compileFrom .rules engine.line 0 (config.rules.map (·.pattern)) with
          | error error => simp [bind, Except.bind, included, excluded, rules] at built
          | ok tests =>
              simp only [bind, Except.bind, included, excluded, rules, pure, Except.pure,
                Except.ok.injEq] at built
              subst built
              exact ⟨compileFrom_eq_ok_iff.mp included, compileFrom_eq_ok_iff.mp excluded,
                tests, compileFrom_eq_ok_iff.mp rules, rfl⟩

/-- An entry makes a rule if its pattern has become the rule's test. -/
def Makes (engine : Engine) (entry : RuleEntry) (rule : Rule) : Prop :=
  engine.line entry.pattern = .ok rule.occursIn ∧ rule = ruleOf entry rule.occursIn

/-- Entries make rules, one each, exactly if the rules are put together from the entries and the
tests of their patterns.
-/
theorem forall₂_makes_iff {engine : Engine} {entries : List RuleEntry} {rules : List Rule}
    : List.Forall₂ (Makes engine) entries rules
      ↔ ∃ tests,
          (entries.map (·.pattern)).map engine.line = tests.map .ok
          ∧ rules = List.zipWith ruleOf entries tests := by
  constructor
  · intro made
    refine ⟨rules.map (·.occursIn), ?_⟩
    induction made with
    | nil => exact ⟨rfl, rfl⟩
    | cons first _ ih =>
        obtain ⟨compiled, together⟩ := ih
        obtain ⟨compiles, isRule⟩ := first
        refine ⟨?_, ?_⟩
        · rw [List.map_cons, List.map_cons, List.map_cons, List.map_cons, compiles, compiled]
        · rw [List.map_cons, List.zipWith_cons_cons, ← isRule, ← together]
  · rintro ⟨tests, compiled, rfl⟩
    induction entries generalizing tests with
    | nil => exact .nil
    | cons entry entries ih =>
        cases tests with
        | nil => cases compiled
        | cons test tests =>
            obtain ⟨compiles, rest⟩ := List.cons.inj compiled
            exact .cons ⟨compiles, rfl⟩ (ih tests rest)

/-- An entry makes only one rule. -/
theorem Makes.unique {engine : Engine} {entry : RuleEntry} {rule other : Rule}
    (makes : Makes engine entry rule) (makes' : Makes engine entry other)
    : rule = other := by
  obtain ⟨compiled, isRule⟩ := makes
  obtain ⟨compiled', isOther⟩ := makes'
  have sameTest : rule.occursIn = other.occursIn := Except.ok.inj (compiled.symm.trans compiled')
  rw [isRule, sameTest, ← isOther]

/-- Building succeeds exactly with the tests of the patterns on keys and the rules that the
entries make.
-/
theorem buildWith_eq_ok_iff {engine : Engine} {config : Configuration} {ruleset : Ruleset}
    : buildWith engine config = .ok ruleset
      ↔ config.included.map engine.text = ruleset.scope.included.map .ok
        ∧ config.excluded.map engine.text = ruleset.scope.excluded.map .ok
        ∧ List.Forall₂ (Makes engine) config.rules ruleset.rules := by
  rw [forall₂_makes_iff]
  refine ⟨tests_of_buildWith, ?_⟩
  rintro ⟨included, excluded, tests, compiled, rules⟩
  have hIncluded : compileFrom .included engine.text 0 config.included
      = .ok ruleset.scope.included :=
    compileFrom_eq_ok_iff.mpr included
  have hExcluded : compileFrom .excluded engine.text 0 config.excluded
      = .ok ruleset.scope.excluded :=
    compileFrom_eq_ok_iff.mpr excluded
  have hRules : compileFrom .rules engine.line 0 (config.rules.map (·.pattern)) = .ok tests :=
    compileFrom_eq_ok_iff.mpr compiled
  simp [buildWith, bind, Except.bind, pure, Except.pure, hIncluded, hExcluded, hRules, ← rules]

/-- The rules that are built depend on the entries only. -/
theorem rules_eq_of_buildWith {engine : Engine} {config config' : Configuration}
    {ruleset ruleset' : Ruleset} (built : buildWith engine config = .ok ruleset)
    (built' : buildWith engine config' = .ok ruleset') (entries : config.rules = config'.rules)
    : ruleset.rules = ruleset'.rules := by
  have unique : Relator.RightUnique (Makes engine) := fun _ _ _ => Makes.unique
  obtain ⟨_, _, made⟩ := buildWith_eq_ok_iff.mp built
  obtain ⟨_, _, made'⟩ := buildWith_eq_ok_iff.mp built'
  rw [entries] at made
  exact unique.forall₂ made made'

/-- A configuration whose patterns compile can be built. -/
theorem exists_buildWith {engine : Engine} {config : Configuration}
    (compiles : config.Compiles engine)
    : ∃ ruleset, buildWith engine config = .ok ruleset := by
  obtain ⟨included, hIncluded⟩ := exists_compileFrom .included 0 compiles.included
  obtain ⟨excluded, hExcluded⟩ := exists_compileFrom .excluded 0 compiles.excluded
  have compile : ∀ pattern ∈ config.rules.map (·.pattern),
      ∃ test, engine.line pattern = .ok test := by
    simpa using compiles.rules
  obtain ⟨tests, hTests⟩ := exists_compileFrom .rules 0 compile
  exact ⟨{ scope := { included, excluded }, rules := List.zipWith ruleOf config.rules tests },
    by simp [buildWith, bind, Except.bind, pure, Except.pure, hIncluded, hExcluded, hTests]⟩

/-- Patterns that have tests compile, one by one. -/
theorem exists_test_of_map_eq {α : Type} {compile : String → Except Pattern.Fault α}
    {patterns : List String} {tests : List α} (compiled : patterns.map compile = tests.map .ok)
    : ∀ pattern ∈ patterns, ∃ test, compile pattern = .ok test := by
  intro pattern member
  have isResult : compile pattern ∈ tests.map .ok := compiled ▸ List.mem_map_of_mem member
  obtain ⟨test, _, same⟩ := List.mem_map.mp isResult
  exact ⟨test, same.symm⟩

/-- The patterns of a configuration that was built all compile. -/
theorem compiles_of_buildWith {engine : Engine} {config : Configuration} {ruleset : Ruleset}
    (built : buildWith engine config = .ok ruleset)
    : config.Compiles engine := by
  obtain ⟨included, excluded, tests, rules, _⟩ := tests_of_buildWith built
  refine {
    included := exists_test_of_map_eq included
    excluded := exists_test_of_map_eq excluded
    rules := fun entry member => ?_ }
  exact exists_test_of_map_eq rules entry.pattern (List.mem_map_of_mem member)

/-- Tests match a subject as the patterns do that they were compiled from. -/
theorem any_tests {α : Type} {compile : String → Except Pattern.Fault (α → Bool)}
    {patterns : List String} {tests : List (α → Bool)}
    (compiled : patterns.map compile = tests.map .ok) (subject : α)
    : tests.any (· subject)
      = patterns.any fun pattern => compiledMatches (compile pattern) subject := by
  have matched := congrArg (List.any · (compiledMatches · subject)) compiled
  simpa [List.any_map, Function.comp_def, compiledMatches] using matched.symm

/-- The scope that was built accepts exactly the keys that the configuration selects. -/
theorem accepts_of_buildWith {engine : Engine} {config : Configuration} {ruleset : Ruleset}
    (built : buildWith engine config = .ok ruleset) (key : String)
    : ruleset.scope.accepts key = config.selects engine key := by
  obtain ⟨included, excluded, _⟩ := tests_of_buildWith built
  rw [Scope.accepts, Configuration.selects, any_tests included, any_tests excluded]

/-- There are as many rules as entries. -/
theorem length_rules_of_buildWith {engine : Engine} {config : Configuration}
    {ruleset : Ruleset} (built : buildWith engine config = .ok ruleset)
    : ruleset.rules.length = config.rules.length := by
  obtain ⟨_, _, tests, compiled, rules⟩ := tests_of_buildWith built
  have size := congrArg List.length compiled
  simp only [List.length_map] at size
  simp [rules, size]

/-- The rule at a position is that of the entry there: its pattern as written, which occurs where
the compiled pattern matches, and the keys of the expected files.
-/
theorem rule_of_buildWith {engine : Engine} {config : Configuration} {ruleset : Ruleset}
    (built : buildWith engine config = .ok ruleset) {position : Nat} {entry : RuleEntry}
    (found : config.rules[position]? = some entry)
    : ∃ rule,
        ruleset.rules[position]? = some rule
        ∧ rule.source = entry.pattern
        ∧ (∀ line, rule.occursIn line = compiledMatches (engine.line entry.pattern) line)
        ∧ ∀ key, key ∈ rule.expected ↔ key ∈ entry.expected.map Path.textKey := by
  obtain ⟨_, _, tests, compiled, rules⟩ := tests_of_buildWith built
  have here := congrArg (·[position]?) compiled
  simp only [List.getElem?_map, found, Option.map_some] at here
  cases test : tests[position]? with
  | none => simp [test] at here
  | some test' =>
      have hTest : engine.line entry.pattern = .ok test' := by simpa [test] using here
      refine ⟨ruleOf entry test', ?_, rfl, fun line => ?_, fun key => KeySet.mem_ofList⟩
      · simp [rules, List.getElem?_zipWith, found, test]
      · simp [ruleOf, compiledMatches, hTest]

/-- The entry at a position is that of the rule there, with the same facts about both. -/
theorem entry_of_buildWith {engine : Engine} {config : Configuration} {ruleset : Ruleset}
    (built : buildWith engine config = .ok ruleset) {position : Nat} {rule : Rule}
    (found : ruleset.rules[position]? = some rule)
    : ∃ entry,
        config.rules[position]? = some entry
        ∧ rule.source = entry.pattern
        ∧ (∀ line, rule.occursIn line = compiledMatches (engine.line entry.pattern) line)
        ∧ ∀ key, key ∈ rule.expected ↔ key ∈ entry.expected.map Path.textKey := by
  have inEntries : position < config.rules.length := by
    rw [← length_rules_of_buildWith built]
    exact (List.getElem?_eq_some_iff.mp found).1
  have isEntry := List.getElem?_eq_getElem inEntries
  obtain ⟨rule', found', facts⟩ := rule_of_buildWith built isEntry
  obtain rfl : rule' = rule := Option.some.inj (found'.symm.trans found)
  exact ⟨_, isEntry, facts⟩

end Ruleset

end PatternAudit
