import PatternAudit.Proofs.Rules.Building

/-! Building is all or nothing. It succeeds exactly if every pattern compiles; otherwise its error
names the first pattern that does not, in the order of the lists and then within its list, and no
other error fits.
-/

namespace PatternAudit

-----------------------------------------------------------------------------------------
-- Patterns that do not compile
-----------------------------------------------------------------------------------------

/-- Why compiling failed, if it did. -/
def compileFault? {α : Type} : Except Pattern.Fault α → Option Pattern.Fault
  | .ok _ => none
  | .error fault => some fault

/-- Compiling that did not fail gave a test. -/
theorem compileFault?_eq_none_iff {α : Type} {compiled : Except Pattern.Fault α}
    : compileFault? compiled = none ↔ ∃ test, compiled = .ok test := by
  cases compiled <;> simp [compileFault?]

/-- Why a pattern of a list does not compile, if it does not: patterns on keys are compiled for
text, and those of rules for lines.
-/
def Engine.fault? (engine : Engine) (list : PatternList) (pattern : String)
    : Option Pattern.Fault :=
  match list with
  | .included | .excluded => compileFault? (engine.text pattern)
  | .rules => compileFault? (engine.line pattern)

/-- The patterns of a list, as written. -/
def Configuration.patternsOf (config : Configuration) : PatternList → List String
  | .included => config.included
  | .excluded => config.excluded
  | .rules => config.rules.map (·.pattern)

/-- Every pattern compiles if none of any list fails to. -/
theorem Configuration.compiles_iff {engine : Engine} {config : Configuration}
    : config.Compiles engine
      ↔ ∀ list, ∀ pattern ∈ config.patternsOf list, engine.fault? list pattern = none := by
  constructor
  · intro compiles list pattern member
    cases list with
    | included => exact compileFault?_eq_none_iff.mpr (compiles.included pattern member)
    | excluded => exact compileFault?_eq_none_iff.mpr (compiles.excluded pattern member)
    | rules =>
        obtain ⟨entry, isEntry, rfl⟩ := List.mem_map.mp member
        exact compileFault?_eq_none_iff.mpr (compiles.rules entry isEntry)
  · intro faultless
    refine {
      included := fun pattern member => ?_
      excluded := fun pattern member => ?_
      rules := fun entry member => ?_ }
    · exact compileFault?_eq_none_iff.mp (faultless .included pattern member)
    · exact compileFault?_eq_none_iff.mp (faultless .excluded pattern member)
    · have isPattern : entry.pattern ∈ config.patternsOf .rules := List.mem_map_of_mem member
      exact compileFault?_eq_none_iff.mp (faultless .rules entry.pattern isPattern)

-----------------------------------------------------------------------------------------
-- The first of a list
-----------------------------------------------------------------------------------------

/-- The pattern at an index fails to compile, and all patterns at smaller indices compile. -/
structure IsFirstFault (fault? : String → Option Pattern.Fault) (patterns : List String)
    (index : Nat) (pattern : String) (fault : Pattern.Fault)
    : Prop where
  stands : patterns[index]? = some pattern
  fails : fault? pattern = some fault
  earlier : ∀ other ∈ patterns.take index, fault? other = none

section Lists

variable {fault? : String → Option Pattern.Fault} {patterns : List String}

/-- A list has no fault before its first fault. -/
theorem IsFirstFault.not_lt {index index' : Nat} {pattern pattern' : String}
    {fault fault' : Pattern.Fault} (here : IsFirstFault fault? patterns index pattern fault)
    (first : IsFirstFault fault? patterns index' pattern' fault')
    : ¬index < index' := by
  intro before
  have stands : (patterns.take index')[index]? = some pattern := by
    rw [List.getElem?_take_of_lt before, here.stands]
  have faultless := first.earlier pattern (List.mem_of_getElem? stands)
  rw [here.fails] at faultless
  cases faultless

/-- A list has only one first fault. -/
theorem IsFirstFault.unique {index index' : Nat} {pattern pattern' : String}
    {fault fault' : Pattern.Fault} (first : IsFirstFault fault? patterns index pattern fault)
    (again : IsFirstFault fault? patterns index' pattern' fault')
    : index = index' ∧ pattern = pattern' ∧ fault = fault' := by
  obtain rfl : index = index' :=
    Nat.le_antisymm (Nat.not_lt.mp (again.not_lt first)) (Nat.not_lt.mp (first.not_lt again))
  obtain rfl : pattern = pattern' := Option.some.inj (first.stands.symm.trans again.stands)
  exact ⟨rfl, rfl, Option.some.inj (first.fails.symm.trans again.fails)⟩

/-- The first fault of a list that starts with a fault is there. -/
theorem isFirstFault_cons_of_fault {head : String} {fault : Pattern.Fault}
    (fails : fault? head = some fault) {index : Nat} {pattern : String} {fault' : Pattern.Fault}
    : IsFirstFault fault? (head :: patterns) index pattern fault'
      ↔ index = 0 ∧ pattern = head ∧ fault' = fault := by
  have atStart : IsFirstFault fault? (head :: patterns) 0 head fault :=
    ⟨rfl, fails, List.forall_mem_nil _⟩
  constructor
  · intro first
    exact first.unique atStart
  · intro same
    obtain ⟨rfl, rfl, rfl⟩ := same
    exact atStart

/-- The first fault of a list that does not start with one is the first of the rest. -/
theorem isFirstFault_cons_of_none {head : String} (compiles : fault? head = none) {index : Nat}
    {pattern : String} {fault : Pattern.Fault}
    : IsFirstFault fault? (head :: patterns) index pattern fault
      ↔ ∃ rest, index = rest + 1 ∧ IsFirstFault fault? patterns rest pattern fault := by
  constructor
  · intro first
    cases index with
    | zero =>
        have fails := first.fails
        rw [← Option.some.inj first.stands, compiles] at fails
        cases fails
    | succ rest =>
        have earlier := first.earlier
        rw [List.take_succ_cons, List.forall_mem_cons] at earlier
        exact ⟨rest, rfl, first.stands, first.fails, earlier.2⟩
  · intro later
    obtain ⟨rest, rfl, first⟩ := later
    refine ⟨first.stands, first.fails, ?_⟩
    rw [List.take_succ_cons, List.forall_mem_cons]
    exact ⟨compiles, first.earlier⟩

end Lists

namespace Ruleset

/-- Compiling a list fails exactly with its first fault, by induction on the patterns. Indices
count on from that of the first pattern.
-/
theorem compileFrom_eq_error_iff {α : Type} {list : PatternList}
    {compile : String → Except Pattern.Fault α} {fault? : String → Option Pattern.Fault}
    (faults : ∀ pattern, fault? pattern = compileFault? (compile pattern)) {start : Nat}
    {patterns : List String} {error : PatternError}
    : compileFrom list compile start patterns = .error error
      ↔ error.list = list
        ∧ ∃ offset,
            error.index = start + offset
            ∧ IsFirstFault fault? patterns offset error.pattern error.fault := by
  induction patterns generalizing start with
  | nil =>
      refine iff_of_false (by simp [compileFrom]) ?_
      intro blamed
      obtain ⟨_, offset, _, first⟩ := blamed
      simpa using first.stands
  | cons pattern patterns ih =>
      rw [compileFrom]
      have here := faults pattern
      cases compiled : compile pattern with
      | error fault =>
          have fails : fault? pattern = some fault := by rw [here, compiled, compileFault?]
          simp only [isFirstFault_cons_of_fault fails, Except.error.injEq]
          constructor
          · intro same
            subst same
            exact ⟨rfl, 0, rfl, rfl, rfl, rfl⟩
          · intro blamed
            obtain ⟨list', index', pattern', fault'⟩ := error
            obtain ⟨rfl, _, rfl, rfl, rfl, rfl⟩ := blamed
            rfl
      | ok test =>
          have compiles : fault? pattern = none := by rw [here, compiled, compileFault?]
          have skips
              : (compileFrom list compile (start + 1) patterns).map (test :: ·) = .error error
                ↔ compileFrom list compile (start + 1) patterns = .error error := by
            cases compileFrom list compile (start + 1) patterns <;> simp [Except.map]
          simp only [isFirstFault_cons_of_none compiles, skips, ih]
          refine and_congr_right fun _ => ?_
          constructor
          · intro blamed
            obtain ⟨offset, index, first⟩ := blamed
            exact ⟨offset + 1, by omega, offset, rfl, first⟩
          · intro blamed
            obtain ⟨_, index, offset, rfl, first⟩ := blamed
            exact ⟨offset, by omega, first⟩

end Ruleset

-----------------------------------------------------------------------------------------
-- The first of all
-----------------------------------------------------------------------------------------

/-- The lists whose patterns are compiled before those of a list. -/
def PatternList.earlier : PatternList → List PatternList
  | .included => []
  | .excluded => [.included]
  | .rules => [.included, .excluded]

/-- An error names the first pattern that does not compile: it stands at the index in the list, no
pattern before it in the list fails, and none of the lists before.
-/
structure PatternError.Blames (engine : Engine) (config : Configuration) (error : PatternError)
    : Prop where
  first
    : IsFirstFault (engine.fault? error.list) (config.patternsOf error.list) error.index
        error.pattern error.fault
  before
    : ∀ list ∈ error.list.earlier, ∀ pattern ∈ config.patternsOf list,
        engine.fault? list pattern = none

namespace PatternError.Blames

variable {engine : Engine} {config : Configuration} {error error' : PatternError}

/-- The list of what is blamed has a fault. -/
theorem not_faultless (blames : error.Blames engine config)
    : ¬∀ pattern ∈ config.patternsOf error.list, engine.fault? error.list pattern = none := by
  intro faultless
  have none := faultless error.pattern (List.mem_of_getElem? blames.first.stands)
  rw [blames.first.fails] at none
  cases none

/-- A configuration in which something is blamed does not compile. -/
theorem not_compiles (blames : error.Blames engine config) : ¬config.Compiles engine := by
  intro compiles
  exact blames.not_faultless (Configuration.compiles_iff.mp compiles error.list)

/-- Nothing is blamed in a list that comes before. -/
theorem not_mem_earlier (blames : error.Blames engine config)
    (blames' : error'.Blames engine config)
    : error.list ∉ error'.list.earlier := by
  intro isEarlier
  exact blames.not_faultless (blames'.before error.list isEarlier)

/-- Only one error blames. -/
theorem unique (blames : error.Blames engine config) (blames' : error'.Blames engine config)
    : error = error' := by
  -- Of two different lists one comes before the other, and there is no fault in it.
  have sameList : error.list = error'.list := by
    have here := not_mem_earlier blames blames'
    have there := not_mem_earlier blames' blames
    cases list : error.list <;> cases list' : error'.list <;>
      simp [list, list', PatternList.earlier] at here there ⊢
  obtain ⟨list, index, pattern, fault⟩ := error
  obtain ⟨list', index', pattern', fault'⟩ := error'
  obtain rfl : list = list' := sameList
  obtain ⟨rfl, rfl, rfl⟩ := blames.first.unique blames'.first
  rfl

end PatternError.Blames

namespace Ruleset

/-- A list that was compiled has no fault. -/
theorem faultless_of_compileFrom {α : Type} {list : PatternList}
    {compile : String → Except Pattern.Fault α} {start : Nat} {patterns : List String}
    {tests : List α} (compiled : compileFrom list compile start patterns = .ok tests)
    : ∀ pattern ∈ patterns, compileFault? (compile pattern) = none := by
  intro pattern member
  have tested := exists_test_of_map_eq (compileFrom_eq_ok_iff.mp compiled) pattern member
  exact compileFault?_eq_none_iff.mpr tested

/-- A list that fails blames its first fault, if the lists before it have none. -/
theorem blames_of_compileFrom {α : Type} {engine : Engine} {config : Configuration}
    (list : PatternList) {compile : String → Except Pattern.Fault α} {error : PatternError}
    (faults : ∀ pattern, engine.fault? list pattern = compileFault? (compile pattern))
    (before
      : ∀ other ∈ list.earlier, ∀ pattern ∈ config.patternsOf other,
          engine.fault? other pattern = none)
    (failed : compileFrom list compile 0 (config.patternsOf list) = .error error)
    : error.Blames engine config := by
  obtain ⟨rfl, offset, index, first⟩ := (compileFrom_eq_error_iff faults).mp failed
  rw [Nat.zero_add] at index
  exact ⟨index ▸ first, before⟩

/-- A failed build blames what its error names. Witness: the first of the three lists that fails,
after the lists before it were compiled.
-/
theorem blames_of_buildWith {engine : Engine} {config : Configuration} {error : PatternError}
    (failed : buildWith engine config = .error error)
    : error.Blames engine config := by
  unfold buildWith at failed
  cases included : compileFrom .included engine.text 0 config.included with
  | error blamed =>
      simp only [included, bind, Except.bind, Except.error.injEq] at failed
      subst failed
      exact blames_of_compileFrom .included (fun _ => rfl) (List.forall_mem_nil _) included
  | ok includedTests =>
      have first := faultless_of_compileFrom included
      cases excluded : compileFrom .excluded engine.text 0 config.excluded with
      | error blamed =>
          simp only [included, excluded, bind, Except.bind, Except.error.injEq] at failed
          subst failed
          exact blames_of_compileFrom .excluded (fun _ => rfl)
            (List.forall_mem_singleton.mpr first) excluded
      | ok excludedTests =>
          have second := faultless_of_compileFrom excluded
          cases rules : compileFrom .rules engine.line 0 (config.rules.map (·.pattern)) with
          | error blamed =>
              simp only [included, excluded, rules, bind, Except.bind, Except.error.injEq]
                at failed
              subst failed
              refine blames_of_compileFrom .rules (fun _ => rfl) ?_ rules
              exact List.forall_mem_cons.mpr ⟨first, List.forall_mem_singleton.mpr second⟩
          | ok tests =>
              simp [included, excluded, rules, bind, Except.bind, pure, Except.pure] at failed

/-- Building fails exactly with the error that blames the first fault. Witness: a configuration
with a fault cannot be built, and the error of the build is the only one that blames.
-/
theorem buildWith_eq_error_iff {engine : Engine} {config : Configuration} {error : PatternError}
    : buildWith engine config = .error error ↔ error.Blames engine config := by
  constructor
  · exact blames_of_buildWith
  · intro blames
    cases outcome : buildWith engine config with
    | ok ruleset => exact absurd (compiles_of_buildWith outcome) blames.not_compiles
    | error error' => rw [blames.unique (blames_of_buildWith outcome)]

/-- The rule that an entry makes: the entry's pattern as written, with its test, and the keys of the
expected files.
-/
theorem Makes.fields {engine : Engine} {entry : RuleEntry} {rule : Rule}
    (makes : Makes engine entry rule)
    : rule.source = entry.pattern
      ∧ engine.line entry.pattern = .ok rule.occursIn
      ∧ ∀ key, key ∈ rule.expected ↔ ∃ path ∈ entry.expected, Path.textKey path = key := by
  obtain ⟨compiled, isRule⟩ := makes
  refine ⟨by rw [isRule, ruleOf], compiled, fun key => ?_⟩
  rw [isRule, ruleOf, KeySet.mem_ofList, List.mem_map]

/-- Building is all or nothing and blames the right pattern. For every engine and configuration,
rules are built exactly if no pattern of any list fails to compile. Then each entry has its rule,
in order, with the entry's pattern as source, its test, and the keys of its expected files.
Otherwise there is an error, which names the first pattern that does not compile: it stands at the
index in the list, no pattern before it in the list fails, and none in the lists before.
-/
theorem buildWith_all_or_nothing (engine : Engine) (config : Configuration)
    : ((∃ ruleset, buildWith engine config = .ok ruleset)
        ↔ ∀ list, ∀ pattern ∈ config.patternsOf list, engine.fault? list pattern = none)
      ∧ (∀ ruleset,
          buildWith engine config = .ok ruleset
          → ruleset.rules.length = config.rules.length
            ∧ ∀ (position : Nat) (entry : RuleEntry),
                config.rules[position]? = some entry
                → ∃ rule,
                    ruleset.rules[position]? = some rule
                    ∧ rule.source = entry.pattern
                    ∧ engine.line entry.pattern = .ok rule.occursIn
                    ∧ ∀ key,
                        key ∈ rule.expected ↔ ∃ path ∈ entry.expected, Path.textKey path = key)
      ∧ ((∃ list, ∃ pattern ∈ config.patternsOf list, engine.fault? list pattern ≠ none)
        → ∃ error, buildWith engine config = .error error)
      ∧ ∀ error, buildWith engine config = .error error ↔ error.Blames engine config := by
  have succeeds : (∃ ruleset, buildWith engine config = .ok ruleset)
      ↔ ∀ list, ∀ pattern ∈ config.patternsOf list, engine.fault? list pattern = none := by
    rw [← Configuration.compiles_iff]
    constructor
    · intro done
      obtain ⟨ruleset, built⟩ := done
      exact compiles_of_buildWith built
    · exact exists_buildWith
  refine ⟨succeeds, ?_, ?_, fun error => buildWith_eq_error_iff⟩
  · intro ruleset built
    have made := (buildWith_eq_ok_iff.mp built).2.2
    refine ⟨made.length_eq.symm, ?_⟩
    intro position entry found
    obtain ⟨inEntries, rfl⟩ := List.getElem?_eq_some_iff.mp found
    have inRules : position < ruleset.rules.length := made.length_eq ▸ inEntries
    exact ⟨_, List.getElem?_eq_getElem inRules, (made.get inEntries inRules).fields⟩
  · intro faulty
    obtain ⟨list, pattern, member, fails⟩ := faulty
    cases outcome : buildWith engine config with
    | ok ruleset => exact absurd (succeeds.mp ⟨ruleset, outcome⟩ list pattern member) fails
    | error error => exact ⟨error, rfl⟩

/-- A configuration with faults in two lists, two of them in the same list. -/
def faultyConfiguration : Configuration where
  included := [""]
  excluded := ["a", "(", "["]
  rules := [{ pattern := "(" }]

/-- Of three faults, the first of the exclude patterns is blamed. Without them, the entry makes a
rule that is sanctioned under the key of the file that it expects.
-/
theorem buildWith_faulty_sample
    : (∃ error : PatternError,
        error.Blames .standard faultyConfiguration
        ∧ error.list = .excluded
        ∧ error.index = 1
        ∧ error.pattern = "(")
      ∧ ∃ ruleset rule,
          buildWith .standard { rules := [{ pattern := "a", expected := ["./b"] }] } = .ok ruleset
          ∧ ruleset.rules[0]? = some rule
          ∧ rule.source = "a"
          ∧ "b" ∈ rule.expected := by
  obtain ⟨_, _, _, blames⟩ := buildWith_all_or_nothing .standard faultyConfiguration
  refine ⟨⟨_, (blames _).mp rfl, rfl, rfl, rfl⟩, ?_⟩
  obtain ⟨_, makes, _⟩ :=
    buildWith_all_or_nothing .standard { rules := [{ pattern := "a", expected := ["./b"] }] }
  obtain ⟨_, rules⟩ := makes _ rfl
  obtain ⟨rule, found, source, _, expected⟩ := rules 0 _ rfl
  have sanctioned : "b" ∈ rule.expected :=
    (expected "b").mpr ⟨"./b", List.mem_singleton_self _, by decide⟩
  exact ⟨_, rule, rfl, found, source, sanctioned⟩

end Ruleset

end PatternAudit
