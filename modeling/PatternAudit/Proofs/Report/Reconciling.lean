import Mathlib.Data.List.Forall2
import PatternAudit.Proofs.Observations.Events
import PatternAudit.Report.Basic

/-! Reports through membership: for every rule, in order, the two differences between the keys
that observations hold for it and those in which it is sanctioned.
-/

namespace PatternAudit

/-- An outcome has as extra what was seen and is not sanctioned, and as missing what is
sanctioned and was not seen.
-/
structure RuleReport.Compares (outcome : RuleReport) (seen sanctioned : String → Prop)
    : Prop where
  extra : ∀ key, key ∈ outcome.extra ↔ seen key ∧ ¬sanctioned key
  missing : ∀ key, key ∈ outcome.missing ↔ sanctioned key ∧ ¬seen key

/-- Only the members of the two sides count. -/
theorem RuleReport.Compares.congr {outcome : RuleReport}
    {seen seen' sanctioned sanctioned' : String → Prop}
    (compares : outcome.Compares seen sanctioned) (sameSeen : ∀ key, seen key ↔ seen' key)
    (sameSanctioned : ∀ key, sanctioned key ↔ sanctioned' key)
    : outcome.Compares seen' sanctioned' where
  extra := by simpa only [sameSeen, sameSanctioned] using compares.extra
  missing := by simpa only [sameSeen, sameSanctioned] using compares.missing

/-- Outcomes with the same pattern that compare the same are the same. -/
theorem RuleReport.Compares.unique {left right : RuleReport} {seen sanctioned : String → Prop}
    (compares : left.Compares seen sanctioned) (compares' : right.Compares seen sanctioned)
    (pattern : left.pattern = right.pattern)
    : left = right := by
  have extra : left.extra = right.extra := KeySet.ext_mem fun key => by
    rw [compares.extra, compares'.extra]
  have missing : left.missing = right.missing := KeySet.ext_mem fun key => by
    rw [compares.missing, compares'.missing]
  exact RuleReport.ext extra missing pattern

/-- An outcome passes exactly if a pattern was seen where it is sanctioned and nowhere else. -/
theorem RuleReport.Compares.passed_iff {outcome : RuleReport} {seen sanctioned : String → Prop}
    (compares : outcome.Compares seen sanctioned)
    : outcome.passed = true ↔ ∀ key, seen key ↔ sanctioned key := by
  simp only [passed, Mismatches.isEmpty, Bool.and_eq_true, KeySet.isEmpty_iff, compares.extra,
    compares.missing]
  constructor
  · rintro ⟨noExtra, noMissing⟩ key
    have here := noExtra key
    have there := noMissing key
    tauto
  · intro same
    simp [same]

/-- An outcome as far as it is about one key. -/
def RuleReport.restrict (key : String) (outcome : RuleReport) : RuleReport :=
  { outcome with
    extra := outcome.extra ∩ .ofList [key]
    missing := outcome.missing ∩ .ofList [key] }

/-- A restricted outcome has of the extra keys the one that it is about. -/
theorem RuleReport.mem_extra_restrict {key other : String} {outcome : RuleReport}
    : other ∈ (outcome.restrict key).extra ↔ other ∈ outcome.extra ∧ other = key := by
  simp [restrict, KeySet.mem_inter, KeySet.mem_ofList]

/-- A restricted outcome has of the missing keys the one that it is about. -/
theorem RuleReport.mem_missing_restrict {key other : String} {outcome : RuleReport}
    : other ∈ (outcome.restrict key).missing ↔ other ∈ outcome.missing ∧ other = key := by
  simp [restrict, KeySet.mem_inter, KeySet.mem_ofList]

/-- A restricted outcome compares the restricted sides. -/
theorem RuleReport.Compares.restrict {outcome : RuleReport} {seen sanctioned : String → Prop}
    (compares : outcome.Compares seen sanctioned) (key : String)
    : (outcome.restrict key).Compares (fun other => seen other ∧ other = key)
        (fun other => sanctioned other ∧ other = key) where
  extra other := by
    rw [mem_extra_restrict, compares.extra]
    tauto
  missing other := by
    rw [mem_missing_restrict, compares.missing]
    tauto

namespace Report

/-- Outcomes of rules, in order: each has the pattern of its rule, and compares what was seen for
it with what is sanctioned for it.
-/
def Shows (seen sanctioned : Rule → String → Prop) (rules : List Rule)
    (outcomes : List RuleReport)
    : Prop :=
  List.Forall₂
    (fun rule outcome =>
      outcome.pattern = rule.source ∧ outcome.Compares (seen rule) (sanctioned rule))
    rules outcomes

/-- The outcome of a rule is at its position. -/
theorem Shows.outcome {seen sanctioned : Rule → String → Prop} {rules : List Rule}
    {outcomes : List RuleReport} (shows' : Shows seen sanctioned rules outcomes)
    {position : Nat} {rule : Rule} (found : rules[position]? = some rule)
    : ∃ outcome,
        outcomes[position]? = some outcome
        ∧ outcome.pattern = rule.source
        ∧ outcome.Compares (seen rule) (sanctioned rule) := by
  obtain ⟨inRules, rfl⟩ := List.getElem?_eq_some_iff.mp found
  have inOutcomes : position < outcomes.length := shows'.length_eq ▸ inRules
  exact ⟨outcomes[position], List.getElem?_eq_getElem inOutcomes,
    shows'.get inRules inOutcomes⟩

/-- The rule of an outcome is at its position. -/
theorem Shows.rule {seen sanctioned : Rule → String → Prop} {rules : List Rule}
    {outcomes : List RuleReport} (shows' : Shows seen sanctioned rules outcomes)
    {position : Nat} {outcome : RuleReport} (found : outcomes[position]? = some outcome)
    : ∃ rule,
        rules[position]? = some rule
        ∧ outcome.pattern = rule.source
        ∧ outcome.Compares (seen rule) (sanctioned rule) := by
  obtain ⟨inOutcomes, rfl⟩ := List.getElem?_eq_some_iff.mp found
  have inRules : position < rules.length := shows'.length_eq ▸ inOutcomes
  exact ⟨rules[position], List.getElem?_eq_getElem inRules, shows'.get inRules inOutcomes⟩

/-- All outcomes pass exactly if every rule was seen where it is sanctioned and nowhere else, by
induction on the rules.
-/
theorem Shows.all_passed_iff {seen sanctioned : Rule → String → Prop} {rules : List Rule}
    {outcomes : List RuleReport} (shows' : Shows seen sanctioned rules outcomes)
    : outcomes.all RuleReport.passed = true
      ↔ ∀ rule ∈ rules, ∀ key, seen rule key ↔ sanctioned rule key := by
  induction shows' with
  | nil => simp
  | cons first _ ih =>
      rw [List.all_cons, Bool.and_eq_true, List.forall_mem_cons, first.2.passed_iff, ih]

/-- Outcomes that show the same for the same rules are the same, by induction on the rules. -/
theorem Shows.unique {seen sanctioned seen' sanctioned' : Rule → String → Prop}
    {rules : List Rule} {outcomes outcomes' : List RuleReport}
    (shows' : Shows seen sanctioned rules outcomes)
    (again : Shows seen' sanctioned' rules outcomes')
    (sameSeen : ∀ rule ∈ rules, ∀ key, seen' rule key ↔ seen rule key)
    (sameSanctioned : ∀ rule ∈ rules, ∀ key, sanctioned' rule key ↔ sanctioned rule key)
    : outcomes' = outcomes := by
  induction shows' generalizing outcomes' with
  | nil =>
      cases again
      rfl
  | @cons rule outcome rules outcomes first rest ih =>
      cases again with
      | @cons _ outcome' _ outcomes' first' rest' =>
          obtain ⟨pattern, compares⟩ := first
          obtain ⟨pattern', compares'⟩ := first'
          obtain ⟨seenHere, seenRest⟩ := List.forall_mem_cons.mp sameSeen
          obtain ⟨sanctionedHere, sanctionedRest⟩ := List.forall_mem_cons.mp sameSanctioned
          have same : outcome' = outcome :=
            (compares'.congr seenHere sanctionedHere).unique compares
              (pattern'.trans pattern.symm)
          rw [same, ih rest' seenRest sanctionedRest]

/-- Restricted outcomes show of both sides what is about the key. -/
theorem Shows.restrict {seen sanctioned : Rule → String → Prop} {rules : List Rule}
    {outcomes : List RuleReport} (shows' : Shows seen sanctioned rules outcomes) (key : String)
    : Shows (fun rule other => seen rule other ∧ other = key)
        (fun rule other => sanctioned rule other ∧ other = key) rules
        (outcomes.map (·.restrict key)) :=
  List.forall₂_map_right_iff.mpr <|
    shows'.imp fun _ _ shown => ⟨shown.1, shown.2.restrict key⟩

/-- Outcomes that show no more than what is about one key are restricted to it. -/
theorem Shows.eq_map_restrict {seen sanctioned seen' sanctioned' : Rule → String → Prop}
    {rules : List Rule} {outcomes outcomes' : List RuleReport} {key : String}
    (shows' : Shows seen sanctioned rules outcomes)
    (restricted : Shows seen' sanctioned' rules outcomes')
    (sameSeen : ∀ rule ∈ rules, ∀ other, seen' rule other ↔ seen rule other ∧ other = key)
    (sameSanctioned
      : ∀ rule ∈ rules, ∀ other, sanctioned' rule other ↔ sanctioned rule other ∧ other = key)
    : outcomes' = outcomes.map (·.restrict key) :=
  (shows'.restrict key).unique restricted sameSeen sameSanctioned

/-- The set of a rule has the keys that are held for it; a rule without set holds none. -/
theorem mem_getD_actual {seen : Observations} {position : Nat} {key : String}
    : key ∈ seen.actual.getD position ∅ ↔ seen.Holds position key := by
  rw [List.getD_eq_getElem?_getD, Observations.Holds]
  cases seen.actual[position]? with
  | none => exact iff_of_false KeySet.not_mem_empty (by simp)
  | some keys => simp

/-- A report shows, rule by rule, what the observations hold for its position. -/
theorem shows_reconcile {ruleset : Ruleset} {observed : Observations}
    {seen : Rule → String → Prop}
    (holds
      : ∀ position rule,
          ruleset.rules[position]? = some rule
          → ∀ key, observed.Holds position key ↔ seen rule key)
    (mode : Mode)
    : Shows seen (fun rule key => key ∈ rule.expected) ruleset.rules
        (reconcile ruleset observed mode).rules := by
  refine List.forall₂_iff_get.mpr ⟨by simp [reconcile], fun position inRules _ => ?_⟩
  have found := List.getElem?_eq_getElem inRules
  simp only [List.get_eq_getElem, reconcile, List.getElem_map, List.getElem_zipIdx,
    Nat.zero_add]
  refine ⟨trivial, fun key => ?_, fun key => ?_⟩
  · rw [← holds _ _ found, ← mem_getD_actual]
    exact KeySet.mem_sdiff
  · rw [← holds _ _ found, ← mem_getD_actual]
    exact KeySet.mem_sdiff

end Report

end PatternAudit
