import PatternAudit.Proofs.Observations.Sessions
import PatternAudit.Proofs.Report.Reconciling

/-! Reports drawn up at any point of a session. The two differences of a rule tell, together with
where its pattern is sanctioned, where it was seen. As long as nothing is emptied they move one
way: extra keys come, missing ones go.
-/

namespace PatternAudit

-----------------------------------------------------------------------------------------
-- Differences that account for what was seen
-----------------------------------------------------------------------------------------

/-- Two differences account for where a pattern was seen: the extra keys are not sanctioned, the
missing ones are, and taking these away and adding those turns what is sanctioned into what was
seen.
-/
structure Mismatches.Accounts (expected actual : KeySet) (mismatches : Mismatches) : Prop where
  unsanctioned : mismatches.extra ∩ expected = ∅
  sanctioned : ∀ key ∈ mismatches.missing, key ∈ expected
  total : actual = (expected \ mismatches.missing) ∪ mismatches.extra

/-- Two sets of keys have nothing in common exactly if no key is in both. -/
theorem KeySet.inter_eq_empty_iff {left right : KeySet}
    : left ∩ right = ∅ ↔ ∀ key ∈ left, ¬key ∈ right := by
  rw [← KeySet.isEmpty_iff_eq_empty, KeySet.isEmpty_iff]
  simp only [KeySet.mem_inter, not_and]

/-- The differences of a rule account for what was seen, by membership. -/
theorem Rule.accounts_mismatches (rule : Rule) (actual : KeySet)
    : (rule.mismatches actual).Accounts rule.expected actual where
  unsanctioned := by
    rw [KeySet.inter_eq_empty_iff]
    intro key extra
    exact (KeySet.mem_sdiff.mp extra).2
  sanctioned key missing := (KeySet.mem_sdiff.mp missing).1
  total := by
    refine KeySet.ext_mem fun key => ?_
    simp only [mismatches, KeySet.mem_union, KeySet.mem_sdiff]
    tauto

/-- No other differences account for the same. Witness: a key that is not sanctioned was seen
exactly if it is extra, and one that is sanctioned was not seen exactly if it is missing.
-/
theorem Mismatches.Accounts.unique {rule : Rule} {actual : KeySet} {mismatches : Mismatches}
    (accounts : mismatches.Accounts rule.expected actual)
    : mismatches = rule.mismatches actual := by
  have unsanctioned := KeySet.inter_eq_empty_iff.mp accounts.unsanctioned
  have sanctioned := accounts.sanctioned
  have total (key : String)
      : key ∈ actual ↔ (key ∈ rule.expected ∧ ¬key ∈ mismatches.missing)
          ∨ key ∈ mismatches.extra := by
    rw [accounts.total, KeySet.mem_union, KeySet.mem_sdiff]
  refine Mismatches.ext (KeySet.ext_mem fun key => ?_) (KeySet.ext_mem fun key => ?_)
  · have apart := unsanctioned key
    rw [Rule.mismatches, KeySet.mem_sdiff, total]
    tauto
  · have apart := unsanctioned key
    have inside := sanctioned key
    rw [Rule.mismatches, KeySet.mem_sdiff, total]
    tauto

/-- No key is both extra and missing. -/
theorem Rule.extra_inter_missing (rule : Rule) (actual : KeySet)
    : (rule.mismatches actual).extra ∩ (rule.mismatches actual).missing = ∅ := by
  rw [KeySet.inter_eq_empty_iff]
  intro key extra missing
  exact (KeySet.mem_sdiff.mp extra).2 (KeySet.mem_sdiff.mp missing).1

/-- There is no difference exactly if a pattern was seen where it is sanctioned and nowhere else.
-/
theorem Rule.isEmpty_mismatches_iff {rule : Rule} {actual : KeySet}
    : (rule.mismatches actual).isEmpty = true ↔ actual = rule.expected := by
  simp only [Mismatches.isEmpty, Bool.and_eq_true, KeySet.isEmpty_iff, mismatches,
    KeySet.mem_sdiff, not_and, not_not]
  constructor
  · rintro ⟨noExtra, noMissing⟩
    exact KeySet.ext_mem fun key => ⟨noExtra key, noMissing key⟩
  · rintro rfl
    exact ⟨fun _ => id, fun _ => id⟩

-----------------------------------------------------------------------------------------
-- Differences that move one way
-----------------------------------------------------------------------------------------

/-- From one pair of differences to a later one, extra keys only come and missing ones only go. -/
structure Mismatches.Advances (before after : Mismatches) : Prop where
  extra : ∀ key ∈ before.extra, key ∈ after.extra
  missing : ∀ key ∈ after.missing, key ∈ before.missing

/-- Differences advance as more is seen. -/
theorem Rule.advances_mismatches (rule : Rule) {actual later : KeySet}
    (more : ∀ key ∈ actual, key ∈ later)
    : (rule.mismatches actual).Advances (rule.mismatches later) where
  extra := by
    intro key extra
    obtain ⟨seen, unsanctioned⟩ := KeySet.mem_sdiff.mp extra
    exact KeySet.mem_sdiff.mpr ⟨more key seen, unsanctioned⟩
  missing := by
    intro key missing
    obtain ⟨sanctioned, unseen⟩ := KeySet.mem_sdiff.mp missing
    exact KeySet.mem_sdiff.mpr ⟨sanctioned, fun seen => unseen (more key seen)⟩

/-- The differences after one more key was seen: a sanctioned key is no longer missing, and any
other is extra.
-/
def Mismatches.note (expected : KeySet) (key : String) (mismatches : Mismatches) : Mismatches :=
  if key ∈ expected then
    { mismatches with missing := mismatches.missing.filter (· != key) }
  else
    { mismatches with extra := mismatches.extra.insert key }

/-- Seeing one more key changes one of the two differences, and by that key only. -/
theorem Rule.mismatches_insert (rule : Rule) (actual : KeySet) (key : String)
    : rule.mismatches (actual.insert key) = (rule.mismatches actual).note rule.expected key := by
  unfold Mismatches.note
  split
  · next sanctioned =>
    refine Mismatches.ext (KeySet.ext_mem fun other => ?_) (KeySet.ext_mem fun other => ?_)
    · simp only [mismatches, KeySet.mem_sdiff, KeySet.mem_insert]
      constructor
      · rintro ⟨rfl | seen, unsanctioned⟩
        · exact absurd sanctioned unsanctioned
        · exact ⟨seen, unsanctioned⟩
      · rintro ⟨seen, unsanctioned⟩
        exact ⟨.inr seen, unsanctioned⟩
    · simp only [mismatches, KeySet.mem_filter, KeySet.mem_sdiff, KeySet.mem_insert, bne_iff_ne]
      tauto
  · next unsanctioned =>
    refine Mismatches.ext (KeySet.ext_mem fun other => ?_) (KeySet.ext_mem fun other => ?_)
    · simp only [mismatches, KeySet.mem_sdiff, KeySet.mem_insert]
      constructor
      · rintro ⟨same | seen, outside⟩
        · exact .inl same
        · exact .inr ⟨seen, outside⟩
      · rintro (rfl | ⟨seen, outside⟩)
        · exact ⟨.inl rfl, unsanctioned⟩
        · exact ⟨.inr seen, outside⟩
    · simp only [mismatches, KeySet.mem_sdiff, KeySet.mem_insert, not_or]
      constructor
      · rintro ⟨sanctioned, _, unseen⟩
        exact ⟨sanctioned, unseen⟩
      · rintro ⟨sanctioned, unseen⟩
        exact ⟨sanctioned, fun same => unsanctioned (same ▸ sanctioned), unseen⟩

-----------------------------------------------------------------------------------------
-- Reports of observations
-----------------------------------------------------------------------------------------

namespace Report

/-- The outcome for a rule compares it with the set at its position. -/
theorem outcome_reconcile {ruleset : Ruleset} {position : Nat} {rule : Rule}
    (found : ruleset.rules[position]? = some rule) (seen : Observations) (mode : Mode)
    : (reconcile ruleset seen mode).rules[position]?
      = some { rule.mismatches (seen.actual.getD position ∅) with pattern := rule.source } := by
  simp [reconcile, List.getElem?_map, List.getElem?_zipIdx, found]

/-- A report has an outcome for each rule and no more. -/
theorem length_rules_reconcile (ruleset : Ruleset) (seen : Observations) (mode : Mode)
    : (reconcile ruleset seen mode).rules.length = ruleset.rules.length := by
  simp [reconcile]

/-- Every outcome advances as more is held. -/
theorem advances_reconcile {ruleset : Ruleset} {seen later : Observations}
    (more : ∀ rule key, seen.Holds rule key → later.Holds rule key) (mode : Mode)
    : List.Forall₂
        (fun before after =>
          after.pattern = before.pattern ∧ before.toMismatches.Advances after.toMismatches)
        (reconcile ruleset seen mode).rules (reconcile ruleset later mode).rules := by
  refine List.forall₂_iff_get.mpr ⟨by simp only [length_rules_reconcile], ?_⟩
  intro position inBefore inAfter
  have inRules : position < ruleset.rules.length := length_rules_reconcile .. ▸ inBefore
  have found := List.getElem?_eq_getElem inRules
  have before := outcome_reconcile found seen mode
  have after := outcome_reconcile found later mode
  rw [List.getElem?_eq_getElem inBefore] at before
  rw [List.getElem?_eq_getElem inAfter] at after
  rw [List.get_eq_getElem, List.get_eq_getElem, Option.some.inj before, Option.some.inj after]
  refine ⟨rfl, Rule.advances_mismatches _ fun key held => ?_⟩
  exact mem_getD_actual.mpr (more position key (mem_getD_actual.mp held))

/-- Noting a key for a rule changes the outcome of that rule only. -/
theorem outcome_reconcile_record {ruleset : Ruleset} {position : Nat} {rule : Rule}
    (found : ruleset.rules[position]? = some rule) {seen : Observations}
    (size : seen.actual.length = ruleset.rules.length) (noted : Nat) (key : String)
    (mode : Mode)
    : (reconcile ruleset (seen.record noted key) mode).rules[position]?
      = ((reconcile ruleset seen mode).rules[position]?).map fun outcome =>
          if position = noted then
            { outcome.toMismatches.note rule.expected key with pattern := outcome.pattern }
          else outcome := by
  have inSeen : position < seen.actual.length := by
    rw [size]
    exact (List.getElem?_eq_some_iff.mp found).1
  rw [outcome_reconcile found, outcome_reconcile found, Option.map_some]
  by_cases same : position = noted
  · subst same
    simp [Observations.record, List.getD_eq_getElem?_getD, List.getElem?_eq_getElem inSeen,
      Rule.mismatches_insert]
  · simp [Observations.record, List.getD_eq_getElem?_getD, same, Ne.symm same]

end Report

namespace Session

/-- Reports drawn up during a session. After any operations, the two differences of every rule have
no key in common and account for what was seen of it, no others do, and the rule passes exactly if
it was seen where it is sanctioned and nowhere else. Along any further operations up to the next
reset, extra keys only come and missing ones only go, and noting a single key changes the outcome
of its rule only, and there one of the two differences by that key.
-/
theorem reports_during_session (ruleset : Ruleset) (operations : List Operation)
    (mode : Report.Mode)
    : let session := (start ruleset).run operations
      let report := Report.reconcile ruleset session.seen mode
      (∀ (position : Nat) (rule : Rule),
          ruleset.rules[position]? = some rule
          → ∃ (actual : KeySet) (outcome : RuleReport),
              session.seen.actual[position]? = some actual
              ∧ report.rules[position]? = some outcome
              ∧ outcome.extra ∩ outcome.missing = ∅
              ∧ (∀ mismatches : Mismatches,
                  mismatches.Accounts rule.expected actual ↔ mismatches = outcome.toMismatches)
              ∧ (outcome.passed = true ↔ actual = rule.expected))
      ∧ (∀ later : List Operation,
          (∀ operation ∈ later, operation.isReset = false)
          → List.Forall₂
              (fun before after =>
                after.pattern = before.pattern
                ∧ before.toMismatches.Advances after.toMismatches)
              report.rules (Report.reconcile ruleset (session.run later).seen mode).rules)
      ∧ ∀ (noted : Nat) (key : String) (position : Nat) (rule : Rule),
          ruleset.rules[position]? = some rule
          → (Report.reconcile ruleset (session.step (.record noted key)).seen mode).rules[position]?
            = report.rules[position]?.map fun outcome =>
                if position = noted then
                  { outcome.toMismatches.note rule.expected key with pattern := outcome.pattern }
                else outcome := by
  have size := length_actual_run ruleset operations
  refine ⟨?_, ?_, ?_⟩
  · intro position rule found
    have inSeen : position < ((start ruleset).run operations).seen.actual.length := by
      rw [size]
      exact (List.getElem?_eq_some_iff.mp found).1
    have held := List.getElem?_eq_getElem inSeen
    have outcome := Report.outcome_reconcile found ((start ruleset).run operations).seen mode
    rw [List.getD_eq_getElem?_getD, held, Option.getD_some] at outcome
    refine ⟨_, _, held, outcome, rule.extra_inter_missing _, ?_, Rule.isEmpty_mismatches_iff⟩
    intro mismatches
    constructor
    · exact fun accounts => accounts.unique
    · rintro rfl
      exact rule.accounts_mismatches _
  · intro later keeps
    have gains := (scansAs_run ruleset operations).run keeps
    exact Report.advances_reconcile (fun _ _ held => gains.mono held) mode
  · intro noted key position rule found
    exact Report.outcome_reconcile_record found size noted key mode

end Session

end PatternAudit
