import Mathlib.Data.List.Forall2
import Mathlib.Data.List.Induction
import PatternAudit.Proofs.Path.NormalForm
import PatternAudit.Rules.Basic

/-! Narrowing as intersection. Narrowed to targets one after the other, a rule expects what it
expected before and what is the key of every target. The rest of the rule and the scope stay, so
that neither the order of the targets counts, nor how often or in which spelling they come.
-/

namespace PatternAudit

attribute [ext] Rule Ruleset

-----------------------------------------------------------------------------------------
-- One rule
-----------------------------------------------------------------------------------------

/-- Empties the expectations of a rule, and puts one key back if it was among them. -/
def Rule.keepOnly (key : String) (rule : Rule) : Rule :=
  { rule with expected := if key ∈ rule.expected then KeySet.empty.insert key else ∅ }

/-- A rule narrowed to some keys is the same rule, but expects of what it expected only what
equals each of the keys: it expects the intersection with the sets that have one key each.
-/
structure Rule.Narrowed (keys : List String) (before after : Rule) : Prop where
  source : after.source = before.source
  occursIn : after.occursIn = before.occursIn
  expected
    : ∀ key, key ∈ after.expected ↔ key ∈ before.expected ∧ ∀ only ∈ keys, key = only

namespace Rule

variable {before after other : Rule} {keys others : List String}

/-- Putting a key back intersects with it. Witness: before anything is put back, the membership
of the key was read, and no other key is put back.
-/
theorem mem_expected_keepOnly {rule : Rule} {key only : String}
    : key ∈ (rule.keepOnly only).expected ↔ key ∈ rule.expected ∧ key = only := by
  unfold keepOnly
  by_cases expects : only ∈ rule.expected
  · rw [if_pos expects, KeySet.mem_insert, or_iff_left KeySet.not_mem_empty]
    constructor
    · rintro rfl
      exact ⟨expects, rfl⟩
    · exact And.right
  · rw [if_neg expects]
    constructor
    · intro none
      exact absurd none KeySet.not_mem_empty
    · rintro ⟨expects', rfl⟩
      exact absurd expects' expects

/-- Narrowed to no keys, a rule stays as it is. -/
theorem Narrowed.refl (rule : Rule) : Narrowed [] rule rule where
  source := rfl
  occursIn := rfl
  expected := by simp

/-- Keeping one key more narrows a rule further. -/
theorem Narrowed.keepOnly (narrowed : Narrowed keys before after) (key : String)
    : Narrowed (keys ++ [key]) before (after.keepOnly key) where
  source := narrowed.source
  occursIn := narrowed.occursIn
  expected := by
    intro other
    rw [mem_expected_keepOnly, narrowed.expected, List.forall_mem_append,
      List.forall_mem_singleton, and_assoc]

/-- The order of the keys and their number do not count. -/
theorem Narrowed.congr (narrowed : Narrowed keys before after)
    (same : ∀ key, key ∈ keys ↔ key ∈ others)
    : Narrowed others before after where
  source := narrowed.source
  occursIn := narrowed.occursIn
  expected := by simpa only [same] using narrowed.expected

/-- Narrowed to the same keys, a rule becomes one rule only. -/
theorem Narrowed.unique (narrowed : Narrowed keys before after)
    (narrowed' : Narrowed keys before other)
    : after = other := by
  have source : after.source = other.source := narrowed.source.trans narrowed'.source.symm
  have occursIn : after.occursIn = other.occursIn :=
    narrowed.occursIn.trans narrowed'.occursIn.symm
  have expected : after.expected = other.expected := KeySet.ext_mem fun key => by
    rw [narrowed.expected, narrowed'.expected]
  exact Rule.ext source occursIn expected

/-- Two keys that differ leave nothing, as no key equals both. -/
theorem Narrowed.expected_eq_empty (narrowed : Narrowed keys before after) {first second : String}
    (isKey : first ∈ keys) (isKey' : second ∈ keys) (different : first ≠ second)
    : after.expected = ∅ := by
  refine KeySet.isEmpty_iff_eq_empty.mp (KeySet.isEmpty_iff.mpr fun key member => ?_)
  obtain ⟨_, equal⟩ := (narrowed.expected key).mp member
  exact different ((equal first isKey).symm.trans (equal second isKey'))

end Rule

-----------------------------------------------------------------------------------------
-- All rules
-----------------------------------------------------------------------------------------

namespace Ruleset

/-- Narrows expectations to targets, one after the other. -/
def narrowAll (ruleset : Ruleset) (targets : List String) : Ruleset :=
  targets.foldl narrow ruleset

/-- The key of the target is kept in every rule, and nothing else changes. -/
theorem narrow_eq_keepOnly (ruleset : Ruleset) (target : String)
    : ruleset.narrow target
      = { ruleset with rules := ruleset.rules.map (Rule.keepOnly (Path.textKey target)) } := by
  have each (rule : Rule) : rule.expected.filter (· == Path.textKey target)
      = (rule.keepOnly (Path.textKey target)).expected := KeySet.ext_mem fun key => by
    rw [KeySet.mem_filter, Rule.mem_expected_keepOnly, beq_iff_eq]
  simp only [narrow, each]
  rfl

/-- Targets with the same key narrow alike. -/
theorem narrow_congr {target other : String} (same : Path.textKey target = Path.textKey other)
    (ruleset : Ruleset)
    : ruleset.narrow target = ruleset.narrow other := by
  rw [narrow_eq_keepOnly, narrow_eq_keepOnly, same]

/-- One target more is narrowed to at the end. -/
theorem narrowAll_concat (ruleset : Ruleset) (targets : List String) (target : String)
    : ruleset.narrowAll (targets ++ [target]) = (ruleset.narrowAll targets).narrow target :=
  List.foldl_concat ..

/-- Targets after others are narrowed to after them. -/
theorem narrowAll_append (ruleset : Ruleset) (targets others : List String)
    : ruleset.narrowAll (targets ++ others) = (ruleset.narrowAll targets).narrowAll others :=
  List.foldl_append

/-- What is in scope does not change. -/
theorem scope_narrowAll (ruleset : Ruleset) (targets : List String)
    : (ruleset.narrowAll targets).scope = ruleset.scope := by
  induction targets using List.reverseRecOn with
  | nil => rfl
  | append_singleton targets target ih =>
      rw [narrowAll_concat]
      exact ih

/-- Every rule, in its place, is narrowed to the keys of all targets. Witness: induction on the
targets from the last one back, which keeps its key of what the earlier ones left.
-/
theorem narrowed_narrowAll (ruleset : Ruleset) (targets : List String)
    : List.Forall₂ (Rule.Narrowed (targets.map Path.textKey)) ruleset.rules
        (ruleset.narrowAll targets).rules := by
  induction targets using List.reverseRecOn with
  | nil => exact List.forall₂_same.mpr fun rule _ => .refl rule
  | append_singleton targets target ih =>
      -- The last step keeps a key in the rules that the earlier targets left, each in its place.
      rw [narrowAll_concat, narrow_eq_keepOnly, List.forall₂_map_right_iff, List.map_append]
      exact ih.imp fun _ _ narrowed => narrowed.keepOnly _

/-- Targets with the same keys narrow alike, in any order and however often each key comes. -/
theorem narrowAll_congr {targets others : List String}
    (same : ∀ key, key ∈ others.map Path.textKey ↔ key ∈ targets.map Path.textKey)
    (ruleset : Ruleset)
    : ruleset.narrowAll others = ruleset.narrowAll targets := by
  have unique : Relator.RightUnique (Rule.Narrowed (targets.map Path.textKey)) :=
    fun _ _ _ => Rule.Narrowed.unique
  have each := (ruleset.narrowed_narrowAll others).imp fun _ _ narrowed => narrowed.congr same
  have rules : (ruleset.narrowAll others).rules = (ruleset.narrowAll targets).rules :=
    unique.forall₂ each (ruleset.narrowed_narrowAll targets)
  have scope : (ruleset.narrowAll others).scope = (ruleset.narrowAll targets).scope := by
    rw [scope_narrowAll, scope_narrowAll]
  exact Ruleset.ext scope rules

/-- A narrowed rule comes from the rule at its place. -/
theorem exists_narrowed_of_mem {ruleset : Ruleset} {targets : List String} {rule : Rule}
    (member : rule ∈ (ruleset.narrowAll targets).rules)
    : ∃ before ∈ ruleset.rules, before.Narrowed (targets.map Path.textKey) rule := by
  have each := ruleset.narrowed_narrowAll targets
  obtain ⟨position, inside, rfl⟩ := List.mem_iff_getElem.mp member
  have inside' : position < ruleset.rules.length := each.length_eq ▸ inside
  exact ⟨_, List.getElem_mem inside', each.get inside' inside⟩

/-- Narrowing is intersection. A step empties every rule's expectations and puts the target's key
back where it was expected. After any targets there are the same rules in the same order, each
with the same pattern, which expects exactly what it expected before and what is the key of every
target, so nothing new and, if two targets have different keys, nothing at all. What is in scope
stays so. Only the keys of the targets count, not their order, repetition or spelling: narrowing
to the same targets again changes nothing. A path may be given by its key instead.
-/
theorem narrowAll_intersects (ruleset : Ruleset)
    : (∀ target,
        ruleset.narrow target
        = { ruleset with rules := ruleset.rules.map (Rule.keepOnly (Path.textKey target)) })
      ∧ (∀ targets,
          let narrowed := ruleset.narrowAll targets
          let keys := targets.map Path.textKey
          List.Forall₂ (Rule.Narrowed keys) ruleset.rules narrowed.rules
          ∧ (∀ path, narrowed.scope.accepts path = ruleset.scope.accepts path)
          ∧ narrowed.narrowAll targets = narrowed
          ∧ (∀ others,
              (∀ key, key ∈ others.map Path.textKey ↔ key ∈ keys)
              → ruleset.narrowAll others = narrowed)
          ∧ ∀ first ∈ keys, ∀ second ∈ keys,
              first ≠ second → ∀ rule ∈ narrowed.rules, rule.expected = ∅)
      ∧ (∀ path, ruleset.narrow (Path.key path) = ruleset.narrow (Path.display path))
      ∧ ∀ text, ruleset.narrow (Path.key (Utf8.ofString text)) = ruleset.narrow text := by
  refine ⟨ruleset.narrow_eq_keepOnly, fun targets => ⟨ruleset.narrowed_narrowAll targets, ?_, ?_,
    fun others same => narrowAll_congr same ruleset, ?_⟩, ?_, ?_⟩
  · intro path
    rw [scope_narrowAll]
  · rw [← narrowAll_append]
    exact narrowAll_congr (by simp) ruleset
  · intro first isKey second isKey' different rule member
    obtain ⟨before, _, narrowed⟩ := exists_narrowed_of_mem member
    exact narrowed.expected_eq_empty isKey isKey' different
  · intro path
    exact narrow_congr (by rw [Path.textKey_key, Path.textKey_display]) ruleset
  · intro text
    exact narrow_congr (by rw [Path.textKey_key, Path.textKey_eq_key]) ruleset

/-- One rule that expects two files. -/
def sampleTwoFiles : Ruleset where
  scope := { included := [], excluded := [] }
  rules := [{ source := "x", occursIn := fun _ => true, expected := .ofList ["a", "b/c"] }]

/-- Two spellings of one expected file leave it, as one of them does. Spellings of both expected
files leave nothing.
-/
theorem narrowAll_sample
    : (∀ key, key ∈ ["./a", "a//"].map Path.textKey ↔ key ∈ ["a"].map Path.textKey)
      ∧ sampleTwoFiles.narrowAll ["./a", "a//"] = sampleTwoFiles.narrowAll ["a"]
      ∧ (sampleTwoFiles.narrowAll ["a"]).rules.map (·.expected.toList) = [["a"]]
      ∧ ["./a", "b/./c"].map Path.textKey = ["a", "b/c"]
      ∧ ∀ rule ∈ (sampleTwoFiles.narrowAll ["./a", "b/./c"]).rules, rule.expected = ∅ := by
  have twice : ["./a", "a//"].map Path.textKey = ["a", "a"] := by decide
  have once : ["a"].map Path.textKey = ["a"] := by decide
  have both : ["./a", "b/./c"].map Path.textKey = ["a", "b/c"] := by decide
  have same : ∀ key, key ∈ ["./a", "a//"].map Path.textKey ↔ key ∈ ["a"].map Path.textKey := by
    simp [twice, once]
  obtain ⟨_, onTargets, _⟩ := narrowAll_intersects sampleTwoFiles
  obtain ⟨_, _, _, spelled, _⟩ := onTargets ["a"]
  obtain ⟨_, _, _, _, apart⟩ := onTargets ["./a", "b/./c"]
  refine ⟨same, spelled _ same, by decide, both, ?_⟩
  exact apart "a" (by simp [both]) "b/c" (by simp [both]) (by decide)

end Ruleset

end PatternAudit
