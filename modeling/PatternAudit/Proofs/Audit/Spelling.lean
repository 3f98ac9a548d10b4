import PatternAudit.Proofs.Audit.Running
import PatternAudit.Proofs.Walk.Spelling

/-! Runs under different spellings. Expected files, roots and targets count by their keys only, so
what is spelled differently is audited alike.
-/

namespace PatternAudit

open Files (Node Content FileSystem)

-----------------------------------------------------------------------------------------
-- Configurations
-----------------------------------------------------------------------------------------

/-- Entries with the same pattern and the same expected keys. The expected files may be spelled,
ordered and repeated differently.
-/
structure RuleEntry.Respells (left right : RuleEntry) : Prop where
  pattern : left.pattern = right.pattern
  expected
    : ∀ key, key ∈ left.expected.map Path.textKey ↔ key ∈ right.expected.map Path.textKey

/-- Configurations with the same patterns in the same order and the same expected keys. -/
structure Configuration.Respells (left right : Configuration) : Prop where
  included : left.included = right.included
  excluded : left.excluded = right.excluded
  rules : List.Forall₂ RuleEntry.Respells left.rules right.rules

namespace Ruleset

/-- Entries that differ in spelling only become the same rule. -/
theorem ruleOf_respelled {left right : RuleEntry} (same : left.Respells right)
    (test : Bytes → Bool)
    : ruleOf left test = ruleOf right test := by
  have expected : KeySet.ofList (left.expected.map Path.textKey)
      = KeySet.ofList (right.expected.map Path.textKey) := by
    refine KeySet.ext_mem fun key => ?_
    rw [KeySet.mem_ofList, KeySet.mem_ofList, same.expected]
  rw [ruleOf, ruleOf, same.pattern, expected]

/-- The patterns of entries that differ in spelling only are the same. -/
theorem patterns_respelled {entries entries' : List RuleEntry}
    (same : List.Forall₂ RuleEntry.Respells entries entries')
    : entries.map (·.pattern) = entries'.map (·.pattern) := by
  induction same with
  | nil => rfl
  | cons first _ ih => rw [List.map_cons, List.map_cons, first.pattern, ih]

/-- With the same tests, entries that differ in spelling only become the same rules. -/
theorem zipWith_ruleOf_respelled {entries entries' : List RuleEntry}
    (same : List.Forall₂ RuleEntry.Respells entries entries') (tests : List (Bytes → Bool))
    : List.zipWith ruleOf entries tests = List.zipWith ruleOf entries' tests := by
  induction same generalizing tests with
  | nil => rfl
  | cons first _ ih =>
      cases tests with
      | nil => rfl
      | cons test tests =>
          rw [List.zipWith_cons_cons, List.zipWith_cons_cons, ruleOf_respelled first, ih]

/-- Configurations that differ in spelling only are built alike, into the same rules or with the
same error.
-/
theorem buildWith_respelled (engine : Engine) {left right : Configuration}
    (same : left.Respells right)
    : buildWith engine left = buildWith engine right := by
  simp only [buildWith, same.included, same.excluded, patterns_respelled same.rules,
    zipWith_ruleOf_respelled same.rules]

end Ruleset

-----------------------------------------------------------------------------------------
-- Plans
-----------------------------------------------------------------------------------------

/-- A rule occurs under a key in files that differ in the spelling of their paths only. -/
theorem Rule.occursUnder_respelled {found found' : List (Bytes × Content)}
    (same : found.map Walk.keyed = found'.map Walk.keyed) (rule : Rule) (key : String)
    : rule.OccursUnder found key ↔ rule.OccursUnder found' key := by
  have byKey (found : List (Bytes × Content))
      : rule.OccursUnder found key
        ↔ ∃ entry ∈ found.map Walk.keyed,
            entry.1 = key ∧ ∃ line ∈ entry.2.lines, rule.occursIn line = true := by
    simp only [OccursUnder, List.mem_map, exists_exists_and_eq_and, Walk.keyed]
  rw [byKey, byKey, same]

namespace Audit

/-- Roots with the same key that lead to the same directory. -/
structure SameRoot (files : FileSystem) (left right : Bytes) : Prop where
  key : Path.key left = Path.key right
  leads
    : ∃ hindrance entries,
        files.node .target left = .ok (.directory hindrance entries)
        ∧ files.node .target right = .ok (.directory hindrance entries)

/-- Targets with the same key that open the same content. -/
structure SameTarget (files : FileSystem) (left right : Bytes) : Prop where
  key : Path.key left = Path.key right
  opens : files.contentAt left = files.contentAt right

/-- Plans of the same kind for the same root or the same target. -/
inductive Plan.Respells (files : FileSystem) : Plan → Plan → Prop
  | tree {left right} (same : SameRoot files left right) : Respells files (.tree left) (.tree right)
  | singleFile {left right} (same : SameTarget files left right)
    : Respells files (.singleFile left) (.singleFile right)

/-- Targets and roots that differ in spelling only are planned alike: being in scope asks about the
key only.
-/
theorem plan_respelled (ruleset : Ruleset) {files : FileSystem} {root root' : Bytes}
    (sameRoot : SameRoot files root root') {target target' : Option Bytes}
    (sameTarget : Option.Rel (SameTarget files) target target')
    : (plan ruleset target root).Respells files (plan ruleset target' root') := by
  cases sameTarget with
  | none => exact .tree sameRoot
  | some same =>
      rw [plan, plan, same.key]
      split
      · exact .singleFile same
      · exact .tree sameRoot

namespace Plan.Respells

variable {files : FileSystem} {left right : Plan}

/-- Plans that differ in spelling only have the same mode. -/
theorem mode (same : left.Respells files right) : left.mode = right.mode := by
  cases same <;> rfl

/-- Plans that differ in spelling only are about the same keys. -/
theorem isAbout (same : left.Respells files right) (key : String)
    : left.IsAbout key ↔ right.IsAbout key := by
  cases same with
  | tree => exact .rfl
  | singleFile same => rw [IsAbout, IsAbout, same.key]

/-- Plans that differ in spelling only scan the same contents under the same keys. -/
theorem scans (same : left.Respells files right) (wellFormed : files.WellFormed)
    {accepts : String → Bool} {found found' : List (Bytes × Content)}
    (first : left.Scans accepts files found) (second : right.Scans accepts files found')
    : found.map Walk.keyed = found'.map Walk.keyed := by
  cases same with
  | tree same =>
      obtain ⟨node, started, _, rfl⟩ := first
      obtain ⟨node', started', _, rfl⟩ := second
      obtain ⟨nonempty, everywhere⟩ := Walk.possible_of_start wellFormed started
      obtain ⟨nonempty', _⟩ := Walk.possible_of_start wellFormed started'
      obtain ⟨hindrance, entries, leads, leads'⟩ := same.leads
      obtain rfl := Except.ok.inj ((Walk.start_of_directory leads).symm.trans started)
      obtain rfl := Except.ok.inj ((Walk.start_of_directory leads').symm.trans started')
      exact Walk.map_keyed_accepted (Walk.map_keyed_files same.key nonempty nonempty' everywhere)
  | singleFile same =>
      obtain ⟨_, rfl⟩ := first
      obtain ⟨_, rfl⟩ := second
      rw [List.map_singleton, List.map_singleton, Walk.keyed, Walk.keyed, same.key, same.opens]

end Plan.Respells

/-- Runs of plans that differ in spelling only give the same report, if both give one. -/
theorem run_respelled {ruleset : Ruleset} {files : FileSystem} (wellFormed : files.WellFormed)
    {left right : Plan} (same : left.Respells files right) {order other : Walk.Order}
    {report report' : Report} (ran : run ruleset files order left = .ok report)
    (ran' : run ruleset files other right = .ok report')
    : report = report' := by
  obtain ⟨found, scans, count, shown⟩ := run_shows ran
  obtain ⟨found', scans', count', shown'⟩ := run_shows ran'
  have sameFound := same.scans wellFormed scans scans'
  have mode : report.mode = report'.mode := by
    rw [mode_of_run ran, mode_of_run ran', same.mode]
  have outcomes : report.rules = report'.rules :=
    shown'.unique shown (fun rule _ key => rule.occursUnder_respelled sameFound key)
      fun rule _ key => and_congr_right fun _ => same.isAbout key
  have size : found.length = found'.length := by
    simpa using congrArg List.length sameFound
  exact Report.ext mode outcomes (by rw [count, count', size])

/-- The spelling of paths is irrelevant. For two configurations with the same patterns and the same
expected keys, two roots with the same key that lead to the same directory, and no targets or two
with the same key that open the same file: both configurations are built into the same rules, the
plans chosen have the same mode, and if both runs succeed, in whatever order of siblings, their
reports are the same.
-/
theorem run_any_spelling (engine : Engine) {config config' : Configuration}
    (sameConfig : config.Respells config') {ruleset : Ruleset}
    (built : Ruleset.buildWith engine config = .ok ruleset) {files : FileSystem}
    (wellFormed : files.WellFormed) {root root' : Bytes} (sameRoot : SameRoot files root root')
    {target target' : Option Bytes} (sameTarget : Option.Rel (SameTarget files) target target')
    : ∃ ruleset',
        Ruleset.buildWith engine config' = .ok ruleset'
        ∧ (plan ruleset target root).mode = (plan ruleset' target' root').mode
        ∧ ∀ order other report report',
            run ruleset files order (plan ruleset target root) = .ok report
            → run ruleset' files other (plan ruleset' target' root') = .ok report'
            → report = report' := by
  have planned := plan_respelled ruleset sameRoot sameTarget
  refine ⟨ruleset, Ruleset.buildWith_respelled engine sameConfig ▸ built, planned.mode, ?_⟩
  intro order other report report' ran ran'
  exact run_respelled wellFormed planned ran ran'

/-- The sample configuration with its expected file spelled in two other ways. -/
def respelledConfiguration : Configuration :=
  { sampleConfiguration with rules := [{ pattern := "a", expected := ["b/", ".//b/."] }] }

/-- What the directory, or a file in it, is reported to hold. -/
def spelledReport (mode : Report.Mode) (missing : KeySet) : Report where
  mode := mode
  rules := [{ pattern := "a", extra := .ofList ["f"], missing }]
  filesChecked := 1

/-- The directory is audited alike as `.` and as `.//`, and so is the file in it as `f` and as
`./f`.
-/
theorem run_any_spelling_sample
    : ∃ ruleset ruleset' tree single,
        Ruleset.buildWith .standard sampleConfiguration = .ok ruleset
        ∧ Ruleset.buildWith .standard respelledConfiguration = .ok ruleset'
        ∧ run ruleset sampleFiles .listed (plan ruleset none [0x2E])
          = .ok (spelledReport .tree (.ofList ["b"]))
        ∧ run ruleset' sampleFiles .listed (plan ruleset' none [0x2E, 0x2F, 0x2F]) = .ok tree
        ∧ spelledReport .tree (.ofList ["b"]) = tree
        ∧ run ruleset sampleFiles .listed (plan ruleset (some [0x66]) [0x2E])
          = .ok (spelledReport .singleFile ∅)
        ∧ run ruleset' sampleFiles .listed
            (plan ruleset' (some [0x2E, 0x2F, 0x66]) [0x2E, 0x2F, 0x2F])
          = .ok single
        ∧ spelledReport .singleFile ∅ = single := by
  have sameConfig : sampleConfiguration.Respells respelledConfiguration := by
    refine ⟨rfl, rfl, .cons ⟨rfl, fun key => ?_⟩ .nil⟩
    have keys : ["b/", ".//b/."].map Path.textKey = ["b", "b"] := by decide
    have keys' : ["./b"].map Path.textKey = ["b"] := by decide
    rw [keys, keys']
    simp
  have sameRoot : SameRoot sampleFiles [0x2E] [0x2E, 0x2F, 0x2F] := ⟨by decide, _, _, rfl, rfl⟩
  have sameTarget : SameTarget sampleFiles [0x66] [0x2E, 0x2F, 0x66] := ⟨by decide, rfl⟩
  obtain ⟨ruleset, built, ranTree, ranSingle⟩
      : ∃ ruleset,
          Ruleset.buildWith .standard sampleConfiguration = .ok ruleset
          ∧ run ruleset sampleFiles .listed (plan ruleset none [0x2E])
            = .ok (spelledReport .tree (.ofList ["b"]))
          ∧ run ruleset sampleFiles .listed (plan ruleset (some [0x66]) [0x2E])
            = .ok (spelledReport .singleFile ∅) :=
    ⟨_, rfl, rfl, rfl⟩
  obtain ⟨ruleset', built', ⟨tree, ranTree'⟩, single, ranSingle'⟩
      : ∃ ruleset',
          Ruleset.buildWith .standard respelledConfiguration = .ok ruleset'
          ∧ (∃ tree,
              run ruleset' sampleFiles .listed (plan ruleset' none [0x2E, 0x2F, 0x2F])
              = .ok tree)
          ∧ ∃ single,
              run ruleset' sampleFiles .listed
                (plan ruleset' (some [0x2E, 0x2F, 0x66]) [0x2E, 0x2F, 0x2F])
              = .ok single :=
    ⟨_, rfl, ⟨_, rfl⟩, _, rfl⟩
  obtain ⟨again, builtAgain, _, trees⟩ :=
    run_any_spelling .standard sameConfig built wellFormed_sampleFiles sameRoot .none
  obtain ⟨again', builtAgain', _, singles⟩ :=
    run_any_spelling .standard sameConfig built wellFormed_sampleFiles sameRoot (.some sameTarget)
  obtain rfl : again = ruleset' := Except.ok.inj (builtAgain.symm.trans built')
  obtain rfl : again' = again := Except.ok.inj (builtAgain'.symm.trans builtAgain)
  exact ⟨ruleset, again', tree, single, built, built', ranTree, ranTree',
    trees _ _ _ _ ranTree ranTree', ranSingle, ranSingle', singles _ _ _ _ ranSingle ranSingle'⟩

end Audit

end PatternAudit
