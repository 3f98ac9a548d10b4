import PatternAudit.Proofs.Audit.Running
import PatternAudit.Proofs.Walk.Locating

/-! Checks of single files in a directory that passes as a whole. A file that the walk scans
passes on its own. A target that the walk passes over, such as a link, is sanctioned by no rule,
so it passes exactly if no rule occurs in it.
-/

namespace PatternAudit.Audit

open Files (Node Content FileSystem)

-----------------------------------------------------------------------------------------
-- Targets
-----------------------------------------------------------------------------------------

/-- A target that a check scans alone and can read: its path leads downward from the working
directory and its key is in scope.
-/
structure IsCheckable (ruleset : Ruleset) (files : FileSystem) (target : Bytes) : Prop
    extends Files.IsDownward target where
  inScope : ruleset.scope.accepts (Path.key target) = true
  readable : (files.contentAt target).fault? = none

variable {ruleset : Ruleset} {files : FileSystem} {target : Bytes}

/-- What a readable target opens is the file that stands at its place, if one does. -/
theorem IsCheckable.contentAt_eq (checkable : IsCheckable ruleset files target)
    {content : Content}
    (here
      : files.root.at? (files.workingDirectory ++ Path.names target) = some (.file content))
    : files.contentAt target = content := by
  have readable := checkable.readable
  cases reached : files.node .target target with
  | error fault => simp [FileSystem.contentAt, reached, Content.fault?] at readable
  | ok node =>
      obtain rfl := Files.node_eq_of_at? checkable.toIsDownward here (by simp) reached
      simp [FileSystem.contentAt, reached]

/-- A target that is a regular file is scanned by the walk, under a path with its key. -/
theorem IsCheckable.exists_mem_accepted (checkable : IsCheckable ruleset files target)
    {node : Node} (started : Walk.start files [Path.dot] = .ok node)
    (holds : files.HoldsFile target)
    : ∃ file ∈ Walk.accepted ruleset.scope.accepts [Path.dot] node,
        IsTarget files file target := by
  obtain ⟨content, here⟩ := holds
  obtain ⟨place, isFile, sameKey⟩ :=
    Walk.exists_mem_files_of_downward started checkable.relative here
  refine ⟨(place, content), List.mem_filter.mpr ⟨isFile, ?_⟩, sameKey.symm, ?_⟩
  · rw [sameKey]
    exact checkable.inScope
  · exact checkable.contentAt_eq here

-----------------------------------------------------------------------------------------
-- Passing on one's own
-----------------------------------------------------------------------------------------

/-- A run over one file passes exactly if the rules occur in it that are sanctioned there, and no
others.
-/
theorem passed_runSingleFile_iff {single : Report}
    (ran : runSingleFile ruleset files target = .ok single)
    : single.passed = true
      ↔ ∀ rule ∈ ruleset.rules, ∀ key,
          rule.OccursUnder [(target, files.contentAt target)] key
          ↔ key ∈ rule.expected ∧ key = Path.key target := by
  have carriedOut : run ruleset files .listed (.singleFile target) = .ok single := ran
  obtain ⟨_, ⟨_, rfl⟩, _, shown⟩ := run_shows carriedOut
  exact shown.all_passed_iff

section PassingFiles

variable {scanned : List (Bytes × Content)} {single : Report}

/-- Where the scanned files pass together, a target of one that alone has its key passes. -/
theorem passes_of_onlyUnderKey
    (together
      : ∀ rule ∈ ruleset.rules, ∀ key, rule.OccursUnder scanned key ↔ key ∈ rule.expected)
    (ran : runSingleFile ruleset files target = .ok single) {file : Bytes × Content}
    (member : file ∈ scanned) (only : OnlyUnderKey scanned file)
    (isTarget : IsTarget files file target)
    : single.passed = true := by
  refine (passed_runSingleFile_iff ran).mpr fun rule isRule key => ?_
  rw [isTarget.opens, occursUnder_iff_of_onlyUnderKey member only isTarget.key,
    together rule isRule, isTarget.key]

/-- Where the scanned files pass together, a target whose key none of them has is sanctioned for
no rule, so it passes exactly if no rule occurs in it.
-/
theorem passes_iff_of_unscanned
    (together
      : ∀ rule ∈ ruleset.rules, ∀ key, rule.OccursUnder scanned key ↔ key ∈ rule.expected)
    (ran : runSingleFile ruleset files target = .ok single)
    (unscanned : ∀ file ∈ scanned, Path.key file.1 ≠ Path.key target)
    : single.passed = true
      ↔ ∀ rule ∈ ruleset.rules, ∀ line ∈ (files.contentAt target).lines,
          rule.occursIn line = false := by
  have unsanctioned {rule : Rule} (isRule : rule ∈ ruleset.rules)
      : Path.key target ∉ rule.expected := by
    rw [← together rule isRule]
    rintro ⟨file, member, sameKey, _⟩
    exact unscanned file member sameKey
  rw [passed_runSingleFile_iff ran]
  refine forall₂_congr fun rule isRule => ?_
  simp only [occursUnder_single_iff]
  constructor
  · intro same line isLine
    by_contra occurs
    have shown := (same (Path.key target)).mp ⟨rfl, line, isLine, by simpa using occurs⟩
    exact unsanctioned isRule shown.1
  · intro absent key
    constructor
    · rintro ⟨_, line, isLine, occurs⟩
      exact absurd occurs (by simp [absent line isLine])
    · rintro ⟨sanctioned, rfl⟩
      exact absurd sanctioned (unsanctioned isRule)

end PassingFiles

/-- Checks in a directory that passes as a whole. Every target that can be checked gives a report.
A target that is a regular file passes, if all scanned files with its key are the same; and a
target whose key no scanned file has passes exactly if no rule occurs in it.
-/
theorem checks_of_passing_tree {order : Walk.Order} {report : Report}
    (ran : runTree ruleset files order [Path.dot] = .ok report)
    (passes : report.passed = true)
    : ∃ scanned,
        (Plan.tree [Path.dot]).Scans ruleset.scope.accepts files scanned
        ∧ ∀ target,
            IsCheckable ruleset files target
            → ∀ order',
                ∃ single,
                  run ruleset files order' (plan ruleset (some target) [Path.dot]) = .ok single
                  ∧ (files.HoldsFile target
                    → (∀ file ∈ scanned,
                        Path.key file.1 = Path.key target → OnlyUnderKey scanned file)
                    → single.passed = true)
                  ∧ ((∀ file ∈ scanned, Path.key file.1 ≠ Path.key target)
                    → (single.passed = true
                      ↔ ∀ rule ∈ ruleset.rules, ∀ line ∈ (files.contentAt target).lines,
                          rule.occursIn line = false)) := by
  obtain ⟨node, started, readable, _, _, shown⟩ := runTree_shows ran
  have together := shown.all_passed_iff.mp passes
  refine ⟨_, ⟨node, started, readable, rfl⟩, fun target checkable order' => ?_⟩
  obtain ⟨single, ranAlone, _⟩ := runSingleFile_shows ruleset checkable.readable
  have planned : plan ruleset (some target) [Path.dot] = .singleFile target :=
    if_pos checkable.inScope
  refine ⟨single, by rw [planned]; exact ranAlone, fun holds only => ?_, fun unscanned => ?_⟩
  · obtain ⟨file, member, isTarget⟩ := checkable.exists_mem_accepted started holds
    exact passes_of_onlyUnderKey together ranAlone member (only file member isTarget.key.symm)
      isTarget
  · exact passes_iff_of_unscanned together ranAlone unscanned

/-- A directory with a file `f` and a link `l` to it. -/
def linkedFiles : FileSystem where
  root := .directory none
    [([0x66], .file (.stream [0x61, 0x0A])), ([0x6C], .link [0x66])]

/-- One rule for every file, which is sanctioned in `f`. -/
def linkedRuleset : Ruleset where
  scope := { included := [fun _ => true], excluded := [] }
  rules := [{ source := "a", occursIn := (·.contains 0x61), expected := .ofList ["f"] }]

/-- The directory passes, and so does a check of the file by another spelling of its path. -/
theorem checks_of_passing_tree_sample
    : ∃ report single,
        runTree linkedRuleset linkedFiles .listed [Path.dot] = .ok report
        ∧ report.passed = true
        ∧ run linkedRuleset linkedFiles .listed
            (plan linkedRuleset (some [0x2E, 0x2F, 0x2F, 0x66]) [Path.dot])
          = .ok single
        ∧ single.passed = true := by
  have ran : runTree linkedRuleset linkedFiles .listed [Path.dot]
      = .ok { mode := .tree, rules := [{ pattern := "a", extra := ∅, missing := ∅ }],
              filesChecked := 1 } :=
    rfl
  obtain ⟨scanned, ⟨node, started, _, rfl⟩, checks⟩ := checks_of_passing_tree ran rfl
  obtain rfl : linkedFiles.root = node := Except.ok.inj started
  have checkable : IsCheckable linkedRuleset linkedFiles [0x2E, 0x2F, 0x2F, 0x66] :=
    { relative := rfl, noParent := by decide, inScope := rfl, readable := rfl }
  obtain ⟨single, ranAlone, passes, _⟩ := checks _ checkable .listed
  refine ⟨_, single, ran, rfl, ranAlone, passes ⟨_, rfl⟩ fun file member _ => ?_⟩
  cases List.mem_singleton.mp member
  exact fun other isOther _ => List.mem_singleton.mp isOther

/-- The directory passes, but a check of the link fails. -/
theorem check_of_link_fails
    : ∃ report single,
        runTree linkedRuleset linkedFiles .listed [Path.dot] = .ok report
        ∧ report.passed = true
        ∧ IsCheckable linkedRuleset linkedFiles [0x6C]
        ∧ run linkedRuleset linkedFiles .listed
            (plan linkedRuleset (some [0x6C]) [Path.dot])
          = .ok single
        ∧ single.passed = false :=
  ⟨_, _, rfl, rfl,
    { relative := rfl, noParent := by decide, inScope := rfl, readable := rfl }, rfl, rfl⟩

end PatternAudit.Audit
