import PatternAudit.Proofs.Audit.TreeRun
import PatternAudit.Proofs.Files.Listings
import PatternAudit.Proofs.Path.Segments
import PatternAudit.Proofs.Walk.Opening

/-! Runs over one file. They say of the file what a run over a tree says of it, for every path
that opens the file under its key.
-/

namespace PatternAudit

open Files (Node Content FileSystem)

-----------------------------------------------------------------------------------------
-- Reports of single files
-----------------------------------------------------------------------------------------

namespace Audit

/-- The rules narrowed to the key of a path keep of what is sanctioned the key itself. The key
stays the same when it is read as a path once more.
-/
theorem shows_narrow_iff {ruleset : Ruleset} {path : Bytes} {found : List (Bytes × Content)}
    {outcomes : List RuleReport}
    : Report.Shows (Rule.OccursUnder found) (fun rule key => key ∈ rule.expected)
          (ruleset.narrow (Path.key path)).rules outcomes
      ↔ Report.Shows (Rule.OccursUnder found)
          (fun rule key => key ∈ rule.expected ∧ key = Path.key path) ruleset.rules
          outcomes := by
  simp only [Report.Shows, Ruleset.narrow, List.forall₂_map_left_iff, Path.textKey_key,
    KeySet.mem_filter, beq_iff_eq]
  exact Iff.rfl

/-- A rule occurs in a single file under the file's key only, and there if some line shows it. -/
theorem occursUnder_single_iff {rule : Rule} {target : Bytes} {content : Content}
    {key : String}
    : rule.OccursUnder [(target, content)] key
      ↔ key = Path.key target ∧ ∃ line ∈ content.lines, rule.occursIn line = true := by
  simp only [Rule.OccursUnder, List.mem_singleton, exists_eq_left]
  exact and_congr_left' eq_comm

/-- A run over a file that can be read gives a report. It counts the file and shows whether the
rules occur in it.
-/
theorem runSingleFile_shows (ruleset : Ruleset) {files : FileSystem} {target : Bytes}
    (whole : (files.contentAt target).fault? = none)
    : ∃ report,
        runSingleFile ruleset files target = .ok report
        ∧ report.mode = .singleFile
        ∧ report.filesChecked = 1
        ∧ Report.Shows (Rule.OccursUnder [(target, files.contentAt target)])
            (fun rule key => key ∈ rule.expected ∧ key = Path.key target) ruleset.rules
            report.rules := by
  let narrowed := ruleset.narrow (Path.key target)
  have read := Observations.matchContent_failure narrowed.rules (.emptyFor narrowed) target
    (Path.key target) (files.contentAt target)
  have gains := Observations.gains_matchContent narrowed.rules (.emptyFor narrowed) target
    (Path.key target) (files.contentAt target)
  have single : Observations.Event.ofFiles [(target, files.contentAt target)]
      = Observations.Event.ofFile (Path.key target) (files.contentAt target) := by
    simp [Observations.Event.ofFiles]
  rw [← single] at gains
  rw [whole] at read
  refine ⟨_, conclude_eq_ok_iff.mpr ⟨read, rfl⟩, rfl, ?_, ?_⟩
  · exact Observations.filesChecked_of_gains_ofFiles gains (by simpa using whole)
  · exact shows_narrow_iff.mp (shows_of_gains_ofFiles gains .singleFile)

-----------------------------------------------------------------------------------------
-- Single files and trees
-----------------------------------------------------------------------------------------

/-- A path is a target for a file: it has the file's key and opens the file. -/
structure IsTarget (files : FileSystem) (file : Bytes × Content) (target : Bytes) : Prop where
  key : Path.key target = Path.key file.1
  opens : files.contentAt target = file.2

/-- No other of the files has the key of this one. -/
def OnlyUnderKey (scanned : List (Bytes × Content)) (file : Bytes × Content) : Prop :=
  ∀ other ∈ scanned, Path.key other.1 = Path.key file.1 → other = file

/-- Some run over one of the files, by its target, has a key in a set of its outcome at a
position.
-/
def ToldBySome (ruleset : Ruleset) (files : FileSystem) (targets : Bytes × Content → Bytes)
    (scanned : List (Bytes × Content)) (position : Nat) (set : RuleReport → KeySet)
    (key : String)
    : Prop :=
  ∃ file ∈ scanned, ∃ single outcome,
    runSingleFile ruleset files (targets file) = .ok single
    ∧ single.rules[position]? = some outcome
    ∧ key ∈ set outcome

/-- Where only one file has a key, the rules occur under it in that file or nowhere. -/
theorem occursUnder_iff_of_onlyUnderKey {scanned : List (Bytes × Content)}
    {file : Bytes × Content} (member : file ∈ scanned) (only : OnlyUnderKey scanned file)
    {target : Bytes} (sameKey : Path.key target = Path.key file.1) (rule : Rule) (key : String)
    : rule.OccursUnder [(target, file.2)] key
      ↔ rule.OccursUnder scanned key ∧ key = Path.key file.1 := by
  constructor
  · rintro ⟨_, alone, rfl, occurs⟩
    obtain rfl := List.mem_singleton.mp alone
    exact ⟨⟨file, member, sameKey.symm, occurs⟩, sameKey⟩
  · rintro ⟨⟨other, isOther, rfl, occurs⟩, same⟩
    obtain rfl := only other isOther same
    exact ⟨(target, other.2), List.mem_singleton_self _, sameKey, occurs⟩

/-- A run over the only file under a key gives the tree's outcomes, restricted to that key. -/
theorem exists_runSingleFile_restrict {ruleset : Ruleset} {files : FileSystem}
    {scanned : List (Bytes × Content)} {outcomes : List RuleReport}
    (shown
      : Report.Shows (Rule.OccursUnder scanned) (fun rule key => key ∈ rule.expected)
          ruleset.rules outcomes)
    {file : Bytes × Content} (member : file ∈ scanned) (whole : file.2.fault? = none)
    (only : OnlyUnderKey scanned file) {target : Bytes} (isTarget : IsTarget files file target)
    : ∃ single,
        runSingleFile ruleset files target = .ok single
        ∧ single.rules = outcomes.map (·.restrict (Path.key file.1)) := by
  have opens := isTarget.opens
  obtain ⟨single, ran, _, _, alone⟩ := runSingleFile_shows ruleset (opens ▸ whole)
  rw [opens, isTarget.key] at alone
  refine ⟨single, ran, shown.eq_map_restrict alone (fun rule _ key => ?_) fun _ _ _ => Iff.rfl⟩
  exact occursUnder_iff_of_onlyUnderKey member only isTarget.key rule key

section Union

variable {ruleset : Ruleset} {files : FileSystem} {scanned : List (Bytes × Content)}
variable {targets : Bytes × Content → Bytes} {outcomes : List RuleReport} {position : Nat}
variable {outcome : RuleReport}

/-- Where every file has a key of its own, the runs over the single files tell what the tree's
outcome has under their keys.
-/
theorem toldBySome_iff
    (shown
      : Report.Shows (Rule.OccursUnder scanned) (fun rule key => key ∈ rule.expected)
          ruleset.rules outcomes)
    (whole : ∀ file ∈ scanned, file.2.fault? = none)
    (only : ∀ file ∈ scanned, OnlyUnderKey scanned file)
    (areTargets : ∀ file ∈ scanned, IsTarget files file (targets file))
    (here : outcomes[position]? = some outcome) (set : RuleReport → KeySet) (key : String)
    : ToldBySome ruleset files targets scanned position set key
      ↔ ∃ file ∈ scanned, key ∈ set (outcome.restrict (Path.key file.1)) := by
  have restricts {file : Bytes × Content} (member : file ∈ scanned) :=
    exists_runSingleFile_restrict shown member (whole file member) (only file member)
      (areTargets file member)
  constructor
  · rintro ⟨file, member, single, part, ran, found, inSet⟩
    obtain ⟨single', ran', rules⟩ := restricts member
    obtain rfl : single' = single := Except.ok.inj (ran'.symm.trans ran)
    rw [rules, List.getElem?_map, here] at found
    obtain rfl := Option.some.inj found
    exact ⟨file, member, inSet⟩
  · rintro ⟨file, member, inSet⟩
    obtain ⟨single, ran, rules⟩ := restricts member
    refine ⟨file, member, single, _, ran, ?_, inSet⟩
    rw [rules, List.getElem?_map, here]
    rfl

/-- An extra key is that of a file in which the rule occurs, so some restriction keeps it. -/
theorem mem_extra_iff_restrict {rule : Rule} {sanctioned : String → Prop}
    (compares : outcome.Compares (rule.OccursUnder scanned) sanctioned) (key : String)
    : key ∈ outcome.extra
      ↔ ∃ file ∈ scanned, key ∈ (outcome.restrict (Path.key file.1)).extra := by
  simp only [RuleReport.mem_extra_restrict]
  constructor
  · intro extra
    obtain ⟨⟨file, member, sameKey, _⟩, _⟩ := (compares.extra key).mp extra
    exact ⟨file, member, extra, sameKey.symm⟩
  · rintro ⟨_, _, extra, _⟩
    exact extra

/-- A missing key is that of a file, so that some restriction keeps it, or a sanctioned key of no
file.
-/
theorem mem_missing_iff_restrict {rule : Rule} {sanctioned : String → Prop}
    (compares : outcome.Compares (rule.OccursUnder scanned) sanctioned) (key : String)
    : key ∈ outcome.missing
      ↔ (∃ file ∈ scanned, key ∈ (outcome.restrict (Path.key file.1)).missing)
        ∨ (sanctioned key ∧ ∀ file ∈ scanned, Path.key file.1 ≠ key) := by
  simp only [RuleReport.mem_missing_restrict]
  constructor
  · intro missing
    by_cases isScanned : ∃ file ∈ scanned, Path.key file.1 = key
    · obtain ⟨file, member, sameKey⟩ := isScanned
      exact .inl ⟨file, member, missing, sameKey.symm⟩
    · refine .inr ⟨((compares.missing key).mp missing).1, fun file member sameKey => ?_⟩
      exact isScanned ⟨file, member, sameKey⟩
  · rintro (⟨_, _, missing, _⟩ | ⟨isSanctioned, unscanned⟩)
    · exact missing
    · refine (compares.missing key).mpr ⟨isSanctioned, ?_⟩
      rintro ⟨file, member, sameKey, _⟩
      exact unscanned file member sameKey

end Union

/-- Runs over single files agree with a run over the tree. For a scanned file that alone has its
key, the run over any of its targets gives the tree's outcomes restricted to that key. If all
scanned files have keys of their own, the tree's extra keys are those that the runs over the
files tell, and its missing keys are those that they tell and the sanctioned keys of no scanned
file. The path under which a file was scanned is one of its targets.
-/
theorem runSingleFile_agrees {ruleset : Ruleset} {files : FileSystem} {order : Walk.Order}
    {root : Bytes} {report : Report} (ran : runTree ruleset files order root = .ok report)
    : ∃ node,
        Walk.start files root = .ok node
        ∧ let scanned := Walk.accepted ruleset.scope.accepts root node
          (∀ file ∈ scanned,
            OnlyUnderKey scanned file
            → ∀ target,
                IsTarget files file target
                → ∃ single,
                    runSingleFile ruleset files target = .ok single
                    ∧ single.rules = report.rules.map (·.restrict (Path.key file.1)))
          ∧ ((∀ file ∈ scanned, OnlyUnderKey scanned file)
            → ∀ targets : Bytes × Content → Bytes,
                (∀ file ∈ scanned, IsTarget files file (targets file))
                → ∀ (position : Nat) (rule : Rule),
                    ruleset.rules[position]? = some rule
                    → ∃ outcome : RuleReport,
                        report.rules[position]? = some outcome
                        ∧ (∀ key,
                            key ∈ outcome.extra
                            ↔ ToldBySome ruleset files targets scanned position (·.extra) key)
                        ∧ ∀ key,
                            key ∈ outcome.missing
                            ↔ ToldBySome ruleset files targets scanned position (·.missing) key
                              ∨ (key ∈ rule.expected
                                ∧ ∀ file ∈ scanned, Path.key file.1 ≠ key))
          ∧ (files.WellFormed → ∀ file ∈ scanned, IsTarget files file file.1) := by
  obtain ⟨node, started, readable, _, _, shown⟩ := runTree_shows ran
  have whole : ∀ file ∈ Walk.accepted ruleset.scope.accepts root node,
      file.2.fault? = none :=
    fun file member => Walk.fault_of_mem_accepted readable member
  refine ⟨node, started, ?_, ?_, ?_⟩
  · intro file member only target isTarget
    exact exists_runSingleFile_restrict shown member (whole file member) only isTarget
  · intro only targets areTargets position rule isRule
    obtain ⟨outcome, here, _, compares⟩ := shown.outcome isRule
    refine ⟨outcome, here, fun key => ?_, fun key => ?_⟩
    · rw [toldBySome_iff shown whole only areTargets here]
      exact mem_extra_iff_restrict compares key
    · rw [toldBySome_iff shown whole only areTargets here]
      exact mem_missing_iff_restrict compares key
  · intro wellFormed file member
    exact ⟨rfl, Walk.contentAt_of_start wellFormed started readable member⟩

/-- One rule for every file, which is sanctioned in a file that does not exist. -/
def sampleRuleset : Ruleset where
  scope := { included := [fun _ => true], excluded := [] }
  rules := [{ source := "a", occursIn := (·.contains 0x61), expected := .ofList ["b"] }]

/-- The directory with two files is one that a system could hold. -/
theorem wellFormed_sampleFiles : sampleFiles.WellFormed := by
  refine Files.everywhere_of_files (by decide) ?_
  exact List.forall_mem_cons.mpr ⟨⟨_, rfl⟩, List.forall_mem_singleton.mpr ⟨_, rfl⟩⟩

/-- A tree with two files shows the rule in both. Runs over one of them, by the path of the walk
and by another spelling of it, show the rule in that one.
-/
theorem runSingleFile_sample
    : ∃ report walked spelled,
        runTree sampleRuleset sampleFiles .listed [Path.dot] = .ok report
        ∧ runSingleFile sampleRuleset sampleFiles [0x2E, 0x2F, 0x66] = .ok walked
        ∧ runSingleFile sampleRuleset sampleFiles [0x66] = .ok spelled
        ∧ report.rules.map (·.extra) = [.ofList ["f", "g"]]
        ∧ walked.rules = report.rules.map (·.restrict "f")
        ∧ spelled.rules = report.rules.map (·.restrict "f")
        ∧ spelled.rules.map (·.extra) = [.ofList ["f"]] := by
  have ran : runTree sampleRuleset sampleFiles .listed [Path.dot]
      = .ok {
          mode := .tree
          rules := [{ pattern := "a", extra := .ofList ["f", "g"], missing := .ofList ["b"] }]
          filesChecked := 2 } :=
    rfl
  obtain ⟨node, started, restricts, _, opens⟩ := runSingleFile_agrees ran
  obtain rfl : sampleFiles.root = node := Except.ok.inj started
  have only : OnlyUnderKey
      (Walk.accepted sampleRuleset.scope.accepts [Path.dot] sampleFiles.root)
      ([0x2E, 0x2F, 0x66], .stream [0x61, 0x0A]) := by
    intro other member sameKey
    rcases List.mem_cons.mp member with isFirst | later
    · exact isFirst
    · cases List.mem_singleton.mp later
      exact absurd sameKey (by decide)
  obtain ⟨walked, ranWalked, walkedRules⟩ :=
    restricts _ List.mem_cons_self only _ (opens wellFormed_sampleFiles _ List.mem_cons_self)
  obtain ⟨spelled, ranSpelled, spelledRules⟩ :=
    restricts _ List.mem_cons_self only [0x66] ⟨rfl, rfl⟩
  exact ⟨_, walked, spelled, ran, ranWalked, ranSpelled, rfl, walkedRules, spelledRules,
    spelledRules ▸ rfl⟩

end Audit

end PatternAudit
