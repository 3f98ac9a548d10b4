import PatternAudit.Audit.Basic
import PatternAudit.Proofs.Report.Reconciling
import PatternAudit.Proofs.Rules.Building
import PatternAudit.Proofs.Walk.Below

/-! Runs over a tree. They succeed exactly if everything that matters can be read, and then tell
for every rule in which of the regular files in scope it occurs.
-/

namespace PatternAudit

open Files (Node Content FileSystem)

-----------------------------------------------------------------------------------------
-- Scanning files
-----------------------------------------------------------------------------------------

/-- The rule occurs, under a key, in one of the files. -/
def Rule.OccursUnder (found : List (Bytes × Content)) (rule : Rule) (key : String) : Prop :=
  ∃ file ∈ found,
    Path.key file.1 = key ∧ ∃ line ∈ file.2.lines, rule.occursIn line = true

/-- The events of scanning files under their keys. -/
def Observations.Event.ofFiles (found : List (Bytes × Content)) : List Event :=
  found.flatMap fun file => ofFile (Path.key file.1) file.2

namespace Observations

/-- Scanning files notes the keys of those with a line that the rule occurs in. -/
theorem noted_ofFiles {rules : List Rule} {found : List (Bytes × Content)} {rule : Nat}
    {key : String}
    : Noted rules (Event.ofFiles found) rule key
      ↔ ∃ file ∈ found,
          Path.key file.1 = key
          ∧ ∃ line ∈ file.2.lines, Rule.MatchesAt rules rule line := by
  simp only [Noted, Event.ofFiles, List.mem_flatMap, recorded_not_mem_ofFile, and_false,
    exists_false, false_or, tested_mem_ofFile]
  constructor
  · rintro ⟨line, ⟨file, member, line', sameKey⟩, matched⟩
    exact ⟨file, member, sameKey, line, line', matched⟩
  · rintro ⟨file, member, sameKey, line, line', matched⟩
    exact ⟨line, ⟨file, member, line', sameKey⟩, matched⟩

/-- Scanning files that can all be read completes each of them. -/
theorem count_completed_ofFiles {found : List (Bytes × Content)}
    (whole : ∀ file ∈ found, file.2.fault? = none)
    : (Event.ofFiles found).count .completed = found.length := by
  induction found with
  | nil => rfl
  | cons file found ih =>
      obtain ⟨first, rest⟩ := List.forall_mem_cons.mp whole
      have one : (Event.ofFile (Path.key file.1) file.2).count .completed = 1 := by
        simp [Event.ofFile, Event.ofLines, first, List.count_eq_zero]
      rw [Event.ofFiles, List.flatMap_cons, List.count_append, one, ← Event.ofFiles, ih rest,
        List.length_cons, Nat.add_comm]

/-- From nothing seen, scanning files holds for a rule the keys of those it occurs in. -/
theorem holds_iff_of_gains_ofFiles {ruleset : Ruleset} {found : List (Bytes × Content)}
    {seen : Observations}
    (gains : Gains ruleset.rules (Event.ofFiles found) (emptyFor ruleset) seen) (rule : Nat)
    (key : String)
    : seen.Holds rule key
      ↔ ∃ file ∈ found,
          Path.key file.1 = key
          ∧ ∃ line ∈ file.2.lines, Rule.MatchesAt ruleset.rules rule line := by
  have fresh : ¬(emptyFor ruleset).Holds rule key := not_holds_empty _ rule key
  rw [gains.holds, or_iff_right fresh, noted_ofFiles, and_iff_right_iff_imp]
  rintro ⟨_, _, _, _, _, matched⟩
  simpa [emptyFor, empty] using matched.lt_length

/-- From nothing seen, scanning files that can all be read counts them. -/
theorem filesChecked_of_gains_ofFiles {ruleset : Ruleset} {found : List (Bytes × Content)}
    {seen : Observations}
    (gains : Gains ruleset.rules (Event.ofFiles found) (emptyFor ruleset) seen)
    (whole : ∀ file ∈ found, file.2.fault? = none)
    : seen.filesChecked = found.length := by
  rw [gains.filesChecked, count_completed_ofFiles whole]
  exact Nat.zero_add _

/-- Exploring from a root succeeds exactly if the tree below its start can be read, and then
scans the files in scope. The order of siblings does not matter.
-/
theorem explore_of_start (ruleset : Ruleset) {files : FileSystem} {root : Bytes} {node : Node}
    (started : Walk.start files root = .ok node) (order : Walk.Order) (seen : Observations)
    : ((seen.explore ruleset files order root).2 = none
        ↔ Walk.Readable ruleset.scope.accepts root node)
      ∧ ((seen.explore ruleset files order root).2 = none
        → Gains ruleset.rules
            (Event.ofFiles (Walk.accepted ruleset.scope.accepts root node)) seen
            (seen.explore ruleset files order root).1) := by
  have visits := Walk.visitsFrom_of_start started order
  have same := (Walk.met_visits order root root node).perm
  have succeeds : (seen.explore ruleset files order root).2 = none
      ↔ Walk.Readable ruleset.scope.accepts root node := by
    rw [explore, visits, matchVisits_succeeds_iff,
      ← Walk.succeeds_iff_readable ruleset.scope root root]
    simp only [same.mem_iff]
  refine ⟨succeeds, fun done => ?_⟩
  rw [Event.ofFiles, ← Walk.events_of_readable root (succeeds.mp done)]
  rw [explore, visits] at done ⊢
  exact (gains_of_succeeds done).perm (same.flatMap_right _)

end Observations

-----------------------------------------------------------------------------------------
-- Reports of tree runs
-----------------------------------------------------------------------------------------

namespace Audit

/-- A run concludes with a report exactly if nothing failed. -/
theorem conclude_eq_ok_iff {ruleset : Ruleset} {mode : Report.Mode}
    {outcome : Observations × Option ReadFailure} {report : Report}
    : conclude ruleset mode outcome = .ok report
      ↔ outcome.2 = none ∧ report = .reconcile ruleset outcome.1 mode := by
  obtain ⟨seen, ending⟩ := outcome
  cases ending <;> simp [conclude, eq_comm]

/-- A run concludes with a failure exactly if there was one. -/
theorem conclude_eq_error_iff {ruleset : Ruleset} {mode : Report.Mode}
    {outcome : Observations × Option ReadFailure} {failure : ReadFailure}
    : conclude ruleset mode outcome = .error failure ↔ outcome.2 = some failure := by
  obtain ⟨seen, ending⟩ := outcome
  cases ending <;> simp [conclude]

/-- What scanning files from nothing shows: for every rule, in which of them it occurs. -/
theorem shows_of_gains_ofFiles {ruleset : Ruleset} {found : List (Bytes × Content)}
    {seen : Observations}
    (gains
      : Observations.Gains ruleset.rules (Observations.Event.ofFiles found)
          (.emptyFor ruleset) seen)
    (mode : Report.Mode)
    : Report.Shows (Rule.OccursUnder found) (fun rule key => key ∈ rule.expected) ruleset.rules
        (Report.reconcile ruleset seen mode).rules := by
  refine Report.shows_reconcile (fun position rule isRule key => ?_) mode
  simp [Observations.holds_iff_of_gains_ofFiles gains, Rule.OccursUnder, Rule.MatchesAt, isRule]

/-- A run over a tree that can be read gives a report. -/
theorem exists_runTree {ruleset : Ruleset} {files : FileSystem} {root : Bytes} {node : Node}
    (started : Walk.start files root = .ok node)
    (readable : Walk.Readable ruleset.scope.accepts root node) (order : Walk.Order)
    : ∃ report, runTree ruleset files order root = .ok report := by
  have succeeds := (Observations.explore_of_start ruleset started order (.emptyFor ruleset)).1
  exact ⟨_, conclude_eq_ok_iff.mpr ⟨succeeds.mpr readable, rfl⟩⟩

/-- A run over a tree gives a report only if the tree can be read from a start. The report then
counts the files in scope and shows in which of them the rules occur.
-/
theorem runTree_shows {ruleset : Ruleset} {files : FileSystem} {order : Walk.Order}
    {root : Bytes} {report : Report} (ran : runTree ruleset files order root = .ok report)
    : ∃ node,
        Walk.start files root = .ok node
        ∧ Walk.Readable ruleset.scope.accepts root node
        ∧ report.mode = .tree
        ∧ report.filesChecked = (Walk.accepted ruleset.scope.accepts root node).length
        ∧ Report.Shows (Rule.OccursUnder (Walk.accepted ruleset.scope.accepts root node))
            (fun rule key => key ∈ rule.expected) ruleset.rules report.rules := by
  obtain ⟨done, rfl⟩ := conclude_eq_ok_iff.mp ran
  cases started : Walk.start files root with
  | error fault =>
      simp [Observations.explore, Walk.visitsFrom_eq, started, Observations.matchVisits] at done
  | ok node =>
      obtain ⟨succeeds, scanned⟩ :=
        Observations.explore_of_start ruleset started order (.emptyFor ruleset)
      have readable := succeeds.mp done
      have gains := scanned done
      refine ⟨node, rfl, readable, rfl, ?_, shows_of_gains_ofFiles gains .tree⟩
      exact Observations.filesChecked_of_gains_ofFiles gains
        fun file member => Walk.fault_of_mem_accepted readable member

-----------------------------------------------------------------------------------------
-- From a configuration to its report
-----------------------------------------------------------------------------------------

/-- The pattern of an entry is found under a key: the configuration selects the key, and a
regular file at or below the node has it and a line that the pattern matches.
-/
def FoundUnder (engine : Engine) (config : Configuration) (root : Bytes) (node : Node)
    (entry : RuleEntry) (key : String)
    : Prop :=
  config.selects engine key = true
  ∧ ∃ path bytes,
      (path, .stream bytes) ∈ Walk.files root node
      ∧ Path.key path = key
      ∧ ∃ piece ∈ Lines.pieces bytes,
          compiledMatches (engine.line entry.pattern) (Lines.strip piece) = true

/-- A rule occurs in the files in scope where the pattern of its entry is found. Witness: in a
readable tree the files in scope are read to their end, so their lines are all the stripped
pieces of their contents.
-/
theorem occursUnder_iff_foundUnder {engine : Engine} {config : Configuration} {root : Bytes}
    {node : Node} (readable : Walk.Readable (config.selects engine) root node) {rule : Rule}
    {entry : RuleEntry}
    (occurs : ∀ line, rule.occursIn line = compiledMatches (engine.line entry.pattern) line)
    (key : String)
    : rule.OccursUnder (Walk.accepted (config.selects engine) root node) key
      ↔ FoundUnder engine config root node entry key := by
  simp only [Rule.OccursUnder, Walk.accepted, List.mem_filter, occurs]
  constructor
  · rintro ⟨⟨path, content⟩, ⟨member, selected⟩, rfl, line, isLine, matched⟩
    have whole := (Walk.canRead_of_mem_files readable member selected).2
    cases content with
    | unopenable fault => cases whole
    | stream bytes fault =>
        obtain rfl : fault = none := whole
        obtain ⟨piece, isPiece, rfl⟩ := List.mem_map.mp isLine
        exact ⟨selected, path, bytes, member, rfl, piece, isPiece, matched⟩
  · rintro ⟨selected, path, bytes, member, rfl, piece, isPiece, matched⟩
    exact ⟨(path, .stream bytes), ⟨member, selected⟩, rfl, Lines.strip piece,
      List.mem_map_of_mem isPiece, matched⟩

/-- A full audit, end to end. If every pattern compiles and the root, every directory below it
and every selected file can be read, then the run over the tree gives a report, whatever the
order of siblings: it counts the selected regular files, and its outcomes are, entry by entry,
the two differences between the keys where the pattern is found and the keys of the expected
files.
-/
theorem runTree_end_to_end (engine : Engine) (config : Configuration) (files : FileSystem)
    (order : Walk.Order) (root : Bytes) {node : Node} (compiles : config.Compiles engine)
    (started : Walk.start files root = .ok node)
    (readable : Walk.Readable (config.selects engine) root node)
    : ∃ ruleset report,
        Ruleset.buildWith engine config = .ok ruleset
        ∧ runTree ruleset files order root = .ok report
        ∧ report.mode = .tree
        ∧ report.rules.length = config.rules.length
        ∧ report.filesChecked = (Walk.accepted (config.selects engine) root node).length
        ∧ ∀ (position : Nat) (entry : RuleEntry),
            config.rules[position]? = some entry
            → ∃ outcome : RuleReport,
                report.rules[position]? = some outcome
                ∧ outcome.pattern = entry.pattern
                ∧ outcome.Compares (FoundUnder engine config root node entry)
                    (· ∈ entry.expected.map Path.textKey) := by
  obtain ⟨ruleset, built⟩ := Ruleset.exists_buildWith compiles
  have accepts : ruleset.scope.accepts = config.selects engine :=
    funext (Ruleset.accepts_of_buildWith built)
  obtain ⟨report, ran⟩ := exists_runTree started (accepts ▸ readable) order
  obtain ⟨node', started', _, mode, count, outcomes⟩ := runTree_shows ran
  obtain rfl : node' = node := Except.ok.inj (started'.symm.trans started)
  rw [accepts] at count outcomes
  refine ⟨ruleset, report, built, ran, mode, ?_, count, fun position entry found => ?_⟩
  · rw [← outcomes.length_eq, Ruleset.length_rules_of_buildWith built]
  · obtain ⟨rule, isRule, source, occurs, expected⟩ := Ruleset.rule_of_buildWith built found
    obtain ⟨outcome, here, pattern, compares⟩ := outcomes.outcome isRule
    exact ⟨outcome, here, pattern.trans source,
      compares.congr (occursUnder_iff_foundUnder readable occurs) expected⟩

/-- A directory with two files, `f` and `g`, that hold the same line. -/
def sampleFiles : FileSystem where
  root := .directory none
    [([0x66], .file (.stream [0x61, 0x0A])), ([0x67], .file (.stream [0x61, 0x0A]))]

/-- One rule, which is sanctioned in a file that does not exist; `g` is out of scope. -/
def sampleConfiguration : Configuration where
  included := [""]
  excluded := ["g"]
  rules := [{ pattern := "a", expected := ["./b"] }]

/-- An audit of two files, one of them in scope, finds the rule in it and misses it where it is
sanctioned.
-/
theorem runTree_sample
    : ∃ ruleset report,
        Ruleset.buildWith .standard sampleConfiguration = .ok ruleset
        ∧ runTree ruleset sampleFiles .descending [Path.dot] = .ok report
        ∧ report.filesChecked = 1
        ∧ ∃ outcome : RuleReport,
            report.rules[0]? = some outcome
            ∧ "f" ∈ outcome.extra
            ∧ "b" ∈ outcome.missing := by
  have compiles : sampleConfiguration.Compiles .standard := by
    constructor <;> exact List.forall_mem_singleton.mpr ⟨_, rfl⟩
  have readable : Walk.Readable (sampleConfiguration.selects .standard) [Path.dot]
      sampleFiles.root := by
    refine List.forall_mem_cons.mpr ⟨⟨rfl, rfl⟩, ?_⟩
    refine List.forall_mem_cons.mpr ⟨fun _ => ⟨rfl, rfl⟩, ?_⟩
    exact List.forall_mem_cons.mpr ⟨fun _ => ⟨rfl, rfl⟩, List.forall_mem_nil _⟩
  obtain ⟨ruleset, report, built, ran, _, _, count, outcomes⟩ :=
    runTree_end_to_end .standard sampleConfiguration sampleFiles .descending [Path.dot]
      compiles rfl readable
  obtain ⟨outcome, here, _, compares⟩ := outcomes 0 _ rfl
  refine ⟨ruleset, report, built, ran, count, outcome, here, ?_, ?_⟩
  · refine (compares.extra "f").mpr ⟨⟨rfl, [0x2E, 0x2F, 0x66], [0x61, 0x0A], ?_⟩, by decide⟩
    exact ⟨List.mem_cons_self, rfl, [0x61, 0x0A], List.mem_singleton_self _, rfl⟩
  · refine (compares.missing "b").mpr ⟨by decide, ?_⟩
    rintro ⟨_, path, bytes, member, key, _⟩
    rcases List.mem_cons.mp member with isFirst | later
    · cases isFirst
      exact absurd key (by decide)
    · cases List.mem_singleton.mp later
      exact absurd key (by decide)

end Audit

end PatternAudit
