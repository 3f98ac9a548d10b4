import PatternAudit.Proofs.Audit.SingleFile

/-! Runs of either kind, seen alike. A plan scans some files, a run of it succeeds exactly if what
it needs can be read, and its report compares where the rules occur in those files with where
they are sanctioned, as far as the plan is about that.
-/

namespace PatternAudit.Audit

open Files (Content FileSystem)

/-- The keys that a plan is about: all, or the one of its target. -/
def Plan.IsAbout : Plan → String → Prop
  | .tree _, _ => True
  | .singleFile target, key => key = Path.key target

/-- A plan scans these files, and everything that it needs can be read: its root and all that
matters below, or its target.
-/
def Plan.Scans (accepts : String → Bool) (files : FileSystem)
    : Plan → List (Bytes × Content) → Prop
  | .tree root, found =>
    ∃ node,
      Walk.start files root = .ok node
      ∧ Walk.Readable accepts root node
      ∧ found = Walk.accepted accepts root node
  | .singleFile target, found =>
    (files.contentAt target).fault? = none ∧ found = [(target, files.contentAt target)]

/-- The mode of a plan's reports. -/
def Plan.mode : Plan → Report.Mode
  | .tree _ => .tree
  | .singleFile _ => .singleFile

/-- A report on files, for a plan: it has the mode of the plan, counts the files, and compares in
which of them the rules occur with where they are sanctioned.
-/
structure Plan.Reports (plan : Plan) (ruleset : Ruleset) (found : List (Bytes × Content))
    (report : Report)
    : Prop where
  mode : report.mode = plan.mode
  filesChecked : report.filesChecked = found.length
  rules
    : Report.Shows (Rule.OccursUnder found)
        (fun rule key => key ∈ rule.expected ∧ plan.IsAbout key) ruleset.rules report.rules

section Runs

variable {accepts : String → Bool} {files : FileSystem} {plan : Plan}

/-- A plan scans the same files whenever it scans any. -/
theorem Plan.Scans.unique {left right : List (Bytes × Content)}
    (first : plan.Scans accepts files left) (second : plan.Scans accepts files right)
    : left = right := by
  cases plan with
  | tree root =>
      obtain ⟨node, started, _, rfl⟩ := first
      obtain ⟨node', started', _, rfl⟩ := second
      obtain rfl : node = node' := Except.ok.inj (started.symm.trans started')
      rfl
  | singleFile target => exact first.2.trans second.2.symm

/-- The scanned files are among those that the plan is about. -/
theorem Plan.Scans.isAbout {found : List (Bytes × Content)}
    (scans : plan.Scans accepts files found)
    : ∀ file ∈ found, plan.IsAbout (Path.key file.1) := by
  cases plan with
  | tree root => exact fun _ _ => trivial
  | singleFile target =>
      obtain ⟨_, rfl⟩ := scans
      exact List.forall_mem_singleton.mpr rfl

variable {ruleset : Ruleset}

/-- A plan that scans files is carried out. -/
theorem exists_run {found : List (Bytes × Content)}
    (scans : plan.Scans ruleset.scope.accepts files found) (order : Walk.Order)
    : ∃ report, run ruleset files order plan = .ok report := by
  cases plan with
  | tree root =>
      obtain ⟨node, started, readable, _⟩ := scans
      exact exists_runTree started readable order
  | singleFile target =>
      obtain ⟨report, ran, _⟩ := runSingleFile_shows ruleset scans.1
      exact ⟨report, ran⟩

/-- A run over one file gives a report only if the file can be read to its end. -/
theorem fault_of_runSingleFile {target : Bytes} {report : Report}
    (ran : runSingleFile ruleset files target = .ok report)
    : (files.contentAt target).fault? = none := by
  obtain ⟨done, _⟩ := conclude_eq_ok_iff.mp ran
  rw [Observations.matchFile, Observations.matchContent_failure, Option.map_eq_none_iff] at done
  exact done

/-- A report counts the files that its plan scans and shows in which of them the rules occur. -/
theorem run_shows {order : Walk.Order} {report : Report}
    (ran : run ruleset files order plan = .ok report)
    : ∃ found,
        plan.Scans ruleset.scope.accepts files found
        ∧ report.filesChecked = found.length
        ∧ Report.Shows (Rule.OccursUnder found)
            (fun rule key => key ∈ rule.expected ∧ plan.IsAbout key) ruleset.rules
            report.rules := by
  cases plan with
  | tree root =>
      obtain ⟨node, started, readable, _, count, shown⟩ := runTree_shows ran
      refine ⟨_, ⟨node, started, readable, rfl⟩, count, ?_⟩
      simpa only [Plan.IsAbout, and_true] using shown
  | singleFile target =>
      have whole := fault_of_runSingleFile ran
      obtain ⟨report', ran', _, count, shown⟩ := runSingleFile_shows ruleset whole
      obtain rfl : report' = report := Except.ok.inj (ran'.symm.trans ran)
      exact ⟨_, ⟨whole, rfl⟩, count, shown⟩

/-- The failure that carrying out a plan meets first, if it meets one. -/
def Plan.failure? (scope : Scope) (files : FileSystem) (order : Walk.Order)
    : Plan → Option ReadFailure
  | .tree root => (Walk.visitsFrom files order root).findSome? (Walk.Visit.failure? scope)
  | .singleFile target =>
    (files.contentAt target).fault?.map fun fault => { path := target, fault }

/-- A run fails exactly as its plan does, in which only the scope of the rules has a part. -/
theorem run_eq_error_iff {order : Walk.Order} {failure : ReadFailure}
    : run ruleset files order plan = .error failure
      ↔ plan.failure? ruleset.scope files order = some failure := by
  cases plan with
  | tree root =>
      rw [run, runTree, conclude_eq_error_iff, Observations.explore,
        (Observations.matchVisits_spec _ _ _).2, Plan.failure?]
  | singleFile target =>
      rw [run, runSingleFile, conclude_eq_error_iff, Observations.matchFile,
        Observations.matchContent_failure, Plan.failure?]

/-- A report has the mode of its plan. -/
theorem mode_of_run {order : Walk.Order} {report : Report}
    (ran : run ruleset files order plan = .ok report)
    : report.mode = plan.mode := by
  cases plan with
  | tree root =>
      obtain ⟨_, rfl⟩ := conclude_eq_ok_iff.mp ran
      rfl
  | singleFile target =>
      obtain ⟨_, rfl⟩ := conclude_eq_ok_iff.mp ran
      rfl

/-- A run gives the report on the files that its plan scans. -/
theorem reports_of_run {found : List (Bytes × Content)} {order : Walk.Order} {report : Report}
    (scans : plan.Scans ruleset.scope.accepts files found)
    (ran : run ruleset files order plan = .ok report)
    : plan.Reports ruleset found report := by
  obtain ⟨found', scans', count, shown⟩ := run_shows ran
  obtain rfl := scans.unique scans'
  exact ⟨mode_of_run ran, count, shown⟩

/-- A plan is carried out exactly if it scans files, which asks about nothing but the scope of the
rules.
-/
theorem exists_run_iff {order : Walk.Order}
    : (∃ report, run ruleset files order plan = .ok report)
      ↔ ∃ found, plan.Scans ruleset.scope.accepts files found := by
  constructor
  · rintro ⟨report, ran⟩
    obtain ⟨found, scans, _⟩ := run_shows ran
    exact ⟨found, scans⟩
  · rintro ⟨found, scans⟩
    exact exists_run scans order

end Runs

end PatternAudit.Audit
