import PatternAudit.Proofs.Walk.Alike
import PatternAudit.Proofs.Walk.Distinguishing
import PatternAudit.Proofs.Walk.Exploring
import PatternAudit.Proofs.Walk.Opening

/-! Audits of trees depend on the content in scope only. Neither what files out of scope hold, nor
where links lead, nor what lies outside the root decides what is seen and reported.
-/

namespace PatternAudit

open Files (Node Content FileSystem)

-----------------------------------------------------------------------------------------
-- Trees that look alike
-----------------------------------------------------------------------------------------

/-- A root leads to directories, in two file systems, that look alike to every walk: the same
entries of the same kinds, the same of them to be read, and files in scope that read alike.
-/
def Walk.RootsAlike (accepts : String → Bool) (files files' : FileSystem) (root : Bytes) : Prop :=
  ∃ hindrance hindrance' entries entries',
    files.node .target root = .ok (.directory hindrance entries)
    ∧ files'.node .target root = .ok (.directory hindrance' entries')
    ∧ AlikeBelow accepts root (.directory hindrance entries) (.directory hindrance' entries')

/-- Scanning cannot tell apart sorted walks from a root that leads to directories that look alike.
-/
theorem Walk.visitsFrom_alike {files files' : FileSystem} (wellFormed : files.WellFormed)
    (wellFormed' : files'.WellFormed) {accepts : String → Bool} {root : Bytes}
    (alike : RootsAlike accepts files files' root) {order : Order} (sorted : order ≠ .listed)
    : ScansAlike accepts (visitsFrom files order root) (visitsFrom files' order root) := by
  obtain ⟨hindrance, hindrance', entries, entries', leads, leads', below⟩ := alike
  have started := start_of_directory leads
  have started' := start_of_directory leads'
  rw [visitsFrom_eq, visitsFrom_eq, started, started']
  exact visits_alike sorted root (possible_of_start wellFormed started).2 _
    (possible_of_start wellFormed' started').2 below

-----------------------------------------------------------------------------------------
-- Audits
-----------------------------------------------------------------------------------------

namespace Audit

/-- Concluding keeps to the observations and to the path of the failure. -/
theorem conclude_alike (ruleset : Ruleset) (mode : Report.Mode)
    {left right : Observations × Option ReadFailure} (same : left.1 = right.1)
    (ending : left.2.map (·.path) = right.2.map (·.path))
    : (conclude ruleset mode left).mapError (·.path)
      = (conclude ruleset mode right).mapError (·.path) := by
  obtain ⟨seen, failure⟩ := left
  obtain ⟨seen', failure'⟩ := right
  obtain rfl : seen = seen' := same
  cases failure with
  | none =>
      obtain rfl : failure' = none := by simpa using ending.symm
      rfl
  | some failure =>
      cases failure' with
      | none => cases ending
      | some failure' => exact congrArg Except.error (Option.some.inj ending)

/-- What becomes of an error does not change which value there is. -/
theorem toOption_mapError {ε δ α : Type} (f : ε → δ) (outcome : Except ε α)
    : (outcome.mapError f).toOption = outcome.toOption := by
  cases outcome <;> rfl

/-- The order of siblings does not decide which report there is. -/
theorem toOption_runTree (ruleset : Ruleset) (files : FileSystem) (order other : Walk.Order)
    (root : Bytes)
    : (runTree ruleset files order root).toOption
      = (runTree ruleset files other root).toOption := by
  have permuted := (Walk.metFrom_visitsFrom files order root).perm
    (Walk.metFrom_visitsFrom files other root)
  have same := Observations.sameOutcome_of_perm ruleset (.emptyFor ruleset) permuted
  exact same.report ruleset .tree

/-- A tree audit depends on the content in scope only. For every ruleset and root, and any two file
systems in which the root leads to directories that look alike, exploring in the same sorted order
from the same observations ends with the same observations, and both fail at the same path or both
succeed; runs then give the same report or fail at the same path. In whatever orders the siblings
come, which report there is does not change. What files out of scope hold, where links below the
root lead, and what lies outside the root make no difference.
-/
theorem runTree_in_scope_only (ruleset : Ruleset) {files files' : FileSystem}
    (wellFormed : files.WellFormed) (wellFormed' : files'.WellFormed) {root : Bytes}
    (alike : Walk.RootsAlike ruleset.scope.accepts files files' root)
    : (∀ order,
        order ≠ .listed
        → (∀ seen : Observations,
            (seen.explore ruleset files order root).1 = (seen.explore ruleset files' order root).1
            ∧ (seen.explore ruleset files order root).2.map (·.path)
              = (seen.explore ruleset files' order root).2.map (·.path))
          ∧ (runTree ruleset files order root).mapError (·.path)
            = (runTree ruleset files' order root).mapError (·.path))
      ∧ ∀ order other,
          (runTree ruleset files order root).toOption
          = (runTree ruleset files' other root).toOption := by
  have explored (order : Walk.Order) (sorted : order ≠ .listed) (seen : Observations) :=
    Observations.matchVisits_alike
      (Walk.visitsFrom_alike wellFormed wellFormed' alike sorted) seen
  have ran (order : Walk.Order) (sorted : order ≠ .listed)
      : (runTree ruleset files order root).mapError (·.path)
        = (runTree ruleset files' order root).mapError (·.path) :=
    let ⟨same, ending⟩ := explored order sorted (.emptyFor ruleset)
    conclude_alike ruleset .tree same ending
  refine ⟨fun order sorted => ⟨explored order sorted, ran order sorted⟩, fun order other => ?_⟩
  -- Listed siblings may come in different orders, so the listings are compared sorted.
  calc (runTree ruleset files order root).toOption
    _ = (runTree ruleset files .ascending root).toOption :=
      toOption_runTree ruleset files order .ascending root
    _ = (runTree ruleset files' .ascending root).toOption := by
      rw [← toOption_mapError (·.path), ran .ascending (by decide), toOption_mapError]
    _ = (runTree ruleset files' other root).toOption :=
      toOption_runTree ruleset files' .ascending other root

/-- The content of a file in scope, which is the same in both sample directories. -/
def keptContent : Content :=
  .stream [0x61, 0x0A]

/-- A directory with the files `f` and `g` and a link to `f`. -/
def originalEntries : List (Bytes × Node) :=
  [([0x66], .file keptContent), ([0x67], .file (.stream [0x61])), ([0x6C], .link [0x66])]

/-- The same names in another order: `g` can no longer be opened, and a device stands for the link.
-/
def alteredEntries : List (Bytes × Node) :=
  [
    ([0x6C], .special (.stream [0x61])),
    ([0x67], .file (.unopenable .permissionDenied)),
    ([0x66], .file keptContent)
  ]

/-- The original directory as `r`. -/
def originalFiles : FileSystem where
  root := .directory none [([0x72], .directory none originalEntries)]

/-- The altered directory as `r`, with a file outside. -/
def alteredFiles : FileSystem where
  root := .directory none
    [([0x6F], .file (.stream [0x61])), ([0x72], .directory none alteredEntries)]

/-- One rule for every file but `r/g`. -/
def confinedRuleset : Ruleset where
  scope := { included := [fun _ => true], excluded := [(· == "r/g")] }
  rules := [{ source := "a", occursIn := (·.contains 0x61), expected := ∅ }]

/-- Both sample directories look alike: what differs is out of scope or passed over. -/
theorem rootsAlike_altered
    : Walk.RootsAlike confinedRuleset.scope.accepts originalFiles alteredFiles [0x72] := by
  refine ⟨none, none, originalEntries, alteredEntries, rfl, rfl, ?_⟩
  refine .of_entries .whole fun name => ?_
  simp only [originalEntries, alteredEntries, List.lookup_cons, List.lookup_nil]
  by_cases isF : name = [0x66]
  · subst isF
    exact .some (.of_leaf (.file fun _ => ⟨rfl, .rfl⟩) rfl rfl)
  by_cases isG : name = [0x67]
  · subst isG
    exact .some (.of_leaf (.file fun inScope => absurd inScope (by decide)) rfl rfl)
  by_cases isL : name = [0x6C]
  · subst isL
    exact .some (.of_leaf (.passedOver trivial trivial) rfl rfl)
  · simp only [beq_eq_false_iff_ne.mpr isF, beq_eq_false_iff_ne.mpr isG,
      beq_eq_false_iff_ne.mpr isL]
    exact .none

/-- A run over the original directory reports `f`, and so does one over the altered directory. -/
theorem runTree_in_scope_only_sample
    : ∃ report,
        runTree confinedRuleset originalFiles .listed [0x72] = .ok report
        ∧ report.rules.map (·.extra) = [.ofList ["r/f"]]
        ∧ (runTree confinedRuleset alteredFiles .descending [0x72]).toOption = some report
        ∧ (runTree confinedRuleset originalFiles .ascending [0x72]).mapError (·.path)
          = (runTree confinedRuleset alteredFiles .ascending [0x72]).mapError (·.path) := by
  have wellFormed : originalFiles.WellFormed := by
    have leaves : ∀ entry ∈ originalEntries, entry.2.isLeaf := by decide
    refine Files.everywhere_of_entries (by decide) (List.forall_mem_singleton.mpr ?_)
    exact Files.everywhere_of_entries (by decide) fun entry isEntry =>
      Files.everywhere_of_leaf (leaves entry isEntry)
  have wellFormed' : alteredFiles.WellFormed := by
    have leaves : ∀ entry ∈ alteredEntries, entry.2.isLeaf := by decide
    refine Files.everywhere_of_entries (by decide)
      (List.forall_mem_cons.mpr ⟨Files.everywhere_of_leaf rfl, List.forall_mem_singleton.mpr ?_⟩)
    exact Files.everywhere_of_entries (by decide) fun entry isEntry =>
      Files.everywhere_of_leaf (leaves entry isEntry)
  obtain ⟨sorted, anyOrder⟩ :=
    runTree_in_scope_only confinedRuleset wellFormed wellFormed' rootsAlike_altered
  obtain ⟨report, ran, extra⟩
      : ∃ report,
          runTree confinedRuleset originalFiles .listed [0x72] = .ok report
          ∧ report.rules.map (·.extra) = [.ofList ["r/f"]] :=
    ⟨_, rfl, rfl⟩
  refine ⟨report, ran, extra, ?_, (sorted .ascending (by decide)).2⟩
  rw [← anyOrder .listed .descending, ran, Except.toOption]

end Audit

end PatternAudit
