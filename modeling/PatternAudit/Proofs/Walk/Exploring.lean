import PatternAudit.Audit.Basic
import PatternAudit.Proofs.Walk.Scanning
import PatternAudit.Proofs.Walk.Siblings

/-! The order of siblings decides neither whether exploring succeeds nor what it then has seen,
and exploring an unchanged tree again adds no key.
-/

namespace PatternAudit.Observations

/-- Two outcomes of exploring agree if both failed, or both succeeded with equal observations. -/
structure SameOutcome (left right : Observations × Option ReadFailure) : Prop where
  succeeds : left.2 = none ↔ right.2 = none
  observations : left.2 = none → left.1 = right.1

/-- `again` ends as `once` did, adds no key to it, and counts as many files as `once` counted.
-/
structure Repeats (seen : Observations) (once again : Observations × Option ReadFailure)
    : Prop where
  ending : again.2 = once.2
  actual : again.1.actual = once.1.actual
  filesChecked
    : ∃ count,
        once.1.filesChecked = seen.filesChecked + count
        ∧ again.1.filesChecked = once.1.filesChecked + count

/-- Permuted visits have the same outcome, since success asks about each visit on its own and
the events of a success are those of all visits.
-/
theorem sameOutcome_of_perm (ruleset : Ruleset) (seen : Observations)
    {left right : List Walk.Visit} (same : left.Perm right)
    : SameOutcome (seen.matchVisits ruleset left) (seen.matchVisits ruleset right) := by
  have succeeds : (seen.matchVisits ruleset left).2 = none
      ↔ (seen.matchVisits ruleset right).2 = none := by
    simp only [matchVisits_succeeds_iff, same.mem_iff]
  refine { succeeds, observations := fun done => ?_ }
  have toLeft := (gains_of_succeeds done).perm (same.flatMap_right _)
  exact toLeft.unique (gains_of_succeeds (succeeds.mp done))

/-- Outcomes that agree give the same report, or none. -/
theorem SameOutcome.report {left right : Observations × Option ReadFailure}
    (same : SameOutcome left right) (ruleset : Ruleset) (mode : Report.Mode)
    : (Audit.conclude ruleset mode left).toOption
      = (Audit.conclude ruleset mode right).toOption := by
  obtain ⟨seen, ending⟩ := left
  obtain ⟨other, otherEnding⟩ := right
  cases ending with
  | none =>
      obtain rfl : otherEnding = none := same.succeeds.mp rfl
      obtain rfl : seen = other := same.observations rfl
      rfl
  | some failure =>
      cases otherEnding with
      | none => cases same.succeeds.mpr rfl
      | some otherFailure => rfl

/-- Exploring the same visits again repeats the first time, also up to a failure: both times
the same events happen.
-/
theorem repeats_same (ruleset : Ruleset) (seen : Observations) (visits : List Walk.Visit)
    : Repeats seen (seen.matchVisits ruleset visits)
        ((seen.matchVisits ruleset visits).1.matchVisits ruleset visits) := by
  have once := matchVisits_spec ruleset seen visits
  have again := matchVisits_spec ruleset (seen.matchVisits ruleset visits).1 visits
  exact {
    ending := again.2.trans once.2.symm
    actual := once.1.actual_again again.1 fun _ member => member
    filesChecked := ⟨_, once.1.filesChecked, again.1.filesChecked⟩
  }

/-- After a success, exploring again in another order repeats it too. -/
theorem repeats_of_perm {ruleset : Ruleset} {seen : Observations}
    {visits again : List Walk.Visit} (same : again.Perm visits)
    (done : (seen.matchVisits ruleset visits).2 = none)
    : Repeats seen (seen.matchVisits ruleset visits)
        ((seen.matchVisits ruleset visits).1.matchVisits ruleset again) := by
  have once := repeats_same ruleset seen visits
  have other := sameOutcome_of_perm ruleset (seen.matchVisits ruleset visits).1 same.symm
  have finished := once.ending.trans done
  have equal := other.observations finished
  exact {
    ending := (other.succeeds.mp finished).trans done.symm
    actual := equal ▸ once.actual
    filesChecked := equal ▸ once.filesChecked
  }

/-- Visiting order never matters. For any two walks from a root, in whatever orders the siblings
of each directory come, exploring succeeds along both or along neither, success gives equal
observations, and equal reports follow. Exploring the unchanged tree once more repeats the first
time: in the same order always, and after a success in every order. The fixed orders are cases.
-/
theorem explore_sibling_orders (ruleset : Ruleset) (files : Files.FileSystem) (root : Bytes)
    (seen : Observations) {left right : List Walk.Visit}
    (first : Walk.MetFrom files root left) (second : Walk.MetFrom files root right)
    : SameOutcome (seen.matchVisits ruleset left) (seen.matchVisits ruleset right)
      ∧ (Audit.conclude ruleset .tree ((emptyFor ruleset).matchVisits ruleset left)).toOption
        = (Audit.conclude ruleset .tree
            ((emptyFor ruleset).matchVisits ruleset right)).toOption
      ∧ Repeats seen (seen.matchVisits ruleset left)
          ((seen.matchVisits ruleset left).1.matchVisits ruleset left)
      ∧ ((seen.matchVisits ruleset left).2 = none
        → Repeats seen (seen.matchVisits ruleset left)
            ((seen.matchVisits ruleset left).1.matchVisits ruleset right))
      ∧ ∀ order other : Walk.Order,
          SameOutcome (seen.explore ruleset files order root)
            (seen.explore ruleset files other root)
          ∧ (Audit.runTree ruleset files order root).toOption
            = (Audit.runTree ruleset files other root).toOption := by
  have same := first.perm second
  refine ⟨sameOutcome_of_perm ruleset seen same,
    (sameOutcome_of_perm ruleset (emptyFor ruleset) same).report ruleset .tree,
    repeats_same ruleset seen left, repeats_of_perm same.symm, fun order other => ?_⟩
  have fixed := (Walk.metFrom_visitsFrom files order root).perm
    (Walk.metFrom_visitsFrom files other root)
  exact ⟨sameOutcome_of_perm ruleset seen fixed,
    (sameOutcome_of_perm ruleset (emptyFor ruleset) fixed).report ruleset .tree⟩

/-- A directory that lists two files, `g` before `f`. -/
def sampleSiblings : Files.FileSystem where
  root := .directory none
    [([0x67], .file (.stream [0x61])), ([0x66], .file (.stream [0x62, 0x0A, 0x61]))]

/-- A rule for every file in scope. -/
def sampleRule : Ruleset where
  scope := { included := [fun _ => true], excluded := [] }
  rules := [{ source := "a", occursIn := (·.contains 0x61), expected := .ofList ["f"] }]

/-- Two siblings in the listed order and in the other one: both walks succeed and see the same. -/
theorem explore_two_siblings
    : let first := .file [0x2E, 0x2F, 0x67] (.stream [0x61])
      let second := .file [0x2E, 0x2F, 0x66] (.stream [0x62, 0x0A, 0x61])
      Walk.MetFrom sampleSiblings [Path.dot] [first, second]
      ∧ Walk.MetFrom sampleSiblings [Path.dot] [second, first]
      ∧ ((emptyFor sampleRule).matchVisits sampleRule [first, second]).2 = none
      ∧ (emptyFor sampleRule).matchVisits sampleRule [first, second]
        = (emptyFor sampleRule).matchVisits sampleRule [second, first] := by
  intro first second
  have each : Walk.MetEach [Path.dot] [Path.dot]
      [([0x67], .file (.stream [0x61])), ([0x66], .file (.stream [0x62, 0x0A, 0x61]))]
      [[first], [second]] :=
    .cons .file (.cons .file .nil)
  have listed : Walk.MetFrom sampleSiblings [Path.dot] [first, second] :=
    .walked rfl (.listed rfl each (.refl _))
  have swapped : Walk.MetFrom sampleSiblings [Path.dot] [second, first] :=
    .walked rfl (.listed rfl each (.swap _ _ _))
  have same := (explore_sibling_orders sampleRule sampleSiblings [Path.dot]
    (emptyFor sampleRule) listed swapped).1
  exact ⟨listed, swapped, rfl, Prod.ext (same.observations rfl) rfl⟩

end PatternAudit.Observations
