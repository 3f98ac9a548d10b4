import PatternAudit.Proofs.Observations.Events
import PatternAudit.Walk.Basic

/-! What reading a file and exploring a list of visits do to observations, as events. A walk goes
as far as the first visit that fails, and the lines read from a failing file still count.
-/

namespace PatternAudit

/-- The failure that opening and reading a file ends in, if there is one. -/
def Files.Content.fault? : Files.Content → Option Files.Fault
  | unopenable fault => some fault
  | stream _ fault => fault

/-- The lines of a file that are read before reading ends or fails. -/
def Files.Content.lines : Files.Content → List Bytes
  | unopenable _ => []
  | stream bytes fault => (Lines.delivered fault.isSome bytes).map Lines.strip

/-- The lines that a reader gives before it ends or fails. -/
def Observations.Event.ofReader (key : String) (reader : Reader Files.Fault) : List Event :=
  ofLines key
    ((Lines.delivered reader.fault.isSome reader.chunks.flatten).map Lines.strip)

/-- The lines that are read from a file, and its completion if reading succeeds. -/
def Observations.Event.ofFile (key : String) (content : Files.Content) : List Event :=
  ofLines key content.lines ++ if content.fault?.isSome then [] else [.completed]

/-- Reading from a reader only tests lines. -/
theorem Observations.recorded_not_mem_ofReader {key : String} {reader : Reader Files.Fault}
    {rule : Nat} {name : String}
    : .recorded rule name ∉ Event.ofReader key reader := by
  simp [Event.ofReader, Event.ofLines]

/-- Reading a file only tests lines and completes it. -/
theorem Observations.recorded_not_mem_ofFile {key : String} {content : Files.Content}
    {rule : Nat} {name : String}
    : .recorded rule name ∉ Event.ofFile key content := by
  cases failed : content.fault? <;> simp [Event.ofFile, Event.ofLines, failed]

/-- The lines that reading a file tests are its own, under its key. -/
theorem Observations.tested_mem_ofFile {key other : String} {content : Files.Content}
    {line : Bytes}
    : .tested other line ∈ Event.ofFile key content ↔ line ∈ content.lines ∧ key = other := by
  cases failed : content.fault? <;> simp [Event.ofFile, Event.ofLines, failed]

namespace Walk

/-- The failure of a visit, if it is one: a path that cannot be walked, or a file in scope that
cannot be read.
-/
def Visit.failure? (scope : Scope) : Visit → Option ReadFailure
  | .failed failure => some failure
  | .file path content =>
    if scope.accepts (Path.key path) then content.fault?.map fun fault => { path, fault }
    else none

/-- What scanning does at a visit. -/
def Visit.events (scope : Scope) : Visit → List Observations.Event
  | .failed _ => []
  | .file path content =>
    if scope.accepts (Path.key path) then Observations.Event.ofFile (Path.key path) content
    else []

/-- The visits up to and including the first that fails. -/
def upToFailure (scope : Scope) (visits : List Visit) : List Visit :=
  visits.take (visits.findIdx (fun visit => (visit.failure? scope).isSome) + 1)

/-- What exploring does, up to the first failure. -/
def events (scope : Scope) (visits : List Visit) : List Observations.Event :=
  (upToFailure scope visits).flatMap (Visit.events scope)

/-- Exploring stops at a visit that fails, and goes on otherwise. -/
theorem upToFailure_cons (scope : Scope) (visit : Visit) (visits : List Visit)
    : upToFailure scope (visit :: visits)
      = visit
        :: if (visit.failure? scope).isSome then [] else upToFailure scope visits := by
  by_cases failed : (visit.failure? scope).isSome = true <;>
    simp [upToFailure, List.findIdx_cons, failed]

/-- Exploring goes past a visit unless it fails. -/
theorem events_cons (scope : Scope) (visit : Visit) (visits : List Visit)
    : events scope (visit :: visits)
      = visit.events scope
        ++ if (visit.failure? scope).isSome then [] else events scope visits := by
  rw [events, upToFailure_cons, List.flatMap_cons]
  split <;> rfl

/-- Scanning only tests lines and completes files; keys are noted by nothing but noting. -/
theorem recorded_not_mem_events {scope : Scope} {visits : List Visit} {rule : Nat}
    {key : String}
    : .recorded rule key ∉ events scope visits := by
  simp only [events, List.mem_flatMap, not_exists, not_and]
  intro visit _ member
  cases visit with
  | failed failure => simp [Visit.events] at member
  | file path content =>
      simp only [Visit.events] at member
      split at member
      · exact Observations.recorded_not_mem_ofFile member
      · simp at member

/-- After visits that do not fail, the rest is reached. -/
theorem events_append {scope : Scope} {first : List Visit}
    (succeeds : ∀ visit ∈ first, visit.failure? scope = none) (rest : List Visit)
    : events scope (first ++ rest)
      = first.flatMap (Visit.events scope) ++ events scope rest := by
  induction first with
  | nil => rfl
  | cons visit first ih =>
      obtain ⟨hVisit, hVisits⟩ := List.forall_mem_cons.mp succeeds
      simp [events_cons, hVisit, ih hVisits]

/-- Where no visit fails, every visit is reached. -/
theorem events_of_succeeds {scope : Scope} {visits : List Visit}
    (succeeds : ∀ visit ∈ visits, visit.failure? scope = none)
    : events scope visits = visits.flatMap (Visit.events scope) := by
  have nothing : events scope [] = [] := rfl
  have reached := events_append succeeds []
  rwa [nothing, List.append_nil, List.append_nil] at reached

end Walk

namespace Observations

/-- Reading from a reader gains the lines that it delivers. -/
theorem gains_matchReader (rules : List Rule) (seen : Observations) (key : String)
    (reader : Reader Files.Fault)
    : Gains rules (Event.ofReader key reader) seen
        (seen.matchReader rules key reader).1 := by
  rw [matchReader, Reader.lines_eq]
  exact gains_matchLines rules seen key _

/-- Completing a file counts it and notes no key. -/
theorem gains_completed (rules : List Rule) (seen : Observations)
    : Gains rules [.completed] seen { seen with filesChecked := seen.filesChecked + 1 } where
  size := rfl
  holds := by simp [Noted, Holds]
  filesChecked := by simp

/-- Reading a file gains its lines, and its completion if reading succeeds. -/
theorem gains_matchContent (rules : List Rule) (seen : Observations) (path : Bytes)
    (key : String) (content : Files.Content)
    : Gains rules (Event.ofFile key content) seen
        (seen.matchContent rules path key content).1 := by
  cases content with
  | unopenable fault => exact .refl rules seen
  | stream bytes fault =>
      have read := gains_matchReader rules seen key { chunks := [bytes], fault }
      simp only [Event.ofReader, List.flatten_cons, List.flatten_nil, List.append_nil] at read
      cases fault with
      | none => exact read.trans (gains_completed rules _)
      | some fault =>
          have events : Event.ofFile key (.stream bytes (some fault))
              = Event.ofLines key ((Lines.delivered true bytes).map Lines.strip) :=
            List.append_nil _
          rw [events]
          exact read

/-- Reading a file fails as its content does, with the path that was read. -/
theorem matchContent_failure (rules : List Rule) (seen : Observations) (path : Bytes)
    (key : String) (content : Files.Content)
    : (seen.matchContent rules path key content).2
      = content.fault?.map fun fault => { path, fault } := by
  cases content with
  | unopenable fault => rfl
  | stream bytes fault => cases fault <;> rfl

/-- A file counts as completed exactly if reading it returns no failure. -/
theorem count_completed_ofFile (rules : List Rule) (seen : Observations) (path : Bytes)
    (key : String) (content : Files.Content)
    : (Event.ofFile key content).count .completed
      = if (seen.matchContent rules path key content).2 = none then 1 else 0 := by
  rw [matchContent_failure]
  cases failed : content.fault? <;>
    simp [Event.ofFile, Event.ofLines, failed, List.count_eq_zero]

/-- One step of exploring: what the visit does, and the rest only if it does not fail. -/
theorem matchVisits_cons (ruleset : Ruleset) (seen : Observations) (visit : Walk.Visit)
    (visits : List Walk.Visit)
    : ∃ next,
        Gains ruleset.rules (visit.events ruleset.scope) seen next
        ∧ seen.matchVisits ruleset (visit :: visits)
          = match visit.failure? ruleset.scope with
            | some failure => (next, some failure)
            | none => next.matchVisits ruleset visits := by
  cases visit with
  | failed failure => exact ⟨seen, .refl _ _, rfl⟩
  | file path content =>
      by_cases accepted : ruleset.scope.accepts (Path.key path) = true
      · refine ⟨(seen.matchContent ruleset.rules path (Path.key path) content).1, ?_, ?_⟩
        · simpa [Walk.Visit.events, accepted]
            using gains_matchContent ruleset.rules seen path (Path.key path) content
        · have failure := matchContent_failure ruleset.rules seen path (Path.key path) content
          simp only [matchVisits, accepted, if_true, Walk.Visit.failure?, ← failure]
          rcases seen.matchContent ruleset.rules path (Path.key path) content with ⟨next, _ | _⟩
            <;> rfl
      · refine ⟨seen, ?_, ?_⟩
        · simpa [Walk.Visit.events, accepted] using Gains.refl ruleset.rules seen
        · simp [matchVisits, accepted, Walk.Visit.failure?]

/-- Exploring gains the events of the visits up to the first failure, and ends in that failure.
Witness: induction on the visits by the step above.
-/
theorem matchVisits_spec (ruleset : Ruleset) (seen : Observations) (visits : List Walk.Visit)
    : Gains ruleset.rules (Walk.events ruleset.scope visits) seen
        (seen.matchVisits ruleset visits).1
      ∧ (seen.matchVisits ruleset visits).2
        = visits.findSome? (Walk.Visit.failure? ruleset.scope) := by
  induction visits generalizing seen with
  | nil => exact ⟨.refl _ _, rfl⟩
  | cons visit visits ih =>
      obtain ⟨next, gains, step⟩ := matchVisits_cons ruleset seen visit visits
      rw [step, Walk.events_cons, List.findSome?_cons]
      cases failed : visit.failure? ruleset.scope with
      | some failure => simpa using gains
      | none => simpa using ⟨gains.trans (ih next).1, (ih next).2⟩

/-- Exploring succeeds exactly if no visit fails. -/
theorem matchVisits_succeeds_iff {ruleset : Ruleset} {seen : Observations}
    {visits : List Walk.Visit}
    : (seen.matchVisits ruleset visits).2 = none
      ↔ ∀ visit ∈ visits, visit.failure? ruleset.scope = none := by
  rw [(matchVisits_spec ruleset seen visits).2, List.findSome?_eq_none_iff]

/-- A success gains the events of all visits. -/
theorem gains_of_succeeds {ruleset : Ruleset} {seen : Observations} {visits : List Walk.Visit}
    (succeeds : (seen.matchVisits ruleset visits).2 = none)
    : Gains ruleset.rules (visits.flatMap (Walk.Visit.events ruleset.scope)) seen
        (seen.matchVisits ruleset visits).1 := by
  rw [← Walk.events_of_succeeds (matchVisits_succeeds_iff.mp succeeds)]
  exact (matchVisits_spec ruleset seen visits).1

end Observations

end PatternAudit
