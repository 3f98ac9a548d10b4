import Mathlib.Data.List.Induction
import PatternAudit.Proofs.Walk.Scanning

/-! Sessions: any operations, one after the other, on one value of observations. What the value
holds is told by the events since it was last emptied, whatever was narrowed in between.
-/

namespace PatternAudit

/-- An operation of a session. Files may have changed since the operation before. -/
inductive Operation where
  | record (rule : Nat) (key : String)
  | matchLine (key : String) (line : Bytes)
  | matchReader (key : String) (reader : Reader Files.Fault)
  | matchFile (files : Files.FileSystem) (path : Bytes) (key : String)
  | explore (files : Files.FileSystem) (order : Walk.Order) (root : Bytes)
  /-- The observations are replaced by fresh ones. -/
  | reset
  /-- The expectations of the rules are narrowed to a target. -/
  | narrow (target : String)

/-- The rules that a session works with, and what it has seen. -/
structure Session where
  ruleset : Ruleset
  seen : Observations

namespace Operation

/-- The operation empties the observations. -/
def isReset : Operation → Bool
  | reset => true
  | _ => false

/-- What an operation does to observations: the keys it notes, the lines it reads before it ends
or fails, and the files it reads to their end.
-/
def events (scope : Scope) : Operation → List Observations.Event
  | record rule key => [.recorded rule key]
  | matchLine key line => [.tested key line]
  | matchReader key reader => Observations.Event.ofReader key reader
  | matchFile files path key => Observations.Event.ofFile key (files.contentAt path)
  | explore files order root => Walk.events scope (Walk.visitsFrom files order root)
  | reset => []
  | narrow _ => []

end Operation

namespace Session

/-- A session that begins with nothing seen. -/
def start (ruleset : Ruleset) : Session where
  ruleset := ruleset
  seen := .emptyFor ruleset

/-- Carries out one operation. A failing operation leaves what it saw before it failed. -/
def step (session : Session) : Operation → Session
  | .record rule key => { session with seen := session.seen.record rule key }
  | .matchLine key line =>
    { session with seen := session.seen.matchLine session.ruleset.rules key line }
  | .matchReader key reader =>
    { session with seen := (session.seen.matchReader session.ruleset.rules key reader).1 }
  | .matchFile files path key =>
    { session with seen := (session.seen.matchFile session.ruleset.rules files path key).1 }
  | .explore files order root =>
    { session with seen := (session.seen.explore session.ruleset files order root).1 }
  | .reset => { session with seen := .emptyFor session.ruleset }
  | .narrow target => { session with ruleset := session.ruleset.narrow target }

/-- Carries out operations in order. -/
def run (session : Session) (operations : List Operation) : Session :=
  operations.foldl step session

/-- The operations after the last reset, or all if there is none. -/
def sinceReset (operations : List Operation) : List Operation :=
  (operations.reverse.takeWhile (!·.isReset)).reverse

/-- The session still scans as the rules say; only their expectations may differ. -/
structure ScansAs (ruleset : Ruleset) (session : Session) : Prop where
  scope : session.ruleset.scope = ruleset.scope
  tests : session.ruleset.rules.map (·.occursIn) = ruleset.rules.map (·.occursIn)

/-- Where rules occur depends on their tests only. -/
theorem matchesAt_iff {rules : List Rule} {position : Nat} {line : Bytes}
    : Rule.MatchesAt rules position line
      ↔ ∃ test, (rules.map (·.occursIn))[position]? = some test ∧ test line = true := by
  simp [Rule.MatchesAt]

/-- Gains depend on the tests of the rules only. -/
theorem gains_of_tests_eq {rules others : List Rule} {events : List Observations.Event}
    {before after : Observations} (same : rules.map (·.occursIn) = others.map (·.occursIn))
    (gains : Observations.Gains rules events before after)
    : Observations.Gains others events before after where
  size := gains.size
  holds := by
    intro rule key
    rw [gains.holds]
    simp only [Observations.Noted, matchesAt_iff, same]
  filesChecked := gains.filesChecked

/-- No operation changes how the session scans: narrowing replaces expectations only. -/
theorem ScansAs.step {ruleset : Ruleset} {session : Session} (scans : ScansAs ruleset session)
    (operation : Operation)
    : ScansAs ruleset (session.step operation) := by
  cases operation with
  | narrow target =>
      refine { scope := scans.scope, tests := ?_ }
      simpa [Session.step, Ruleset.narrow, Function.comp_def] using scans.tests
  | record | matchLine | matchReader | matchFile | explore | reset =>
      exact { scope := scans.scope, tests := scans.tests }

/-- A step that does not empty the observations gains its own events. -/
theorem ScansAs.gains_step {ruleset : Ruleset} {session : Session}
    (scans : ScansAs ruleset session) {operation : Operation}
    (keeps : operation.isReset = false)
    : Observations.Gains ruleset.rules (operation.events ruleset.scope) session.seen
        (session.step operation).seen := by
  refine gains_of_tests_eq scans.tests ?_
  rw [← scans.scope]
  cases operation with
  | record rule key => exact Observations.gains_record _ _ rule key
  | matchLine key line => exact Observations.gains_matchLine _ _ key line
  | matchReader key reader => exact Observations.gains_matchReader _ _ key reader
  | matchFile files path key => exact Observations.gains_matchContent _ _ path key _
  | explore files order root => exact (Observations.matchVisits_spec _ _ _).1
  | reset => cases keeps
  | narrow target => exact .refl _ _

/-- A step that empties the observations leaves as many sets as there are rules. -/
theorem ScansAs.seen_reset {ruleset : Ruleset} {session : Session}
    (scans : ScansAs ruleset session) {operation : Operation}
    (resets : operation.isReset = true)
    : (session.step operation).seen = .emptyFor ruleset := by
  have size := congrArg List.length scans.tests
  simp only [List.length_map] at size
  cases operation with
  | reset => simp [Session.step, Observations.emptyFor, size]
  | record | matchLine | matchReader | matchFile | explore | narrow => cases resets

/-- Along operations without reset, a session scans as before and gains their events.
Witness: induction on the operations by the two step lemmas.
-/
theorem ScansAs.run {ruleset : Ruleset} {session : Session} (scans : ScansAs ruleset session)
    {operations : List Operation}
    (keeps : ∀ operation ∈ operations, operation.isReset = false)
    : Observations.Gains ruleset.rules
        (operations.flatMap (Operation.events ruleset.scope)) session.seen
        (session.run operations).seen := by
  induction operations generalizing session with
  | nil => exact .refl _ _
  | cons operation operations ih =>
      obtain ⟨first, rest⟩ := List.forall_mem_cons.mp keeps
      exact (scans.gains_step first).trans (ih (scans.step operation) rest)

/-- A session never changes how it scans, by induction on its operations. -/
theorem scansAs_run (ruleset : Ruleset) (operations : List Operation)
    : ScansAs ruleset ((start ruleset).run operations) := by
  induction operations using List.reverseRecOn with
  | nil => exact { scope := rfl, tests := rfl }
  | append_singleton operations operation ih =>
      rw [run, List.foldl_append]
      exact ih.step operation

/-- One more operation starts the recent ones anew or is the last of them. -/
theorem sinceReset_concat (operations : List Operation) (operation : Operation)
    : sinceReset (operations ++ [operation])
      = if operation.isReset then [] else sinceReset operations ++ [operation] := by
  cases resets : operation.isReset <;> simp [sinceReset, resets]

/-- A whole session has gained, from nothing, exactly the events since its last reset.
Witness: induction on the operations from the last one back; a reset begins again from nothing.
-/
theorem gains_run (ruleset : Ruleset) (operations : List Operation)
    : Observations.Gains ruleset.rules
        ((sinceReset operations).flatMap (Operation.events ruleset.scope))
        (.emptyFor ruleset) ((start ruleset).run operations).seen := by
  induction operations using List.reverseRecOn with
  | nil => exact .refl _ _
  | append_singleton operations operation ih =>
      have scans := scansAs_run ruleset operations
      have last : (start ruleset).run (operations ++ [operation])
          = ((start ruleset).run operations).step operation := by
        simp [run]
      rw [last, sinceReset_concat]
      cases resets : operation.isReset with
      | true =>
          rw [scans.seen_reset resets]
          exact .refl _ _
      | false => simpa using ih.trans (scans.gains_step resets)

/-- Keys are noted by noting only, whatever else an operation does. -/
theorem recorded_mem_events {scope : Scope} {operations : List Operation} {rule : Nat}
    {key : String}
    : .recorded rule key ∈ operations.flatMap (Operation.events scope)
      ↔ .record rule key ∈ operations := by
  have single (operation : Operation)
      : .recorded rule key ∈ operation.events scope ↔ operation = .record rule key := by
    cases operation with
    | record | matchLine | reset | narrow => simp [Operation.events, eq_comm]
    | matchReader => simp [Operation.events, Observations.recorded_not_mem_ofReader]
    | matchFile => simp [Operation.events, Observations.recorded_not_mem_ofFile]
    | explore => simp [Operation.events, Walk.recorded_not_mem_events]
  simp [single]

/-- A session keeps one set for each rule. -/
theorem length_actual_run (ruleset : Ruleset) (operations : List Operation)
    : ((start ruleset).run operations).seen.actual.length = ruleset.rules.length := by
  simpa [Observations.emptyFor, Observations.empty] using (gains_run ruleset operations).size

/-- What a session holds was noted, or stood over a line that the rule occurs in, since the last
reset.
-/
theorem holds_run_iff (ruleset : Ruleset) (operations : List Operation) (rule : Nat)
    (key : String)
    : ((start ruleset).run operations).seen.Holds rule key
      ↔ (rule < ruleset.rules.length ∧ .record rule key ∈ sinceReset operations)
        ∨ ∃ line,
            .tested key line
              ∈ (sinceReset operations).flatMap (Operation.events ruleset.scope)
            ∧ Rule.MatchesAt ruleset.rules rule line := by
  have gains := gains_run ruleset operations
  have size := length_actual_run ruleset operations
  rw [gains.holds, ← gains.size, size, Observations.Noted, recorded_mem_events]
  constructor
  · rintro (held | ⟨hRule, recorded | tested⟩)
    · exact absurd held (Observations.not_holds_empty _ rule key)
    · exact Or.inl ⟨hRule, recorded⟩
    · exact Or.inr tested
  · rintro (⟨hRule, recorded⟩ | ⟨line, tested, matched⟩)
    · exact Or.inr ⟨hRule, Or.inl recorded⟩
    · exact Or.inr ⟨matched.lt_length, Or.inr ⟨line, tested, matched⟩⟩

/-- What a session has seen. After any operations there is one set without repetition for each
rule, the count is that of the files completed since the last reset, and a rule's set has the
keys that were noted for it or stood over a line it occurs in since then. A position without rule
changes nothing, and until the next reset no key is lost and the count does not sink. A file
counts as completed exactly if reading it returns no failure.
-/
theorem session_observations (ruleset : Ruleset) (operations : List Operation)
    : let session := (start ruleset).run operations
      let events := (sinceReset operations).flatMap (Operation.events ruleset.scope)
      session.seen.actual.length = ruleset.rules.length
      ∧ (∀ keys ∈ session.seen.actual, keys.toList.Nodup)
      ∧ session.seen.filesChecked = events.count .completed
      ∧ (∀ rule key,
          session.seen.Holds rule key
          ↔ (rule < ruleset.rules.length ∧ .record rule key ∈ sinceReset operations)
            ∨ ∃ line, .tested key line ∈ events ∧ Rule.MatchesAt ruleset.rules rule line)
      ∧ (∀ rule key,
          ruleset.rules.length ≤ rule → session.step (.record rule key) = session)
      ∧ (∀ later : List Operation,
          (∀ operation ∈ later, operation.isReset = false)
          → (∀ rule key, session.seen.Holds rule key → (session.run later).seen.Holds rule key)
            ∧ session.seen.filesChecked ≤ (session.run later).seen.filesChecked)
      ∧ ∀ (seen : Observations) path key content,
          (Observations.Event.ofFile key content).count .completed
          = if (seen.matchContent ruleset.rules path key content).2 = none then 1 else 0 := by
  have size := length_actual_run ruleset operations
  refine ⟨size, ?_, ?_, holds_run_iff ruleset operations, ?_, ?_,
    Observations.count_completed_ofFile ruleset.rules⟩
  · intro keys _
    exact keys.ascending.imp String.ne_of_lt
  · simpa [Observations.emptyFor, Observations.empty]
      using (gains_run ruleset operations).filesChecked
  · intro rule key outside
    have same := Observations.record_of_length_le (size ▸ outside) key
    simp only [step, same]
  · intro later keeps
    have more := (scansAs_run ruleset operations).run keeps
    refine ⟨fun rule key held => more.mono held, ?_⟩
    rw [more.filesChecked]
    exact Nat.le_add_right _ _

end Session

end PatternAudit
