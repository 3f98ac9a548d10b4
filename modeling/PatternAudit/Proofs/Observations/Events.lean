import PatternAudit.Observations.Basic
import PatternAudit.Proofs.Lines.Cutting

/-! What changes observations is a list of events: keys noted for a rule, lines tested under a
key, and files read to their end. Every operation gains exactly what its events say.
-/

namespace PatternAudit

/-- The rule at a position occurs in a line. -/
def Rule.MatchesAt (rules : List Rule) (position : Nat) (line : Bytes) : Prop :=
  ∃ rule, rules[position]? = some rule ∧ rule.occursIn line = true

/-- A rule that occurs in a line has a position in the list. -/
theorem Rule.MatchesAt.lt_length {rules : List Rule} {position : Nat} {line : Bytes}
    (matched : MatchesAt rules position line)
    : position < rules.length := by
  obtain ⟨rule, found, _⟩ := matched
  exact (List.getElem?_eq_some_iff.mp found).1

namespace Observations

/-- What an operation on observations does. -/
inductive Event where
  /-- A key was noted for the rule at a position. -/
  | recorded (rule : Nat) (key : String)
  /-- Every rule was tested on a line that stands under a key. -/
  | tested (key : String) (line : Bytes)
  /-- A file was opened and read to its end. -/
  | completed
  deriving DecidableEq

/-- The events of testing lines under a key. -/
def Event.ofLines (key : String) (lines : List Bytes) : List Event :=
  lines.map (.tested key)

/-- The set of the rule at a position has a key. -/
def Holds (seen : Observations) (rule : Nat) (key : String) : Prop :=
  ∃ keys, seen.actual[rule]? = some keys ∧ key ∈ keys

/-- Some of the events put a key into the set of the rule at a position. -/
def Noted (rules : List Rule) (events : List Event) (rule : Nat) (key : String) : Prop :=
  .recorded rule key ∈ events
  ∨ ∃ line, .tested key line ∈ events ∧ Rule.MatchesAt rules rule line

/-- `after` has, beside what `before` has, exactly what the events say. Rules without a set
gain nothing.
-/
structure Gains (rules : List Rule) (events : List Event) (before after : Observations)
    : Prop where
  size : after.actual.length = before.actual.length
  holds
    : ∀ rule key,
        after.Holds rule key
        ↔ before.Holds rule key
          ∨ (rule < before.actual.length ∧ Noted rules events rule key)
  filesChecked : after.filesChecked = before.filesChecked + events.count .completed

-----------------------------------------------------------------------------------------
-- Observations are determined by what they hold
-----------------------------------------------------------------------------------------

/-- A key can only be held for a rule that has a set. -/
theorem Holds.lt_length {seen : Observations} {rule : Nat} {key : String}
    (held : seen.Holds rule key)
    : rule < seen.actual.length := by
  obtain ⟨keys, found, _⟩ := held
  exact (List.getElem?_eq_some_iff.mp found).1

/-- At a position that has a set, holding is membership in it. -/
theorem holds_iff_mem {seen : Observations} {rule : Nat} {keys : KeySet}
    (found : seen.actual[rule]? = some keys) (key : String)
    : seen.Holds rule key ↔ key ∈ keys := by
  simp [Holds, found]

/-- Equally many sets with the same members are the same sets, because a set of keys is
determined by its members.
-/
theorem actual_eq_of_holds {left right : Observations}
    (size : left.actual.length = right.actual.length)
    (same : ∀ rule key, left.Holds rule key ↔ right.Holds rule key)
    : left.actual = right.actual := by
  refine List.ext_getElem size fun rule hLeft hRight => KeySet.ext_mem fun key => ?_
  rw [← holds_iff_mem (List.getElem?_eq_getElem hLeft),
    ← holds_iff_mem (List.getElem?_eq_getElem hRight)]
  exact same rule key

/-- Nothing is held before the first operation. -/
theorem not_holds_empty (count rule : Nat) (key : String) : ¬(empty count).Holds rule key := by
  rintro ⟨keys, found, member⟩
  have hEmpty : keys = ∅ := List.eq_of_mem_replicate (List.mem_of_getElem? found)
  exact KeySet.not_mem_empty (hEmpty ▸ member)

-----------------------------------------------------------------------------------------
-- Gains along a run
-----------------------------------------------------------------------------------------

/-- What two lists of events note is what either does. -/
theorem noted_append {rules : List Rule} {first second : List Event} {rule : Nat}
    {key : String}
    : Noted rules (first ++ second) rule key
      ↔ Noted rules first rule key ∨ Noted rules second rule key := by
  simp only [Noted, List.mem_append]
  constructor
  · rintro ((noted | noted) | ⟨line, (tested | tested), matched⟩)
    · exact Or.inl (Or.inl noted)
    · exact Or.inr (Or.inl noted)
    · exact Or.inl (Or.inr ⟨line, tested, matched⟩)
    · exact Or.inr (Or.inr ⟨line, tested, matched⟩)
  · rintro ((noted | ⟨line, tested, matched⟩) | (noted | ⟨line, tested, matched⟩))
    · exact Or.inl (Or.inl noted)
    · exact Or.inr ⟨line, Or.inl tested, matched⟩
    · exact Or.inl (Or.inr noted)
    · exact Or.inr ⟨line, Or.inr tested, matched⟩

/-- No event changes nothing. -/
theorem Gains.refl (rules : List Rule) (seen : Observations) : Gains rules [] seen seen where
  size := rfl
  holds := by simp [Noted]
  filesChecked := by simp

/-- What is gained in two steps is gained from the events of both. -/
theorem Gains.trans {rules : List Rule} {first second : List Event}
    {before middle after : Observations}
    (left : Gains rules first before middle) (right : Gains rules second middle after)
    : Gains rules (first ++ second) before after where
  size := right.size.trans left.size
  holds := by
    intro rule key
    rw [right.holds, left.holds, left.size, noted_append, and_or_left, or_assoc]
  filesChecked := by
    rw [right.filesChecked, left.filesChecked, List.count_append, Nat.add_assoc]

/-- A key once held stays held. -/
theorem Gains.mono {rules : List Rule} {events : List Event} {before after : Observations}
    (gains : Gains rules events before after) {rule : Nat} {key : String}
    (held : before.Holds rule key)
    : after.Holds rule key :=
  (gains.holds rule key).mpr (Or.inl held)

/-- The order of the events does not matter. -/
theorem Gains.perm {rules : List Rule} {first second : List Event}
    {before after : Observations}
    (gains : Gains rules first before after) (same : first.Perm second)
    : Gains rules second before after where
  size := gains.size
  holds := by
    intro rule key
    simp only [gains.holds, Noted, same.mem_iff]
  filesChecked := by rw [gains.filesChecked, same.count_eq]

/-- What is gained from given events is determined by them. -/
theorem Gains.unique {rules : List Rule} {events : List Event}
    {before left right : Observations}
    (toLeft : Gains rules events before left) (toRight : Gains rules events before right)
    : left = right := by
  have hActual : left.actual = right.actual := by
    refine actual_eq_of_holds (toLeft.size.trans toRight.size.symm) fun rule key => ?_
    rw [toLeft.holds, toRight.holds]
  exact Observations.ext hActual (toLeft.filesChecked.trans toRight.filesChecked.symm)

/-- The same events once more add no key, because each was gained before. -/
theorem Gains.actual_again {rules : List Rule} {events again : List Event}
    {before middle after : Observations}
    (once : Gains rules events before middle) (twice : Gains rules again middle after)
    (same : ∀ event, event ∈ again → event ∈ events)
    : after.actual = middle.actual := by
  refine actual_eq_of_holds twice.size fun rule key => ?_
  rw [twice.holds, or_iff_left_iff_imp]
  rintro ⟨hRule, noted⟩
  refine (once.holds rule key).mpr (Or.inr ⟨once.size ▸ hRule, ?_⟩)
  exact noted.imp (same _) fun ⟨line, tested, matched⟩ => ⟨line, same _ tested, matched⟩

-----------------------------------------------------------------------------------------
-- Single operations
-----------------------------------------------------------------------------------------

/-- Noting a key adds it to one set, if that exists. -/
theorem gains_record (rules : List Rule) (seen : Observations) (rule : Nat) (key : String)
    : Gains rules [.recorded rule key] seen (seen.record rule key) where
  size := by simp [record]
  holds := by
    intro other name
    simp only [Holds, record, Noted, List.getElem?_modify]
    by_cases hRule : rule = other
    · subst hRule
      cases found : seen.actual[rule]? with
      | none => simp [Nat.not_lt.mpr (List.getElem?_eq_none_iff.mp found)]
      | some keys =>
          have hLength := (List.getElem?_eq_some_iff.mp found).1
          simp [hLength, or_comm]
    · simp [hRule, Ne.symm hRule]
  filesChecked := by simp [record]

/-- Noting a key at a position without set changes nothing at all. -/
theorem record_of_length_le {seen : Observations} {rule : Nat}
    (outside : seen.actual.length ≤ rule) (key : String)
    : seen.record rule key = seen := by
  simp [record, List.modify_eq_self outside]

/-- Testing some of the rules on a line gains what those of them that occur in it say.
Witness: induction on the rules still to be tested; each tests and notes on its own.
-/
theorem gains_foldl_record (rules : List Rule) (key : String) (line : Bytes)
    (indexed : List (Rule × Nat)) (seen : Observations)
    : Gains rules
        ((indexed.filter (·.1.occursIn line)).map fun entry => .recorded entry.2 key) seen
        (indexed.foldl
          (fun seen (rule, index) =>
            if rule.occursIn line then seen.record index key else seen)
          seen) := by
  induction indexed generalizing seen with
  | nil => exact .refl rules seen
  | cons entry indexed ih =>
      obtain ⟨rule, index⟩ := entry
      by_cases occurs : rule.occursIn line = true
      · have first := gains_record rules seen index key
        simpa [occurs] using first.trans (ih (seen.record index key))
      · simpa [occurs] using ih seen

/-- Testing a line gains its key for every rule that occurs in it. -/
theorem gains_matchLine (rules : List Rule) (seen : Observations) (key : String) (line : Bytes)
    : Gains rules [.tested key line] seen (seen.matchLine rules key line) := by
  have folded := gains_foldl_record rules key line rules.zipIdx seen
  refine { size := folded.size, holds := ?_, filesChecked := ?_ }
  · intro rule name
    rw [matchLine, folded.holds]
    refine or_congr_right (and_congr_right fun _ => ?_)
    simp only [Noted, Rule.MatchesAt, List.mem_map, List.mem_filter,
      List.mem_zipIdx_iff_getElem?]
    constructor
    · rintro (⟨⟨found, index⟩, ⟨member, occurs⟩, same⟩ | ⟨_, ⟨_, _, impossible⟩, _⟩)
      · cases same
        exact Or.inr ⟨line, by simp, found, member, occurs⟩
      · cases impossible
    · rintro (impossible | ⟨other, tested, found, member, occurs⟩)
      · simp at impossible
      · obtain ⟨rfl, rfl⟩ : name = key ∧ other = line := by simpa using tested
        exact Or.inl ⟨(found, rule), ⟨member, occurs⟩, rfl⟩
  · rw [matchLine, folded.filesChecked]
    simp [List.count_eq_zero]

/-- Testing lines gains what each of them does, by induction on the lines. -/
theorem gains_matchLines (rules : List Rule) (seen : Observations) (key : String)
    (lines : List Bytes)
    : Gains rules (Event.ofLines key lines) seen (seen.matchLines rules key lines) := by
  induction lines generalizing seen with
  | nil => exact .refl rules seen
  | cons line lines ih => exact (gains_matchLine rules seen key line).trans (ih _)

end Observations

end PatternAudit
