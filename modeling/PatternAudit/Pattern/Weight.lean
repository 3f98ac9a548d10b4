import PatternAudit.Pattern.Expr
import Std.Data.HashMap

/-! The size of the automata of a pattern, in bytes. A pattern is searched for with two automata
on bytes, one for each direction, and neither may be too large. Repetitions are counted as often
as their body is copied, so the size follows from the expression without building anything.
-/

namespace PatternAudit.Pattern

/-- The size of a state. -/
def stateSize : Nat := 32

/-- The size of a transition in a state with several of them. -/
def transitionSize : Nat := 8

/-- The size of a branch in a state that only branches. -/
def branchSize : Nat := 4

/-- The greatest size of an automaton. -/
def sizeLimit : Nat := 10 * 1024 * 1024

/-- The states of a repetition from `min` on, next to the copies of its body. -/
def openRepetitionSize (min : Nat) (bodyCanBeEmpty : Bool) : Nat :=
  if min == 0 && bodyCanBeEmpty then 3 * stateSize + 4 * branchSize
  else stateSize + 2 * branchSize

/-! Characters are matched byte by byte: a set of characters is a list of sequences of byte
intervals, in ascending order.
-/

/-- A sequence of byte intervals. -/
abbrev ByteSequence := List (Nat × Nat)

/-- The sequences for the codes from `low` to `high`, which all take `rest` further bytes; `lead`
is added to the first byte.
-/
def byteSequences (lead : Nat) : Nat → Nat → Nat → List ByteSequence
  | 0, low, high => [[(lead + low, lead + high)]]
  | rest + 1, low, high =>
    let block := 64 ^ (rest + 1)
    let within (first low high : Nat) : List ByteSequence :=
      (byteSequences 0x80 rest low high).map ((lead + first, lead + first) :: ·)
    let first := low / block
    let last := high / block
    if first == last then within first (low % block) (high % block)
    else
      let before := if low % block == 0 then [] else within first (low % block) (block - 1)
      let after := if high % block == block - 1 then [] else within last 0 (high % block)
      let from' := if low % block == 0 then first else first + 1
      let upTo := if high % block == block - 1 then last + 1 else last
      let full : ByteSequence := List.replicate (rest + 1) (0x80, 0xBF)
      let middle := if from' < upTo then [(lead + from', lead + (upTo - 1)) :: full] else []
      before ++ middle ++ after

/-- The codes that take one, two, three and four bytes, without the surrogates, with what the
first byte adds and how many bytes follow it.
-/
def encodingRanges : List (Nat × Nat × Nat × Nat) := [
  (0, 0x7F, 0, 0), (0x80, 0x7FF, 0xC0, 1), (0x800, 0xD7FF, 0xE0, 2), (0xE000, 0xFFFF, 0xE0, 2),
  (0x10000, 0x10FFFF, 0xF0, 3)]

/-- The sequences of a set of characters. -/
def CodeSet.byteSequences (set : CodeSet) : List ByteSequence :=
  set.flatMap fun (low, high) =>
    encodingRanges.flatMap fun (first, last, lead, rest) =>
      if max low first ≤ min high last then
        Pattern.byteSequences lead rest (max low first) (min high last)
      else []

/-- Puts sequences that follow each other together if they start with the same interval. -/
def groupByFirst : List ByteSequence → List ((Nat × Nat) × List ByteSequence)
  | [] => []
  | [] :: sequences => groupByFirst sequences
  | (interval :: rest) :: sequences =>
    match groupByFirst sequences with
    | (interval', rests) :: groups =>
      if interval == interval' then (interval, rest :: rests) :: groups
      else (interval, [rest]) :: (interval', rests) :: groups
    | [] => [(interval, [rest])]

/-- The states of the forward automaton of a set of characters that were met so far, by their
transitions, and their size.
-/
structure Interned where
  states : Std.HashMap (List ((Nat × Nat) × Nat)) Nat := {}
  size : Nat := 0

/-- The number of the state from which some sequences lead to the end, which is state zero. States
with the same transitions are one.
-/
def intern : Nat → List ByteSequence → Interned → Nat × Interned
  | 0, _, interned => (0, interned)
  | length + 1, sequences, interned =>
    match groupByFirst sequences with
    | [] => (0, interned)
    | groups =>
      let (transitions, interned) :=
        groups.foldl
          (fun (transitions, interned) (interval, rests) =>
            let (next, interned) := intern length rests interned
            ((interval, next) :: transitions, interned))
          ([], interned)
      match interned.states[transitions]? with
      | some state => (state, interned)
      | none =>
        let state := interned.states.size + 1
        (state,
          { states := interned.states.insert transitions state,
            size := interned.size + stateSize + transitionSize * transitions.length })

/-- The number of different beginnings of some sequences. -/
def countBeginnings : Nat → List ByteSequence → Nat
  | 0, _ => 0
  | length + 1, sequences =>
    (groupByFirst sequences).foldl
      (fun count (_, rests) => count + 1 + countBeginnings length rests) 0

/-- The greatest length of a character in bytes, and one. -/
def sequenceFuel : Nat := 5

/-- The size of one byte of a set. -/
def byteSetSize (set : CodeSet) : Nat :=
  2 * stateSize + transitionSize * set.length

/-- The size of one character of a set, in the forward automaton or in the backward one. -/
def charsSize (backward : Bool) (set : CodeSet) : Nat :=
  if set.isAscii then byteSetSize set
  else
    let sequences := set.byteSequences
    if backward then
      2 * stateSize + branchSize * sequences.length
        + stateSize * countBeginnings sequenceFuel sequences
    else
      stateSize + (intern sequenceFuel sequences {}).2.size

namespace Expr

mutual

/-- The size of an expression in one of the automata. Groups take states in the forward automaton
only.
-/
def size (backward : Bool) : Expr → Nat
  | .empty => stateSize
  | .look _ => stateSize
  | .literal text => stateSize * text.length
  | .chars set => charsSize backward set
  | .bytes set => byteSetSize set
  | .capture body => body.size backward + if backward then 0 else 2 * stateSize
  | .repetition min max body =>
    let copy := body.size backward
    match max with
    | none => (Nat.max min 1) * copy + openRepetitionSize min body.canBeEmpty
    | some max =>
      if min == 0 && max == 1 then copy + 2 * stateSize + 2 * branchSize
      else if min == max then min * copy
      else
        (if min == 0 then stateSize else min * copy) + stateSize
          + (max - min) * (copy + stateSize + 2 * branchSize)
  | .concatenation parts => sizeOfAll backward parts
  | .alternation branches =>
    2 * stateSize + branchSize * branches.length + sizeOfAll backward branches

def sizeOfAll (backward : Bool) : List Expr → Nat
  | [] => 0
  | expr :: exprs => expr.size backward + sizeOfAll backward exprs

end

/-- The size of what surrounds a pattern in an automaton: the search for its start, the state of a
match and, forward, the group of the whole match.
-/
def frameSize (backward : Bool) : Nat :=
  byteSetSize [(0, 0xFF)] + openRepetitionSize 0 false + stateSize
    + if backward then 0 else 2 * stateSize

/-- Whether both automata of an expression are small enough. -/
def isSmall (expr : Expr) : Bool :=
  expr.size false + frameSize false ≤ sizeLimit && expr.size true + frameSize true ≤ sizeLimit

end Expr

end PatternAudit.Pattern
