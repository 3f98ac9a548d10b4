/-! Sets of character codes (or of byte values) as ascending lists of intervals between which
there are gaps.
-/

namespace PatternAudit.Pattern

/-- Intervals of codes, both ends included, in ascending order and neither overlapping nor
touching.
-/
abbrev CodeSet := List (Nat × Nat)

namespace CodeSet

/-- Whether a code lies in one of the intervals. -/
def contains : CodeSet → Nat → Bool
  | [], _ => false
  | (low, high) :: rest, code =>
    if code < low then false
    else if code ≤ high then true
    else contains rest code

/-- Joins intervals that overlap or touch, given that they ascend by their lower ends. -/
def coalesce : Nat × Nat → List (Nat × Nat) → CodeSet
  | last, [] => [last]
  | (low, high), (low', high') :: rest =>
    if low' ≤ high + 1 then coalesce (low, max high high') rest
    else (low, high) :: coalesce (low', high') rest

/-- The codes of either set. -/
def union (left right : CodeSet) : CodeSet :=
  match List.merge left right fun a b => a.1 ≤ b.1 with
  | [] => []
  | first :: rest => coalesce first rest

/-- The codes from `low` to `high`. -/
def interval (low high : Nat) : CodeSet :=
  [(low, high)]

/-- The set of all codes that lie in some of the given intervals, in any order. -/
def ofIntervals (intervals : List (Nat × Nat)) : CodeSet :=
  intervals.foldl (fun set (low, high) => set.union (interval low high)) []

/-- The codes from `next` to `limit` that are not in the set. -/
def gaps (limit : Nat) : Nat → CodeSet → CodeSet
  | next, [] => if next ≤ limit then [(next, limit)] else []
  | next, (low, high) :: rest =>
    if next < low then (next, low - 1) :: gaps limit (high + 1) rest
    else gaps limit (high + 1) rest

/-- The codes up to `limit` that are not in the set. -/
def complement (limit : Nat) (set : CodeSet) : CodeSet :=
  gaps limit 0 set

/-- The codes of both sets. -/
def inter (limit : Nat) (left right : CodeSet) : CodeSet :=
  complement limit (union (complement limit left) (complement limit right))

/-- The codes of the first set that are not in the second. -/
def difference (limit : Nat) (left right : CodeSet) : CodeSet :=
  inter limit left (complement limit right)

/-- The codes of exactly one of the two sets. -/
def symmetricDifference (limit : Nat) (left right : CodeSet) : CodeSet :=
  union (difference limit left right) (difference limit right left)

/-- Whether all codes are ASCII. -/
def isAscii (set : CodeSet) : Bool :=
  set.all fun (_, high) => high < 0x80

/-- The only code of the set, if there is just one. -/
def single? : CodeSet → Option Nat
  | [(low, high)] => if low = high then some low else none
  | _ => none

/-! Sets are written as hexadecimal intervals with blanks between them: `41-5A 61-7A AA`. -/

/-- What was read of a written set: the intervals before, last first, the lower end of the
current interval if its dash was read, and the number that is being read.
-/
structure Reading where
  intervals : List (Nat × Nat) := []
  low : Option Nat := none
  number : Option Nat := none

/-- Ends the current interval. -/
def Reading.close (reading : Reading) : Reading :=
  match reading.number with
  | none => reading
  | some high => { intervals := (reading.low.getD high, high) :: reading.intervals }

/-- Reads one character of a written set. -/
def Reading.next (reading : Reading) (char : Char) : Reading :=
  if char == '-' then { reading with low := reading.number, number := none }
  else if char == ' ' || char == '\n' then reading.close
  else
    let digit := if char ≤ '9' then char.toNat - '0'.toNat else char.toNat - 'A'.toNat + 10
    { reading with number := some (reading.number.getD 0 * 16 + digit) }

/-- The intervals of a written set, in the order in which they are written. -/
def ofHex (text : String) : CodeSet :=
  (text.toList.foldl Reading.next {}).close.intervals.reverse

end CodeSet

end PatternAudit.Pattern
