import PatternAudit.Pattern.Expr

/-! Where expressions match. For an expression and a set of positions at which a match may begin,
`ends` gives the positions at which such a match may end. Positions are between bytes, and a set
of positions is an ascending list.
-/

namespace PatternAudit.Pattern

/-- The text that is searched, by position. -/
abbrev Haystack := Array UInt8

namespace Haystack

/-- The byte after a position. -/
def byteAfter? (text : Haystack) (position : Nat) : Option UInt8 :=
  text[position]?

/-- The byte before a position. -/
def byteBefore? (text : Haystack) (position : Nat) : Option UInt8 :=
  if position = 0 then none else text[position - 1]?

/-- The character after a position and its length, if there is one. -/
def charAfter? (text : Haystack) (position : Nat) : Option (Char × Nat) :=
  Utf8.firstChar? (text.extract position (position + 4)).toList

/-- Whether a byte is one that only continues a character. -/
def isContinuation (byte : UInt8) : Bool :=
  0x80 ≤ byte && byte < 0xC0

/-- The start of the character that may end at a position: going back over at most three
continuation bytes.
-/
def backToStart (text : Haystack) : Nat → Nat → Nat
  | 0, position => position
  | steps + 1, position =>
    match text[position]? with
    | some byte =>
      if isContinuation byte && position != 0 then backToStart text steps (position - 1)
      else position
    | none => position

/-- The character with which the last bytes before a position begin. -/
def charBefore? (text : Haystack) (position : Nat) : Option Char :=
  if position = 0 then none
  else
    let first := backToStart text 3 (position - 1)
    (Utf8.firstChar? (text.extract first position).toList).map (·.1)

/-- Whether a position is not inside a character of well-formed text. -/
def isBoundary (text : Haystack) (position : Nat) : Bool :=
  match text[position]? with
  | some byte => !isContinuation byte
  | none => true

end Haystack

/-- Whether a byte is an ASCII letter, digit or underscore. -/
def isWordByte (byte : UInt8) : Bool :=
  (0x30 ≤ byte && byte ≤ 0x39) || (0x41 ≤ byte && byte ≤ 0x5A) || byte == 0x5F
    || (0x61 ≤ byte && byte ≤ 0x7A)

/-- Whether a character belongs to words. -/
def isWordChar (char : Char) : Bool :=
  Unicode.wordCodes.contains char.toNat

namespace Look

/-- Whether an ASCII word character stands before a position. -/
def wordByteBefore (text : Haystack) (position : Nat) : Bool :=
  (text.byteBefore? position).any isWordByte

/-- Whether an ASCII word character stands after a position. -/
def wordByteAfter (text : Haystack) (position : Nat) : Bool :=
  (text.byteAfter? position).any isWordByte

/-- Whether a word character stands before a position. -/
def wordCharBefore (text : Haystack) (position : Nat) : Bool :=
  (text.charBefore? position).any isWordChar

/-- Whether a word character stands after a position. -/
def wordCharAfter (text : Haystack) (position : Nat) : Bool :=
  (text.charAfter? position).any fun (char, _) => isWordChar char

/-- Whether what stands before a position is the start of the text or a character. -/
def wellFormedBefore (text : Haystack) (position : Nat) : Bool :=
  position == 0 || (text.charBefore? position).isSome

/-- Whether what stands after a position is the end of the text or a character. -/
def wellFormedAfter (text : Haystack) (position : Nat) : Bool :=
  text.size ≤ position || (text.charAfter? position).isSome

/-- The byte that ends lines. -/
def newline : UInt8 := 0x0A

/-- The byte that may stand before the one that ends a line. -/
def carriageReturn : UInt8 := 0x0D

/-- Whether a position meets a condition. A condition that is not about the presence of a word
character does not hold beside bytes that are not UTF-8.
-/
def holds (text : Haystack) (position : Nat) : Look → Bool
  | .start => position == 0
  | .finish => position == text.size
  | .startLine => position == 0 || text.byteBefore? position == some newline
  | .finishLine => position == text.size || text.byteAfter? position == some newline
  | .startLineCrlf =>
    position == 0 || text.byteBefore? position == some newline
      || (text.byteBefore? position == some carriageReturn
        && text.byteAfter? position != some newline)
  | .finishLineCrlf =>
    position == text.size || text.byteAfter? position == some carriageReturn
      || (text.byteAfter? position == some newline
        && text.byteBefore? position != some carriageReturn)
  | .wordAscii => wordByteBefore text position != wordByteAfter text position
  | .notWordAscii => wordByteBefore text position == wordByteAfter text position
  | .wordUnicode => wordCharBefore text position != wordCharAfter text position
  | .notWordUnicode =>
    wellFormedBefore text position && wellFormedAfter text position
      && wordCharBefore text position == wordCharAfter text position
  | .wordStartAscii => !wordByteBefore text position && wordByteAfter text position
  | .wordEndAscii => wordByteBefore text position && !wordByteAfter text position
  | .wordStartUnicode => !wordCharBefore text position && wordCharAfter text position
  | .wordEndUnicode => wordCharBefore text position && !wordCharAfter text position
  | .wordStartHalfAscii => !wordByteBefore text position
  | .wordEndHalfAscii => !wordByteAfter text position
  | .wordStartHalfUnicode => wellFormedBefore text position && !wordCharBefore text position
  | .wordEndHalfUnicode => wellFormedAfter text position && !wordCharAfter text position

end Look

/-- Whether the bytes stand right after a position. -/
def standsAt (text : Haystack) : Bytes → Nat → Bool
  | [], _ => true
  | byte :: bytes, position =>
    text.byteAfter? position == some byte && standsAt text bytes (position + 1)

/-- Removes repetitions that follow each other. -/
def dropRepeats : List Nat → List Nat
  | [] => []
  | position :: rest =>
    match dropRepeats rest with
    | [] => [position]
    | next :: rest => if position = next then next :: rest else position :: next :: rest

/-- The positions of either set. -/
def mergePositions (left right : List Nat) : List Nat :=
  if left.isEmpty then right
  else if right.isEmpty then left
  else dropRepeats (List.merge left right)

/-- Repeats a step a given number of times, unless no position is left. -/
def iterate (step : List Nat → List Nat) : Nat → List Nat → List Nat
  | 0, positions => positions
  | count + 1, positions =>
    if positions.isEmpty then [] else iterate step count (step positions)

/-- The positions that at most so many steps lead to, where `seen` marks those that were reached
and only the steps from `fresh` ones are still to be taken.
-/
def spread (step : List Nat → List Nat) : Nat → List Nat → Array Bool → Array Bool
  | 0, _, seen => seen
  | count + 1, fresh, seen =>
    let fresh := (step fresh).filter fun position => !seen.getD position true
    if fresh.isEmpty then seen
    else
      spread step count fresh
        (fresh.foldl (fun seen position => seen.setIfInBounds position true) seen)

/-- The positions that at most so many steps lead to. -/
def upTo (step : List Nat → List Nat) (size count : Nat) (positions : List Nat) : List Nat :=
  let seen :=
    positions.foldl (fun seen position => seen.setIfInBounds position true)
      (Array.replicate (size + 1) false)
  let seen := spread step count positions seen
  (List.range (size + 1)).filter fun position => seen.getD position false

namespace Expr

mutual

/-- The positions at which a match that begins at one of the given positions may end. -/
def ends (text : Haystack) : Expr → List Nat → List Nat
  | .empty, positions => positions
  | .literal word, positions =>
    (positions.filter (standsAt text word)).map (· + word.length)
  | .chars set, positions =>
    positions.filterMap fun position =>
      match text.charAfter? position with
      | some (char, length) => if set.contains char.toNat then some (position + length) else none
      | none => none
  | .bytes set, positions =>
    positions.filterMap fun position =>
      match text.byteAfter? position with
      | some byte => if set.contains byte.toNat then some (position + 1) else none
      | none => none
  | .look condition, positions => positions.filter fun position => condition.holds text position
  | .repetition min max body, positions =>
    let least := iterate (ends text body) min positions
    let more := (max.map (· - min)).getD (text.size + 1)
    upTo (ends text body) text.size more least
  | .capture body, positions => ends text body positions
  | .concatenation parts, positions => endsOfAll text parts positions
  | .alternation branches, positions => endsOfAny text branches positions

/-- The ends of matches of all expressions in turn. -/
def endsOfAll (text : Haystack) : List Expr → List Nat → List Nat
  | [], positions => positions
  | expr :: exprs, positions => endsOfAll text exprs (ends text expr positions)

/-- The ends of matches of any of the expressions. -/
def endsOfAny (text : Haystack) : List Expr → List Nat → List Nat
  | [], _ => []
  | expr :: exprs, positions =>
    mergePositions (ends text expr positions) (endsOfAny text exprs positions)

end

/-- Whether an expression matches somewhere, with a match that begins at one of the positions that
pass a test.
-/
def matchesFrom (test : Nat → Bool) (expr : Expr) (text : Haystack) : Bool :=
  !(ends text expr ((List.range (text.size + 1)).filter test)).isEmpty

end Expr

end PatternAudit.Pattern
