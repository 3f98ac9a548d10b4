import PatternAudit.Pattern.Tree
import PatternAudit.Pattern.Unicode.Query
import PatternAudit.Text.Blank
import PatternAudit.Text.Hex

/-! Reading patterns. Every reader takes the characters that are left and gives what it read and
what is left after it, or nothing if the text is not well formed. In the verbose mode, blanks
and comments may stand between the parts of a pattern; `verbose` says whether it is on.
-/

namespace PatternAudit.Pattern.Reader

/-- Skips blanks and comments, which end with their line. -/
def skipRemarks (comment : Bool) : List Char → List Char
  | [] => []
  | char :: rest =>
    if comment then skipRemarks (char != '\n') rest
    else if Text.isBlank char then skipRemarks false rest
    else if char == '#' then skipRemarks true rest
    else char :: rest

/-- Skips what may be skipped. -/
def skip (verbose : Bool) (text : List Char) : List Char :=
  if verbose then skipRemarks false text else text

/-- The next character that counts after the current one. Blanks and hash signs are passed over;
if nothing else follows, it is the character right after the current one.
-/
def peek? (verbose : Bool) (after : List Char) : Option Char :=
  if verbose then
    let blank (char : Char) := Text.isBlank char
    match after.dropWhile blank with
    | '#' :: rest => (rest.dropWhile blank).head?.or after.head?
    | rest => rest.head?.or after.head?
  else
    after.head?

/-- The longest run of characters that pass the test, with what may be skipped between them. -/
def collect (verbose : Bool) (test : Char → Bool) : Nat → List Char → List Char × List Char
  | fuel + 1, char :: rest =>
    if test char then
      let (chars, rest) := collect verbose test fuel (skip verbose rest)
      (char :: chars, rest)
    else
      ([], char :: rest)
  | _, text => ([], text)

/-- The character whose code hexadecimal digits denote. -/
def hexChar? (digits : List Char) : Option Char := do
  Text.charOfCode? ((← digits.mapM Text.hexDigit?).foldl (fun value digit => value * 16 + digit) 0)

/-- A given number of hexadecimal digits, and what follows the last one. -/
def hexDigits (verbose : Bool) : Nat → List Char → Option (List Char × List Char)
  | 0, text => some ([], text)
  | count + 1, text =>
    match text with
    | [] => none
    | digit :: rest => do
      let _ ← Text.hexDigit? digit
      let (digits, rest) ← hexDigits verbose count (skip verbose rest)
      return (digit :: digits, rest)

/-- A character that is given by its code, after the letter that announces it: `width` digits, or
any number of digits in braces. Two digits after an `x` may stand for a byte.
-/
def coded (verbose : Bool) (width : Nat) (text : List Char) : Option (Letter × List Char) :=
  match skip verbose text with
  | '\x7b' :: rest => do
    let rest := skip verbose rest
    let isDigit (char : Char) := (Text.hexDigit? char).isSome
    let (digits, rest) := collect verbose isDigit rest.length rest
    let '\x7d' :: rest := rest | none
    if digits.isEmpty then none
    else return ({ char := ← hexChar? digits }, skip verbose rest)
  | rest => do
    let (digits, rest) ← hexDigits verbose width rest
    return ({ char := ← hexChar? digits, byte := width == 2 }, rest)

/-- Splits at the first occurrence of a separator. -/
def splitAt? (separator : List Char) : List Char → Option (List Char × List Char)
  | [] => none
  | char :: rest =>
    if separator.isPrefixOf (char :: rest) then
      some ([], (char :: rest).drop separator.length)
    else
      (splitAt? separator rest).map fun (before, after) => (char :: before, after)

/-- The class that a property in braces selects; `!=` selects the same as `=`. -/
def propertyNamed (negated : Bool) (name : List Char) : ClassTree :=
  match splitAt? ['!', '='] name with
  | some (property, value) => .valued negated property value
  | none =>
    match splitAt? [':'] name with
    | some (property, value) => .valued negated property value
    | none =>
      match splitAt? ['='] name with
      | some (property, value) => .valued negated property value
      | none => .property negated name

/-- A property, after the letter that announces it: one letter, or a name in braces. -/
def property (verbose : Bool) (negated : Bool) (text : List Char)
    : Option (ClassTree × List Char) :=
  match skip verbose text with
  | [] => none
  | '\x7b' :: rest =>
    let rest := skip verbose rest
    match collect verbose (· != '\x7d') rest.length rest with
    | (name, _ :: rest) => some (propertyNamed negated name, rest)
    | (_, []) => none
  | '\\' :: _ => none
  | letter :: rest => some (.property negated [letter], skip verbose rest)

/-- Characters with a meaning of their own, which a backslash takes away. -/
def isMeta (char : Char) : Bool :=
  "\\.+*?()|[]\x7b\x7d^$#&-~".toList.contains char

/-- Characters that a backslash leaves as they are: ASCII but for letters, digits and angles. -/
def isEscapable (char : Char) : Bool :=
  isMeta char || (char.toNat < 0x80 && !(char.isAlphanum || char == '<' || char == '>'))

/-- The special word boundaries, by the name in braces. -/
def boundaryNamed? (name : List Char) : Option Assertion :=
  match String.ofList name with
  | "start" => some .wordStart
  | "end" => some .wordEnd
  | "start-half" => some .wordStartHalf
  | "end-half" => some .wordEndHalf
  | _ => none

/-- A word boundary, after its letter. A brace that is followed by a letter or a dash names a
special boundary; any other brace is left to be read as a repetition.
-/
def boundary (verbose : Bool) (text : List Char) : Option (Assertion × List Char) :=
  match text with
  | '\x7b' :: rest =>
    let isNameChar (char : Char) := char.isAlpha || char == '-'
    match skip verbose rest with
    | [] => none
    | char :: rest =>
      if isNameChar char then
        match collect verbose isNameChar (rest.length + 1) (char :: rest) with
        | (name, '\x7d' :: rest) => (boundaryNamed? name).map (·, rest)
        | _ => none
      else
        some (.wordBoundary, text)
  | _ => some (.wordBoundary, text)

/-- The characters with an escape of one letter. -/
def controlChar? : Char → Option Char
  | 'a' => some '\x07'
  | 'f' => some '\x0c'
  | 't' => some '\t'
  | 'n' => some '\n'
  | 'r' => some '\r'
  | 'v' => some '\x0b'
  | _ => none

/-- What follows a backslash. -/
def escape (verbose : Bool) : List Char → Option (Tree × List Char)
  | [] => none
  | char :: rest =>
    let shorthand negated kind := some (.set (.shorthand negated kind), rest)
    match char with
    | 'x' => (coded verbose 2 rest).map fun (letter, rest) => (.letter letter, rest)
    | 'u' => (coded verbose 4 rest).map fun (letter, rest) => (.letter letter, rest)
    | 'U' => (coded verbose 8 rest).map fun (letter, rest) => (.letter letter, rest)
    | 'p' => (property verbose false rest).map fun (cls, rest) => (.set cls, rest)
    | 'P' => (property verbose true rest).map fun (cls, rest) => (.set cls, rest)
    | 'd' => shorthand false .digit
    | 's' => shorthand false .space
    | 'w' => shorthand false .word
    | 'D' => shorthand true .digit
    | 'S' => shorthand true .space
    | 'W' => shorthand true .word
    | 'A' => some (.assertion .startText, rest)
    | 'z' => some (.assertion .endText, rest)
    | 'b' => (boundary verbose rest).map fun (kind, rest) => (.assertion kind, rest)
    | 'B' => some (.assertion .notWordBoundary, rest)
    | '<' => some (.assertion .wordStart, rest)
    | '>' => some (.assertion .wordEnd, rest)
    | _ =>
      if isEscapable char then some (.letter { char }, rest)
      else (controlChar? char).map fun char => (.letter { char }, rest)

/-- One item of a class: a character or an escape. -/
def classItem (verbose : Bool) : List Char → Option (Tree × List Char)
  | [] => none
  | '\\' :: rest => escape verbose rest
  | char :: rest => some (.letter { char }, rest)

/-- An item of a class that is a set of characters. -/
def asClass? : Tree → Option ClassTree
  | .letter letter => some (.letter letter)
  | .set body => some body
  | _ => none

/-- An item of a class that is a single character. -/
def asLetter? : Tree → Option Letter
  | .letter letter => some letter
  | _ => none

/-- A range of characters or a single item. A dash before the closing bracket or before another
dash does not make a range.
-/
def classRange (verbose : Bool) (text : List Char) : Option (ClassTree × List Char) := do
  let (first, rest) ← classItem verbose text
  let rest := skip verbose rest
  if rest.isEmpty then none
  else
    let single := (asClass? first).map (·, rest)
    match rest with
    | '-' :: after =>
      match peek? verbose after with
      | some ']' => single
      | some '-' => single
      | _ =>
        let after := skip verbose after
        if after.isEmpty then none
        else
          let (last, rest) ← classItem verbose after
          let low ← asLetter? first
          let high ← asLetter? last
          if low.char ≤ high.char then return (.range low high, rest) else none
    | _ => single

/-- The named classes of ASCII characters. -/
def posixNamed? (name : List Char) : Option (List (Nat × Nat)) :=
  match String.ofList name with
  | "alnum" => some [(0x30, 0x39), (0x41, 0x5A), (0x61, 0x7A)]
  | "alpha" => some [(0x41, 0x5A), (0x61, 0x7A)]
  | "ascii" => some [(0, 0x7F)]
  | "blank" => some [(0x09, 0x09), (0x20, 0x20)]
  | "cntrl" => some [(0, 0x1F), (0x7F, 0x7F)]
  | "digit" => some [(0x30, 0x39)]
  | "graph" => some [(0x21, 0x7E)]
  | "lower" => some [(0x61, 0x7A)]
  | "print" => some [(0x20, 0x7E)]
  | "punct" => some [(0x21, 0x2F), (0x3A, 0x40), (0x5B, 0x60), (0x7B, 0x7E)]
  | "space" => some [(0x09, 0x0D), (0x20, 0x20)]
  | "upper" => some [(0x41, 0x5A)]
  | "word" => some [(0x30, 0x39), (0x41, 0x5A), (0x5F, 0x5F), (0x61, 0x7A)]
  | "xdigit" => some [(0x30, 0x39), (0x41, 0x46), (0x61, 0x66)]
  | _ => none

/-- A named class of ASCII characters, after its opening bracket. -/
def posixClass? : List Char → Option (ClassTree × List Char)
  | ':' :: rest =>
    let negated := rest.head? == some '^'
    let rest := if negated then rest.drop 1 else rest
    match rest.dropWhile (· != ':') with
    | ':' :: ']' :: after =>
      (posixNamed? (rest.takeWhile (· != ':'))).map fun intervals =>
        (.posix negated intervals, after)
    | _ => none
  | _ => none

/-- The operation that two equal signs announce. -/
def operation? : List Char → Option (ClassOperation × List Char)
  | '&' :: '&' :: rest => some (.intersection, rest)
  | '-' :: '-' :: rest => some (.difference, rest)
  | '~' :: '~' :: rest => some (.symmetricDifference, rest)
  | _ => none

/-- The class that the items since the last operation complete; `items` has the last one first. -/
def completed (pending : Option (ClassTree × ClassOperation)) (items : List ClassTree)
    : ClassTree :=
  let right := ClassTree.ofItems items.reverse
  match pending with
  | none => right
  | some (left, kind) => .operation kind left right

/-- The dashes at the start of a class. -/
def leadingDashes (verbose : Bool) : Nat → List Char → List ClassTree × List Char
  | fuel + 1, '-' :: rest =>
    let (items, rest) := leadingDashes verbose fuel (skip verbose rest)
    (.letter { char := '-' } :: items, rest)
  | _, text => ([], text)

/-- The start of a class after its opening bracket: whether it is negated, and the dashes or the
closing bracket that stand for themselves because they come first.
-/
def classOpening (verbose : Bool) (text : List Char)
    : Bool × List ClassTree × List Char :=
  let text := skip verbose text
  let negated := text.head? == some '^'
  let text := if negated then skip verbose (text.drop 1) else text
  let (items, rest) := leadingDashes verbose text.length text
  match items, rest with
  | [], ']' :: rest => (negated, [.letter { char := ']' }], skip verbose rest)
  | items, rest => (negated, items, rest)

/-- The rest of a bracketed class. Operations group to the left and bind less than union: before
the last operation stands `pending`, and `items` were read since, last first.
-/
def classBody (verbose : Bool)
    : Nat → Option (ClassTree × ClassOperation) → List ClassTree → List Char
      → Option (ClassTree × List Char)
  | 0, _, _, _ => none
  | fuel + 1, pending, items, text =>
    match skip verbose text with
    | [] => none
    | ']' :: rest => some (completed pending items, rest)
    | '[' :: rest =>
      match posixClass? rest with
      | some (cls, rest) => classBody verbose fuel pending (cls :: items) rest
      | none => do
        let (negated, opening, rest) := classOpening verbose rest
        let (body, rest) ← classBody verbose fuel none opening.reverse rest
        classBody verbose fuel pending (.bracketed negated body :: items) rest
    | text =>
      match operation? text with
      | some (kind, rest) => classBody verbose fuel (some (completed pending items, kind)) [] rest
      | none => do
        let (item, rest) ← classRange verbose text
        classBody verbose fuel pending (item :: items) rest

/-- A bracketed class, after its opening bracket. -/
def bracketed (verbose : Bool) (text : List Char) : Option (ClassTree × List Char) := do
  let (negated, opening, rest) := classOpening verbose text
  let (body, rest) ← classBody verbose (text.length + 1) none opening.reverse rest
  return (.bracketed negated body, rest)

/-- The greatest count of a repetition. -/
def maxCount : Nat := 4294967295

/-- A decimal number with blanks around it. -/
def count? (verbose : Bool) (text : List Char) : Option Nat × List Char :=
  let text := text.dropWhile Text.isBlank
  let (digits, rest) := collect verbose Char.isDigit text.length text
  let value := digits.foldl (fun value digit => value * 10 + (digit.toNat - '0'.toNat)) 0
  let rest := skip verbose (rest.dropWhile Text.isBlank)
  (if digits.isEmpty || maxCount < value then none else some value, rest)

/-- The bounds of a repetition, after the opening brace and up to the closing one. -/
def counts? (verbose : Bool) (text : List Char) : Option (Nat × Option Nat × List Char) :=
  match count? verbose (skip verbose text) with
  | (some low, ',' :: rest) =>
    match skip verbose rest with
    | '\x7d' :: rest => some (low, none, rest)
    | rest =>
      match count? verbose rest with
      | (some high, '\x7d' :: rest) => if low ≤ high then some (low, some high, rest) else none
      | _ => none
  | (some count, '\x7d' :: rest) => some (count, some count, rest)
  | _ => none

/-- Passes over the mark of a repetition that prefers to be short. -/
def skipLazyMark : List Char → List Char
  | '?' :: rest => rest
  | text => text

/-- The flag of a letter. -/
def flag? : Char → Option Flag
  | 'i' => some .caseInsensitive
  | 'm' => some .multiLine
  | 's' => some .dotMatchesNewLine
  | 'U' => some .swapGreed
  | 'u' => some .unicode
  | 'R' => some .crlf
  | 'x' => some .ignoreBlanks
  | _ => none

/-- Flags up to a colon or a closing parenthesis, which is given too. No flag is repeated, and the
one dash that switches flags off has a flag after it.
-/
def flagChange (change : FlagChange) (off : Bool) : List Char
    → Option (FlagChange × Char × List Char)
  | [] => none
  | '-' :: rest =>
    match rest with
    | ':' :: _ | ')' :: _ => none
    | _ => if off then none else flagChange change true rest
  | char :: rest =>
    if char == ':' || char == ')' then some (change, char, rest)
    else do
      let flag ← flag? char
      if (change.of? flag).isSome then none
      else flagChange (change ++ [(flag, !off)]) off rest

/-- Whether a character may stand in the name of a group, at the start or later. -/
def isNameChar (first : Bool) (char : Char) : Bool :=
  char == '_' || Unicode.alphabeticCodes.contains char.toNat
    || (!first && (char == '.' || char == '[' || char == ']'
      || Unicode.numericCodes.contains char.toNat))

/-- The name of a group, up to the closing angle. -/
def groupName? (text : List Char) : Option (List Char × List Char) :=
  match text.takeWhile (· != '>'), text.dropWhile (· != '>') with
  | first :: name, _ :: rest =>
    if isNameChar true first && name.all (isNameChar false) then some (first :: name, rest)
    else none
  | _, _ => none

/-- How a group begins. -/
inductive Opening where
  /-- Flags for the rest of the enclosing group. -/
  | flags (change : FlagChange)
  /-- A group without a number, with flags of its own. -/
  | plain (change : FlagChange)
  /-- A group with a number. -/
  | numbered
  /-- A group with a number and a name. -/
  | named (name : List Char)

/-- The start of a group, after its parenthesis. There is no look-around. -/
def groupOpening (text : List Char) : Option (Opening × List Char) :=
  match text with
  | '?' :: 'P' :: '<' :: rest => (groupName? rest).map fun (name, rest) => (.named name, rest)
  | '?' :: '<' :: '=' :: _ | '?' :: '<' :: '!' :: _ => none
  | '?' :: '<' :: rest => (groupName? rest).map fun (name, rest) => (.named name, rest)
  | '?' :: rest => do
    let (change, closing, rest) ← flagChange [] false rest
    if closing == ':' then return (.plain change, rest)
    else if change.isEmpty then none
    else return (.flags change, rest)
  | rest => some (.numbered, rest)

/-- The repetition that a sign after a part asks for, if the part can be repeated; `parts` has the
last one first.
-/
def repeatLast (min : Nat) (max : Option Nat) : List Tree → Option (List Tree)
  | [] => none
  | .flags _ :: _ => none
  | .empty :: _ => none
  | part :: parts => some (.repetition min max part :: parts)

/-- The inside of a group, or a whole pattern, up to a closing parenthesis or the end. `names` are
the names of groups so far, `branches` the alternatives before the current one and `parts` what
was read of it, both with the last one first.
-/
def body : Nat → Bool → List (List Char) → List Tree → List Tree → List Char
    → Option (Tree × List (List Char) × List Char)
  | 0, _, _, _, _, _ => none
  | fuel + 1, verbose, names, branches, parts, text =>
    let branch := Tree.ofParts parts.reverse
    match skip verbose text with
    | [] => some (.ofBranches (branch :: branches).reverse, names, [])
    | ')' :: rest => some (.ofBranches (branch :: branches).reverse, names, ')' :: rest)
    | '|' :: rest => body fuel verbose names (branch :: branches) [] rest
    | '(' :: rest => do
      let (opening, rest) ← groupOpening (skip verbose rest)
      let group (change : FlagChange) (captures : Bool) (names : List (List Char)) := do
        let inside := (change.of? .ignoreBlanks).getD verbose
        let (tree, names, rest) ← body fuel inside names [] [] rest
        let ')' :: rest := rest | none
        body fuel verbose names branches (.group change captures tree :: parts) rest
      match opening with
      | .flags change =>
        let verbose := (change.of? .ignoreBlanks).getD verbose
        body fuel verbose names branches (.flags change :: parts) rest
      | .plain change => group change false names
      | .numbered => group [] true names
      | .named name => if names.contains name then none else group [] true (name :: names)
    | '[' :: rest => do
      let (cls, rest) ← bracketed verbose rest
      body fuel verbose names branches (.set cls :: parts) rest
    | '?' :: rest => do
      body fuel verbose names branches (← repeatLast 0 (some 1) parts) (skipLazyMark rest)
    | '*' :: rest => do
      body fuel verbose names branches (← repeatLast 0 none parts) (skipLazyMark rest)
    | '+' :: rest => do
      body fuel verbose names branches (← repeatLast 1 none parts) (skipLazyMark rest)
    | '\x7b' :: rest => do
      let (min, max, rest) ← counts? verbose rest
      let parts ← repeatLast min max parts
      body fuel verbose names branches parts (skipLazyMark (skip verbose rest))
    | '\\' :: rest => do
      let (part, rest) ← escape verbose rest
      body fuel verbose names branches (part :: parts) rest
    | '.' :: rest => body fuel verbose names branches (.any :: parts) rest
    | '^' :: rest => body fuel verbose names branches (.assertion .startLine :: parts) rest
    | '$' :: rest => body fuel verbose names branches (.assertion .endLine :: parts) rest
    | char :: rest => body fuel verbose names branches (.letter { char } :: parts) rest

/-- The greatest depth of a pattern. -/
def maxDepth : Nat := 250

/-- The tree of a pattern. -/
def parse? (pattern : List Char) : Option Tree := do
  let (tree, _, rest) ← body (pattern.length + 1) false [] [] [] pattern
  if rest.isEmpty && tree.depth ≤ maxDepth then some tree else none

end PatternAudit.Pattern.Reader
