import PatternAudit.Yaml.Node
import PatternAudit.Yaml.Token

/-! Building a node from tokens. Every reader takes the tokens that are left and gives what it built
and what is left. A node that is not written is an empty plain scalar.
-/

namespace PatternAudit.Yaml.Node

/-- A node as it is written. -/
abbrev Written := Node String

/-- What stands before a node. -/
structure Properties where
  anchor : Option String := none
  tagged : Bool := false

/-- The anchor and the tag before a node, of each at most one. A handle must be declared, unless it
is one of the two that always are.
-/
def properties? (handles : List String) (tokens : List Token)
    : Option (Properties × List Token) :=
  match tokens with
  | .anchor name :: .tag handle :: rest => declared handle (some name) rest
  | .anchor name :: rest => some ({ anchor := some name }, rest)
  | .tag handle :: .anchor name :: rest => declared handle (some name) rest
  | .tag handle :: rest => declared handle none rest
  | rest => some ({}, rest)
where
  declared (handle anchor : Option String) (rest : List Token)
      : Option (Properties × List Token) :=
    if handle.all (("!!" :: handles).contains ·) then some ({ anchor, tagged := true }, rest)
    else none

/-- A node of which nothing but an anchor or a tag is written. -/
def bare? (properties : Properties) (rest : List Token) : Option (Written × List Token) :=
  if properties.anchor.isSome || properties.tagged then
    some (.scalar properties.anchor "" true, rest)
  else
    none

/-- Whether the next token is one of some. -/
def nextIn (options : List Token) (tokens : List Token) : Bool :=
  tokens.head?.any (options.contains ·)

/-- The tokens of which one follows where no key or value of a block mapping is written. -/
def blockStops : List Token :=
  [.key, .value, .blockEnd]

/-- What separates the items between brackets. -/
def afterSeparator? (first : Bool) (tokens : List Token) : Option (List Token) :=
  if first then some tokens
  else
    match tokens with
    | .flowEntry :: rest => some rest
    | _ => none

mutual

/-- A node. Block collections are refused between brackets, and dashes without a collection of
their own only stand right below a key.
-/
def read? (handles : List String) (block dashes : Bool)
    : Nat → List Token → Option (Written × List Token)
  | 0, _ => none
  | fuel + 1, tokens =>
    match tokens with
    | .alias name :: rest => some (.alias name, rest)
    | tokens => do
      let (properties, rest) ← properties? handles tokens
      let anchor := properties.anchor
      match rest, block, dashes with
      | .blockEntry :: _, _, true =>
        let (items, rest) ← dashedItems? handles fuel [] rest
        return (.sequence anchor items, rest)
      | .scalar text plain :: rest, _, _ => return (.scalar anchor text plain, rest)
      | .flowSequenceStart :: rest, _, _ =>
        let (items, rest) ← flowItems? handles true fuel [] rest
        return (.sequence anchor items, rest)
      | .flowMappingStart :: rest, _, _ =>
        let (entries, rest) ← flowEntries? handles true fuel [] rest
        return (.mapping anchor entries, rest)
      | .blockSequenceStart :: rest, true, _ =>
        let (items, rest) ← blockItems? handles fuel [] rest
        return (.sequence anchor items, rest)
      | .blockMappingStart :: rest, true, _ =>
        let (entries, rest) ← blockEntries? handles fuel [] rest
        return (.mapping anchor entries, rest)
      | rest, _, _ => bare? properties rest

/-- A node, or an empty one if nothing is written before one of some tokens. -/
def readUnless? (handles : List String) (block dashes : Bool) (stops : List Token)
    : Nat → List Token → Option (Written × List Token)
  | 0, _ => none
  | fuel + 1, tokens =>
    if nextIn stops tokens then some (empty, tokens)
    else read? handles block dashes fuel tokens

/-- The items of a block sequence up to its end; `read` holds those before, last first. -/
def blockItems? (handles : List String)
    : Nat → List Written → List Token → Option (List Written × List Token)
  | 0, _, _ => none
  | fuel + 1, read, tokens =>
    match tokens with
    | .blockEntry :: rest => do
      let (item, rest) ← readUnless? handles true false [.blockEntry, .blockEnd] fuel rest
      blockItems? handles fuel (item :: read) rest
    | .blockEnd :: rest => some (read.reverse, rest)
    | _ => none

/-- The items after dashes that have no collection of their own. -/
def dashedItems? (handles : List String)
    : Nat → List Written → List Token → Option (List Written × List Token)
  | 0, _, _ => none
  | fuel + 1, read, tokens =>
    match tokens with
    | .blockEntry :: rest => do
      let (item, rest) ← readUnless? handles true false (.blockEntry :: blockStops) fuel rest
      dashedItems? handles fuel (item :: read) rest
    | rest => some (read.reverse, rest)

/-- The entries of a block mapping up to its end. -/
def blockEntries? (handles : List String)
    : Nat → List (Written × Written) → List Token
      → Option (List (Written × Written) × List Token)
  | 0, _, _ => none
  | fuel + 1, read, tokens =>
    match tokens with
    | .key :: rest => do
      let (key, rest) ← readUnless? handles true true blockStops fuel rest
      let (value, rest) ← value? handles true blockStops fuel rest
      blockEntries? handles fuel ((key, value) :: read) rest
    | .blockEnd :: rest => some (read.reverse, rest)
    | _ => none

/-- The value after a key, which need not be there. -/
def value? (handles : List String) (block : Bool) (stops : List Token)
    : Nat → List Token → Option (Written × List Token)
  | 0, _ => none
  | fuel + 1, tokens =>
    match tokens with
    | .value :: rest => readUnless? handles block block stops fuel rest
    | rest => some (empty, rest)

/-- The items between square brackets up to the closing one. -/
def flowItems? (handles : List String) (first : Bool)
    : Nat → List Written → List Token → Option (List Written × List Token)
  | 0, _, _ => none
  | fuel + 1, read, tokens =>
    match tokens with
    | .flowSequenceEnd :: rest => some (read.reverse, rest)
    | tokens => do
      match ← afterSeparator? first tokens with
      | .flowSequenceEnd :: rest => some (read.reverse, rest)
      | .key :: rest =>
        let (entry, rest) ← pair? handles fuel rest
        flowItems? handles false fuel (.mapping none [entry] :: read) rest
      | tokens =>
        let (item, rest) ← read? handles false false fuel tokens
        flowItems? handles false fuel (item :: read) rest

/-- The only entry of a mapping that is an item between square brackets. Where no key is written,
the token in its place is passed over.
-/
def pair? (handles : List String)
    : Nat → List Token → Option ((Written × Written) × List Token)
  | 0, _ => none
  | fuel + 1, tokens => do
    let (key, rest) ←
      readUnless? handles false false [.value, .flowEntry, .flowSequenceEnd] fuel tokens
    let rest := if nextIn [.value, .flowEntry, .flowSequenceEnd] tokens then rest.drop 1 else rest
    let (value, rest) ← value? handles false [.flowEntry, .flowSequenceEnd] fuel rest
    return ((key, value), rest)

/-- The entries between curly brackets up to the closing one. -/
def flowEntries? (handles : List String) (first : Bool)
    : Nat → List (Written × Written) → List Token
      → Option (List (Written × Written) × List Token)
  | 0, _, _ => none
  | fuel + 1, read, tokens =>
    match tokens with
    | .flowMappingEnd :: rest => some (read.reverse, rest)
    | tokens => do
      match ← afterSeparator? first tokens with
      | .flowMappingEnd :: rest => some (read.reverse, rest)
      | .key :: rest =>
        let (key, rest) ←
          readUnless? handles false false [.value, .flowEntry, .flowMappingEnd] fuel rest
        let (value, rest) ← value? handles false [.flowEntry, .flowMappingEnd] fuel rest
        flowEntries? handles false fuel ((key, value) :: read) rest
      | tokens =>
        let (key, rest) ← read? handles false false fuel tokens
        flowEntries? handles false fuel ((key, empty) :: read) rest

end

end PatternAudit.Yaml.Node
