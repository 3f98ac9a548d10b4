import PatternAudit.Yaml.Node.Reader
import PatternAudit.Yaml.Token.Reader

/-! YAML documents: one node with its anchored nodes by number. A text holds at most one document;
directives may stand before it if a marker begins it.
-/

namespace PatternAudit.Yaml

/-- A document. -/
structure Document where
  root : Node Nat

namespace Document

/-- A document in which nothing is written. -/
def empty : Document where
  root := .empty

/-- The anchored node with a number, the last one if there are several. -/
def anchored? (document : Document) (number : Nat) : Option (Node Nat) :=
  document.root.anchored.reverse.lookup number

/-- The directives before a document: the handles that they declare, and what follows the marker
that begins the document. No version or handle is given twice, and the version is understood.
-/
def directives? (versioned : Bool) (handles : List String)
    : List Token → Option (List String × List Token)
  | .version understood :: rest =>
    if versioned || !understood then none else directives? true handles rest
  | .declaration handle :: rest =>
    if handles.contains handle then none else directives? versioned (handle :: handles) rest
  | .documentStart :: rest => some (handles, rest)
  | _ => none

/-- Whether a document begins with directives or a marker. -/
def beginsExplicitly : List Token → Bool
  | .version _ :: _ => true
  | .declaration _ :: _ => true
  | .documentStart :: _ => true
  | _ => false

/-- Whether a document that begins with a marker ends right there. -/
def endsAtOnce (tokens : List Token) : Bool :=
  tokens.isEmpty || beginsExplicitly tokens || tokens.head? == some .documentEnd

/-- The node of the first document among some tokens, and what follows it. -/
def first? (tokens : List Token) : Option (Node String × List Token) :=
  let fuel := 4 * tokens.length + 4
  if tokens.isEmpty then some (.empty, [])
  else if beginsExplicitly tokens then do
    let (handles, rest) ← directives? false [] tokens
    if endsAtOnce rest then return (.empty, rest)
    else Node.read? handles true false fuel rest
  else
    Node.read? [] true false fuel tokens

/-- The node of the only document among some tokens. -/
def written? (tokens : List Token) : Option (Node String) := do
  let (node, rest) ← first? tokens
  if rest.all (· == .documentEnd) then some node else none

/-- The only document of a text. An alias needs an anchor before it. -/
def parse? (text : String) : Option Document := do
  let node ← written? (← Token.ofText? text.toList)
  return { root := (← node.resolve []).2 }

end Document

end PatternAudit.Yaml
