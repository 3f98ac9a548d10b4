import PatternAudit.Text.Utf8

/-! Paths as written, their segments, and the keys that identify files. A key forgets how a
path was spelled: empty and `.` segments vanish, `..` stays, and what is not UTF-8 is decoded
lossily. Paths are byte strings and keys are texts, so segments are defined for both at once.
-/

namespace PatternAudit.Path

section Segments

variable {α : Type} [DecidableEq α]

/-- Cuts a list at every separator; there is always one piece more than there are separators. -/
def pieces (separator : α) : List α → List (List α)
  | [] => [[]]
  | item :: items =>
    if item = separator then [] :: pieces separator items
    else
      match pieces separator items with
      | [] => [[item]]
      | piece :: rest => (item :: piece) :: rest

/-- The pieces that name something: all but the empty ones and the single dot. -/
def segments (separator dot : α) (path : List α) : List (List α) :=
  (pieces separator path).filter fun piece => !(piece.isEmpty || piece == [dot])

/-- Whether a path starts at the root. -/
def startsWith (separator : α) (path : List α) : Bool :=
  path.head? == some separator

end Segments

/-- Puts a segment behind a key. A slash goes between them, unless the key is empty or ends in one.
-/
def pushSegment (key segment : List Char) : List Char :=
  if key.isEmpty || key.getLast? == some '/' then key ++ segment else key ++ '/' :: segment

/-- The key of a path that starts at the root or not and has the given segments, which are pushed
one by one.
-/
def keyOf (absolute : Bool) (segments : List (List Char)) : String :=
  let key := segments.foldl pushSegment (if absolute then ['/'] else [])
  .ofList (if key.isEmpty then ['.'] else key)

/-- The byte between segments. -/
def slash : UInt8 := 0x2F

/-- The byte that fills the segment which stands for the directory itself. -/
def dot : UInt8 := 0x2E

/-- The segments of a path. -/
def names (path : Bytes) : List Bytes :=
  segments slash dot path

/-- Whether a path starts at the root. -/
def isAbsolute (path : Bytes) : Bool :=
  startsWith slash path

/-- The key of a path. -/
def key (path : Bytes) : String :=
  keyOf (isAbsolute path) ((names path).map Utf8.decodeLossy)

/-- The key of a path that is given as text. -/
def textKey (path : String) : String :=
  keyOf (startsWith '/' path.toList) (segments '/' '.' path.toList)

/-- A path as it is shown to a reader. -/
def display (path : Bytes) : String :=
  .ofList (Utf8.decodeLossy path)

/-- The path of an entry in a directory; a directory that ends in a slash gets no second one. -/
def child (directory name : Bytes) : Bytes :=
  if directory.isEmpty || directory.getLast? == some slash then directory ++ name
  else directory ++ slash :: name

/-- What follows the last dot of a file name, unless nothing precedes that dot. -/
def extensionOf (name : Bytes) : Option Bytes :=
  let after := name.reverse.takeWhile (· != dot)
  match name.reverse.drop after.length with
  | [] => none
  | _ :: before => if before.isEmpty || name == [dot, dot] then none else some after.reverse

/-- The extension of the last segment. -/
def extension? (path : Bytes) : Option Bytes :=
  (names path).getLast?.bind extensionOf

end PatternAudit.Path
