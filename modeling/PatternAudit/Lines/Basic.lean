import PatternAudit.Text.Utf8

/-! Lines of a content that arrives in chunks. A line ends right after a newline; it is handed on
without the newline and without one carriage return before that.
-/

namespace PatternAudit

/-- The chunks in which a content is handed out, and the failure that then ends reading, if one
does.
-/
structure Reader (Fault : Type) where
  chunks : List Bytes
  fault : Option Fault := none

namespace Lines

/-- The byte that ends a line. -/
def newline : UInt8 := 0x0A

/-- The byte that may stand before it. -/
def carriageReturn : UInt8 := 0x0D

/-- Takes one given byte off the end, if it is there. -/
def withoutLast (byte : UInt8) (line : Bytes) : Bytes :=
  if line.getLast? = some byte then line.dropLast else line

/-- A piece without its terminator. -/
def strip (piece : Bytes) : Bytes :=
  withoutLast carriageReturn (withoutLast newline piece)

/-- A content, cut right after each newline. -/
def pieces : Bytes → List Bytes
  | [] => []
  | byte :: bytes =>
    if byte = newline then [byte] :: pieces bytes
    else
      match pieces bytes with
      | [] => [[byte]]
      | piece :: rest => (byte :: piece) :: rest

/-- The pieces that a chunk completes and what is then pending, if `pending` is what the current
piece has so far, last byte first.
-/
def cut : Bytes → Bytes → List Bytes × Bytes
  | pending, [] => ([], pending)
  | pending, byte :: bytes =>
    if byte = newline then
      let (complete, pending') := cut [] bytes
      ((byte :: pending).reverse :: complete, pending')
    else
      cut (byte :: pending) bytes

/-- The pieces of chunks. What is pending at the end is a piece too, unless reading fails there. -/
def collect (failing : Bool) : Bytes → List Bytes → List Bytes
  | pending, [] => if failing || pending.isEmpty then [] else [pending.reverse]
  | pending, chunk :: chunks =>
    let (complete, pending) := cut pending chunk
    complete ++ collect failing pending chunks

end Lines

/-- The lines that a reader gives. -/
def Reader.lines {Fault : Type} (reader : Reader Fault) : List Bytes :=
  (Lines.collect reader.fault.isSome [] reader.chunks).map Lines.strip

/-- A content in the chunks that a buffer of `size + 1` bytes holds. -/
def Reader.buffered (size : Nat) : Bytes → List Bytes
  | [] => []
  | byte :: bytes => (byte :: bytes.take size) :: buffered size (bytes.drop size)
termination_by bytes => bytes.length
decreasing_by
  rw [List.length_drop, List.length_cons]
  omega

end PatternAudit
