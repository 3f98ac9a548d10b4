import PatternAudit.Files.Fault
import PatternAudit.Text.Utf8

/-! File trees in memory. A place in a tree is the list of names that leads to it from the root,
without links and without `.` and `..`.
-/

namespace PatternAudit.Files

/-- What opening and reading a file gives. -/
inductive Content where
  /-- The file cannot be opened. -/
  | unopenable (fault : Fault)
  /-- The bytes that can be read, and the failure that then ends reading, if one does. -/
  | stream (bytes : Bytes) (fault : Option Fault := none)
  deriving DecidableEq, Repr

/-- Why a directory is not listed whole. -/
inductive Hindrance where
  /-- It cannot be opened. -/
  | refused (fault : Fault)
  /-- Its listing gives so many entries and then breaks off. -/
  | broken (listed : Nat) (fault : Fault)
  deriving DecidableEq, Repr

/-- The failure that is reported. -/
def Hindrance.fault : Hindrance → Fault
  | refused fault => fault
  | broken _ fault => fault

/-- The place of a node below the root. -/
abbrev Location := List Bytes

/-- What a name stands for. -/
inductive Node where
  /-- A regular file. -/
  | file (content : Content)
  /-- A device, pipe or socket, which can be opened and read too. -/
  | special (content : Content)
  /-- A symbolic link. -/
  | link (target : Bytes)
  /-- A directory, which perhaps is not listed whole. -/
  | directory (hindrance : Option Hindrance) (entries : List (Bytes × Node))
  deriving Inhabited

namespace Node

/-- A directory without entries. -/
def emptyDirectory : Node :=
  .directory none []

/-- The node at a place, if there is one. -/
def at? : Node → Location → Option Node
  | node, [] => some node
  | .directory _ entries, name :: names => (entries.lookup name).bind (·.at? names)
  | _, _ :: _ => none

end Node

/-- Gives a name the new node, or none, in a listing; a new name comes last. -/
def setEntry (name : Bytes) (new : Option Node) : List (Bytes × Node) → List (Bytes × Node)
  | [] =>
    match new with
    | some node => [(name, node)]
    | none => []
  | (other, node) :: entries =>
    if other = name then
      match new with
      | some node => (name, node) :: entries
      | none => entries
    else
      (other, node) :: setEntry name new entries

/-- Puts a node at a place whose directory exists, or removes what is there; other places keep
what they have.
-/
def Node.set (new : Option Node) : Location → Node → Node
  | [], node => new.getD node
  | [name], .directory hindrance entries => .directory hindrance (setEntry name new entries)
  | name :: names, .directory hindrance entries =>
    match entries.lookup name with
    | some child => .directory hindrance (setEntry name (some (child.set new names)) entries)
    | none => .directory hindrance entries
  | _ :: _, node => node

end PatternAudit.Files
