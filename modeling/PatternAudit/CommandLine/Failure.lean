/-! Failures as they are shown to the user: the outermost first, then what caused it. -/

namespace PatternAudit.CommandLine

/-- A failure and its causes, from the nearest to the deepest. -/
structure Failure where
  top : String
  causes : List String := []
  deriving DecidableEq, Repr

namespace Failure

/-- Puts blanks before every line of a text but the first. -/
def indentRest (blanks : String) (text : String) : String :=
  .ofList (text.toList.flatMap fun char => if char = '\n' then '\n' :: blanks.toList else [char])

/-- The lines of the causes. Several causes are numbered. -/
def causeLines : List String → List String
  | [] => []
  | [cause] => ["    " ++ indentRest "    " cause]
  | causes =>
    causes.zipIdx.map fun (cause, index) =>
      let number := toString index
      let blanks := String.ofList (List.replicate (5 - number.length) ' ')
      blanks ++ number ++ ": " ++ indentRest "       " cause

/-- The whole text. -/
def text (failure : Failure) : String :=
  let lines := causeLines failure.causes
  let causes := if lines.isEmpty then "" else "\n\nCaused by:\n" ++ "\n".intercalate lines
  "Error: " ++ failure.top ++ causes ++ "\n"

end Failure

end PatternAudit.CommandLine
