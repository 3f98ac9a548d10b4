/-! Why an operation on a file fails. -/

namespace PatternAudit.Files

/-- A failure that the system reports for a path. -/
inductive Fault where
  | notFound
  | inputOutput
  | permissionDenied
  | fileExists
  | notADirectory
  | isADirectory
  | noSpace
  | nameTooLong
  | tooManyLinks
  /-- A path holds a NUL byte. -/
  | nulInPath
  /-- Text was wanted from content that is not UTF-8. -/
  | notText
  deriving DecidableEq, Repr

namespace Fault

/-- The wording of a failure, with its number where it has one. -/
def message : Fault → String
  | notFound => "No such file or directory (os error 2)"
  | inputOutput => "Input/output error (os error 5)"
  | permissionDenied => "Permission denied (os error 13)"
  | fileExists => "File exists (os error 17)"
  | notADirectory => "Not a directory (os error 20)"
  | isADirectory => "Is a directory (os error 21)"
  | noSpace => "No space left on device (os error 28)"
  | nameTooLong => "File name too long (os error 36)"
  | tooManyLinks => "Too many levels of symbolic links (os error 40)"
  | nulInPath => "file name contained an unexpected NUL byte"
  | notText => "stream did not contain valid UTF-8"

end Fault

end PatternAudit.Files
