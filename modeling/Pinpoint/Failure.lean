import Pinpoint.Text

/-!
# Failures

A failure says why an argument names no file or directory. It carries the argument, the fragment
of it that is to blame, and the cause.
-/

namespace Pinpoint

/-- Why an argument does not resolve (`ErrorKind`). -/
inductive FailureKind
  | invalidLine
  | invalidColumn
  | invalidLineAndColumn
  | notAFile
  | otherIOFailure
  | noMatch
  | emptyArgument
  | invalidPath
  deriving DecidableEq, Repr

namespace FailureKind

/-- The name of a kind in reports. -/
def name : FailureKind → Text
  | invalidLine => "invalid_line"
  | invalidColumn => "invalid_column"
  | invalidLineAndColumn => "invalid_line_and_column"
  | notAFile => "not_a_file"
  | otherIOFailure => "other_io_failure"
  | noMatch => "no_match"
  | emptyArgument => "empty_argument"
  | invalidPath => "invalid_path"

/-- All kinds. -/
def all : List FailureKind :=
  [invalidLine, invalidColumn, invalidLineAndColumn, notAFile, otherIOFailure, noMatch,
    emptyArgument, invalidPath]

/-- The kind with a name. -/
def ofName? (t : Text) : Option FailureKind := all.find? (·.name = t)

end FailureKind

/-- Why an argument does not resolve, with the texts that are to blame (`PathResolutionError`). -/
structure Failure where
  kind : FailureKind
  argument : Text
  fragment : Option Text := none
  cause : Option Text := none
  columnFragment : Option Text := none
  columnCause : Option Text := none
  deriving DecidableEq, Repr

namespace Failure

/-- A text of a message; one that is not known shows as `None`. -/
def shown (t : Option Text) : Text := t.getD "None".toList

/-- A text between double quotes, as it is. -/
def inQuotes (t : Text) : Text := "\"" ++ t ++ "\""

/-- "cannot parse FRAGMENT as WHAT number because of CAUSE". -/
def cannotParse (what : Text) (fragment cause : Option Text) : Text :=
  "cannot parse " ++ inQuotes (shown fragment) ++ " as " ++ what ++ " number because of " ++
    inQuotes (shown cause)

/-- The wording of a failure (`PathResolutionError._render`). -/
def message (f : Failure) : Text :=
  match f.kind with
  | .emptyArgument => "Path argument is empty"
  | .invalidPath => "Invalid path " ++ inQuotes f.argument ++ ": " ++ shown f.cause
  | .invalidLine =>
    "Invalid line in " ++ inQuotes f.argument ++ ", " ++ cannotParse "line" f.fragment f.cause
  | .invalidColumn =>
    "Invalid column in " ++ inQuotes f.argument ++ ", " ++
      cannotParse "column" f.fragment f.cause
  | .invalidLineAndColumn =>
    "Invalid line and column in " ++ inQuotes f.argument ++ ", " ++
      cannotParse "line" f.fragment f.cause ++ ", " ++
      cannotParse "column" f.columnFragment f.columnCause
  | .notAFile =>
    inQuotes (shown f.fragment) ++ " in the input argument " ++ inQuotes f.argument ++
      " is not a file"
  | .otherIOFailure =>
    "Invalid path " ++ inQuotes (shown f.fragment) ++ " in the input argument " ++
      inQuotes f.argument ++ ", because of " ++ inQuotes (shown f.cause)
  | .noMatch => inQuotes f.argument ++ " is not a file or directory"

end Failure

end Pinpoint
