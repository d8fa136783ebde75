import BuildPilot.Text.Quoted

/-!
# Errors of the operating system

The causes for which an operation on files or processes fails, with their numbers and texts, and
the error that names the path concerned.
-/

namespace BuildPilot

open Text

/-- Why an operation failed. -/
inductive ErrorCause where
  | notPermitted
  | noEntry
  | argumentsTooLong
  | unknownFormat
  | accessDenied
  | alreadyExists
  | notDirectory
  | isDirectory
  | noSpace
  | nameTooLong
  | notEmpty
  | linkLoop
deriving DecidableEq, Repr

namespace ErrorCause

/-- The number of a cause. -/
def code : ErrorCause → Nat
  | notPermitted => 1
  | noEntry => 2
  | argumentsTooLong => 7
  | unknownFormat => 8
  | accessDenied => 13
  | alreadyExists => 17
  | notDirectory => 20
  | isDirectory => 21
  | noSpace => 28
  | nameTooLong => 36
  | notEmpty => 39
  | linkLoop => 40

/-- The text of a cause. -/
def text : ErrorCause → String
  | notPermitted => "Operation not permitted"
  | noEntry => "No such file or directory"
  | argumentsTooLong => "Argument list too long"
  | unknownFormat => "Exec format error"
  | accessDenied => "Permission denied"
  | alreadyExists => "File exists"
  | notDirectory => "Not a directory"
  | isDirectory => "Is a directory"
  | noSpace => "No space left on device"
  | nameTooLong => "File name too long"
  | notEmpty => "Directory not empty"
  | linkLoop => "Too many levels of symbolic links"

/-- Whether a failed look at a path only means that nothing is there. -/
def meansAbsent : ErrorCause → Bool
  | noEntry | notDirectory | linkLoop => true
  | _ => false

end ErrorCause

/-- How the path of an error is written. -/
inductive ErrorSubject where
  /-- No path is known. -/
  | unknown
  /-- The path in quotes. -/
  | path (p : String)
  /-- The path in quotes, behind the name of its type. -/
  | typedPath (p : String)
deriving DecidableEq, Repr

/-- A failed operation on files. -/
inductive FileError where
  /-- The operating system gave a cause. -/
  | system (cause : ErrorCause) (subject : ErrorSubject)
  /-- A whole tree was to be removed through a symbolic link to it. -/
  | linkedTree
deriving DecidableEq, Repr

namespace FileError

/-- The error of an operation on a path. -/
def onPath (cause : ErrorCause) (p : String) : FileError := .system cause (.path p)

/-- The text of a subject behind the message. -/
def subjectText : ErrorSubject → String
  | .unknown => ""
  | .path p => ": " ++ quoted p
  | .typedPath p => ": PosixPath(" ++ quoted p ++ ")"

/-- The text of an error: number, cause and path. -/
def message : FileError → String
  | system cause subject => s!"[Errno {cause.code}] {cause.text}" ++ subjectText subject
  | linkedTree => "Cannot call rmtree on a symbolic link"

end FileError

end BuildPilot
