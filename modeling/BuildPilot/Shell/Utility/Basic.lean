import BuildPilot.Shell.Builtin

/-!
# What programs have in common

Options in front of arguments, complaints under the name of the program, and the contents of files,
whole and by lines.
-/

namespace BuildPilot.Shell

open FileSystem Text

namespace Utility

/-- Complains under the name of a program and fails. -/
def fail (program text : String) : Run Unit := do
  Run.mutter (program ++ ": " ++ text ++ "\n")
  Run.setStatus 1

/-- Options of one letter at the front of arguments, and the arguments behind them; the options in
`valued` take a value. -/
def options (valued : String) : (bound : Nat) → List String → List (Char × String) × List String
  | 0, args => ([], args)
  | _, [] => ([], [])
  | bound + 1, arg :: args =>
    match arg.toList with
    | ['-', '-'] => ([], args)
    | '-' :: c :: cs =>
      if c == '-' then
        let (os, rest) := options valued bound args
        ((c, String.ofList cs) :: os, rest)
      else if valued.toList.contains c then
        if cs.isEmpty then
          let (os, rest) := options valued bound (args.drop 1)
          ((c, args.headD "") :: os, rest)
        else
          let (os, rest) := options valued bound args
          ((c, String.ofList cs) :: os, rest)
      else
        let (os, rest) := options valued bound
          (if cs.isEmpty then args else String.ofList ('-' :: cs) :: args)
        ((c, "") :: os, rest)
    | _ => ([], arg :: args)

/-- Options and the arguments behind them. -/
def split (valued : String) (args : List String) : List (Char × String) × List String :=
  options valued (args.length + (String.join args).length + 1) args

/-- Whether one of several options is given. -/
def given (os : List (Char × String)) (letters : String) : Bool :=
  os.any fun o => letters.toList.contains o.1

/-- The content of the file at a path text; a dash stands for the input. -/
def contentOf (program path : String) : Run (Option (List UInt8)) := do
  if path == "-" then return some (← Run.takeAll 0)
  match ← Run.sight true path with
  | .absent loc =>
    if loc = World.nullFile then return some []
    fail program s!"{path}: {ErrorCause.noEntry.text}"
    return none
  | sight =>
    match contentAt sight with
    | .ok content => return some content
    | .error cause =>
      fail program s!"{path}: {cause.text}"
      return none

/-- Does something with the content of each file, or of the input if no file is given. -/
def forContents (program : String) (paths : List String) (f : String → List UInt8 → Run Unit) :
    Run Unit := do
  Run.setStatus 0
  (if paths.isEmpty then ["-"] else paths).forM fun path => do
    match ← contentOf program path with
    | some content => f path content
    | none => return ()

/-- The lines of a content, without their line ends. -/
def linesOf (content : List UInt8) : List (List UInt8) :=
  let rec go (line : List UInt8) : List UInt8 → List (List UInt8)
    | [] => if line.isEmpty then [] else [line.reverse]
    | b :: bs => if b = 10 then line.reverse :: go [] bs else go (b :: line) bs
  go [] content

/-- Lines as a content. -/
def contentOfLines (lines : List (List UInt8)) : List UInt8 := lines.flatMap fun l => l ++ [10]

end Utility

end BuildPilot.Shell
