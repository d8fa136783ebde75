import BuildPilot.Shell.Program
import BuildPilot.Shell.Script.Reading

/-!
# Finding commands

The program that a name stands for is looked for along the search path. A name may also be that of
a function, of a command that the shell carries out itself, or a reserved word.
-/

namespace BuildPilot.Shell

open FileSystem

namespace Run

/-- The paths of a command. -/
def pathsOf (name : String) : Run (List String) := do
  match (← get).valueOf? "PATH" with
  | some path => return candidates path name
  | none => return if name.toList.contains '/' then [name] else []

/-- The first of several paths that can be executed, or why there is none. -/
def firstOf (paths : List String) : Run (Except ErrorCause String) := do
  let s ← get
  let tries := paths.map fun path => (path, executable s.world.files s.cwd path)
  match tries.find? fun t => t.2.toOption.isSome with
  | some (path, _) => return .ok path
  | none =>
    let denied := tries.any fun t => t.2 matches .error .accessDenied
    return .error (if denied then .accessDenied else .noEntry)

/-- The path of the program that a command starts, or why there is none. -/
def programPath (name : String) : Run (Except ErrorCause String) := do firstOf (← pathsOf name)

/-- Complains that a command cannot be started. -/
def notStarted (front name : String) (cause : ErrorCause) : Run Unit :=
  let searched := !name.toList.contains '/'
  failWith (if searched || cause == .noEntry then 127 else 126)
    (front ++ name ++ ": " ++ if cause == .noEntry then "not found" else cause.text)

/-- Says what a command is. -/
def describe (brief : Bool) (name : String) : Run Unit := do
  let s ← get
  let known (what short : String) : Run Unit := do
    say ((if brief then short else name ++ " is " ++ what) ++ "\n")
    setStatus 0
  if Reader.reserved.contains name then known "a shell keyword" name
  else if (s.functions.lookup name).isSome then known "a shell function" name
  else if Builtin.special.contains name then known "a special shell builtin" name
  else if Builtin.isBuiltin name then known "a shell builtin" name
  else match ← programPath name with
    | .ok path => known path path
    | .error _ =>
      if !brief then say (name ++ ": not found\n")
      setStatus 127

end Run

end BuildPilot.Shell
