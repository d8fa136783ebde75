import BuildPilot.Runner
import BuildPilot.Shell.Run

/-!
# Starting commands

A command is started in a directory: its program is looked for along the search path, gets the
command's arguments and the environment, reads nothing, and writes its output and its errors to one
place.
-/

namespace BuildPilot.Shell

open FileSystem

/-- The number of the first program that is started. -/
def firstProgram : Nat := 4242

/-- How often loops may be repeated before a program is ended. -/
def patience : Nat := 200000

/-- The world of a command that is about to be started. -/
def World.initial (fs : FileSystem) : World := ⟨fs, #[.nowhere, .outlet], [], firstProgram⟩

/-- The state in which a program is started. -/
def State.initial (fs : FileSystem) (cwd : Location) (env : Environment) : State where
  world := .initial fs
  name := ""
  arguments := []
  bindings := env.bindings.map fun (name, value) => (name, ⟨some value, true, false⟩)
  functions := []
  locals := none
  loops := 0
  descriptors := [(0, 0), (1, 1), (2, 1)]
  cwd := cwd
  directory := "/" ++ "/".intercalate cwd
  status := 0
  line := 1
  settings := {}
  traps := []
  program := firstProgram
  background := none

/-- What became of a program: its exit status, or the negated number of the signal that ended
it. -/
def endOf (ended : Option Escape × Nat) : Int :=
  match ended with
  | (some (.killed _ n), _) => -n
  | (_, status) => status

/-- Runs a program to its end. -/
def launch (fs : FileSystem) (cwd : Location) (env : Environment) (start : Start) :
    Runner.Launch :=
  let (e, s) := Run.runStart patience start (State.initial fs cwd env)
  let escape := match e with
    | .ok () => none
    | .error e => some e
  .ran s.world.printed.reverse (endOf (escape, s.status % 256)) s.world.files

/-- The directory in which a command is to run. -/
def directoryFor (fs : FileSystem) (cwd : Location) : Option Path → Except ErrorCause Location
  | none => .ok cwd
  | some p =>
    match fs.find cwd true p with
    | .entry l .dir => .ok l
    | .entry _ _ => .error .notDirectory
    | .absent _ => .error .noEntry
    | .failed cause => .error cause

/-- Whether a text holds a NUL character. -/
def holdsNul (s : String) : Bool := s.toList.contains '\x00'

/-- The number of octets from which on an argument is too long. -/
def maxArgumentOctets : Nat := 131072

/-- What is started for a command, unless one of its words is too long. -/
def startOfCommand (fs : FileSystem) (cwd : Location) (env : Environment) (name : String)
    (arguments : List String) : Except ErrorCause Start := do
  let start ← startOf fs cwd name arguments (candidates ((env.get? "PATH").getD usualPath) name)
  if (name :: arguments).any fun w => maxArgumentOctets ≤ w.utf8ByteSize then
    throw .argumentsTooLong
  return start

/-- A command that cannot be started for a cause that concerns a file. -/
def refusal (cause : ErrorCause) (file : String) : Runner.Launch := .refused cause.text (some file)

/-- Starts commands from a working directory in an environment. -/
def launcher (cwd : Location) (env : Environment) : Runner.Launcher := fun _ fs command dir =>
  match command with
  | [] => .malformed .empty
  | name :: arguments =>
    if command.any holdsNul || (dir.map FileSystem.hasNul).getD false then .malformed .holdsNul
    else match directoryFor fs cwd dir with
      | .error cause => refusal cause ((dir.map Path.toString).getD "")
      | .ok loc =>
        match startOfCommand fs loc env name arguments with
        | .error cause => refusal cause name
        | .ok start => launch fs loc env start

end BuildPilot.Shell
