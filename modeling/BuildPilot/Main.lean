import BuildPilot.CommandLine.Program
import BuildPilot.Shell.Launch

/-!
# The command

The program as a command. It works on files in memory: at the start there are the working directory,
with the directories above it, and the programs that scripts of the shell may start. What is printed
on the way appears when the run has ended.
-/

namespace BuildPilot

open FileSystem Text

/-- The variables that a run may look at. -/
def lookedAt : List String :=
  ["PATH", "HOME", "PWD"] ++ Registry.builtin.toolchains.flatMap Toolchain.crossEnvironment

/-- The environment of the command. -/
def inheritedEnvironment : IO Environment := do
  let bindings ← lookedAt.filterMapM fun name => do
    return (← IO.getEnv name).map fun value => (name, value)
  return ⟨bindings⟩

/-- The location of a directory that is given by an absolute path. -/
def locationOf (path : String) : Location := (Path.ofString path).parts

/-- The files at the start of a run in a directory. -/
def filesFor (cwd : Location) : FileSystem :=
  let binaries : Location := ["usr", "bin"]
  let make (fs : FileSystem) (loc : Location) := ((fs.makeDirectories [] loc).toOption).getD fs
  Shell.install (make (make .empty binaries) cwd) binaries

/-- The machine of a run in a directory. -/
def machineFor (cwd : Location) (env : Environment) : Machine where
  cwd := cwd
  os := "Linux"
  env := env
  processors := none
  copies := false
  faults := fun _ _ => none

/-- Writes what was printed to the streams of the command. -/
def Printed.write (p : Printed) : IO Unit := do
  let stream ← match p.stream with
    | .out => IO.getStdout
    | .err => IO.getStderr
  stream.putStr p.text

/-- Runs the program on its arguments and gives the status of the command. A failure that the
program does not know is told as it is. -/
def runCommand (args : List String) : IO UInt32 := do
  let env ← inheritedEnvironment
  let cwd := locationOf (env.getD "PWD")
  let runner := Runner.launching (Shell.launcher cwd env)
  let (result, after) :=
    (CommandLine.run (machineFor cwd env) runner args).runIn { files := filesFor cwd }
  after.printed.forM Printed.write
  match result with
  | .ok e => return UInt32.ofNat e.status
  | .error e =>
    ({ stream := .err, text := e.message ++ "\n" } : Printed).write
    return UInt32.ofNat CommandLine.statusFailed

end BuildPilot

/-- The command. -/
def main (args : List String) : IO UInt32 := BuildPilot.runCommand args
