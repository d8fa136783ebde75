import BuildPilot.CommandLine.Arguments
import BuildPilot.Executor

/-!
# The program

A run of the program from its command line to its exit status. The request is checked first, then
the run is configured, and then the actions are carried out. Every failure that the program knows
becomes a message and an exit status.
-/

namespace BuildPilot.CommandLine

open FileSystem

/-- How the program ends. -/
structure Exit where
  status : Nat
  /-- Whether the command line itself decided it. -/
  early : Bool
deriving DecidableEq, Repr

/-- The status of a run that succeeded. -/
def statusOk : Nat := 0

/-- The status of a run in which a command or an operation failed. -/
def statusFailed : Nat := 1

/-- The status of a run that was asked for in a wrong way. -/
def statusUsage : Nat := 2

/-- The status of a run that was interrupted. -/
def statusInterrupted : Nat := 130

/-- The console of a run. -/
def consoleOf (a : Arguments) : Console :=
  ⟨if a.options.verbose then .debug else .info, a.dryRun⟩

/-- The configuration of a run. -/
def configure (m : Machine) (a : Arguments) : Act Configuration := do
  let host := m.host (← get).files
  if a.dropped.contains .config then
    match projectDirectory host a.options with
    | .error fault => throw (.path fault)
    | .ok _ => throw .droppedConfig
  match resolve host .builtin a.options none with
  | .error e => throw (.ofResolve e)
  | .ok c => if a.dropped.contains .jobs then throw .droppedJobs else return c

/-- Warns of the variables that the toolchain needs and the environment lacks. -/
def warnings (console : Console) (c : Configuration) : List Printed :=
  c.missingEnvironment.flatMap fun name => console.warning
    s!"Environment variable {name} is not set; toolchain '{c.toolchain.name}' needs it"

/-- What is said about a configuration before anything is done. -/
def introduce (console : Console) (c : Configuration) : Act Unit := do
  Act.print (warnings console c)
  match c.describe? with
  | some facts => Act.print (facts.flatMap fun (key, value) => console.debug s!"{key} = {value}")
  | none => throw .longNumber

/-- Carries out what a command line asks for. -/
def handle (m : Machine) (runner : Runner) (a : Arguments) : Act Unit := do
  let console := consoleOf a
  match Action.validate a.actions with
  | .error u => throw (.unknownActions u)
  | .ok actions =>
    let config ← configure m a
    introduce console config
    if a.dropped.contains .extra then throw .droppedExtra
    let runner := if a.dryRun then .recording else runner
    let executor : Executor := ⟨config, runner, console, a.dryRun, m⟩
    let extra := ExtraArgs.ofSwitches (a.extra.map some)
    discard (executor.execute (actions.map Action.name) extra)
    if !a.dryRun then Act.print (console.info "All build commands succeeded!")

/-- What is said about a failure, and the status that it leads to; other failures are not known. -/
def report? (console : Console) (e : Failure) : Option (List Printed × Nat) :=
  match e with
  | .config _ => some (console.error e.message, statusUsage)
  | .unknownActions _ => some (console.error e.message, statusUsage)
  | .command o =>
    some (console.error s!"Build command failed: {o.commandLine}"
      ++ (o.reason?.map console.error).getD [], statusFailed)
  | .file _ => some (console.error s!"Build step failed: {e.message}", statusFailed)
  | .interrupted => some (console.error "Interrupted", statusInterrupted)
  | _ => none

/-- Runs what a command line asks for to an exit status. -/
def runArguments (m : Machine) (runner : Runner) (a : Arguments) : Act Exit :=
  tryCatch (do handle m runner a; return ⟨statusOk, false⟩) fun e =>
    match report? (consoleOf a) e with
    | some (lines, status) => do
      Act.print lines
      return ⟨status, false⟩
    | none => throw e

/-- Runs the program. -/
def run (m : Machine) (runner : Runner) (args : List String) : Act Exit := do
  match Arguments.parse args with
  | .error .help =>
    Act.print [{ stream := .out, text := helpPage }]
    return ⟨statusOk, true⟩
  | .error (.fault f) =>
    Act.print [{ stream := .err, text := usageLine },
      { stream := .err, text := s!"{programName}: error: {f.message}\n" }]
    return ⟨statusUsage, true⟩
  | .ok a => runArguments m runner a

end BuildPilot.CommandLine
