import BuildPilot.Session

/-!
# Executing actions

The requested actions are carried out in order, and the first failure ends the run. A dry run prints
the commands and hands them to a runner that only notes them; it changes no files.

Publishing the database of compile commands never fails a run: what goes wrong is a warning.
-/

namespace BuildPilot

open FileSystem

/-- What is asked of a runner for a step. -/
def Step.request (step : Step) : Request :=
  ⟨step.command, some step.cwd, true, some step.description⟩

/-- Everything that the execution of actions depends on. -/
structure Executor where
  config : Configuration
  runner : Runner
  console : Console
  dryRun : Bool
  machine : Machine

namespace Executor

/-! ## Commands -/

/-- Announces a step. -/
def announce (x : Executor) (step : Step) : List Printed :=
  let command := Command.format step.command
  let detail := s!"{step.description} (cwd={step.cwd})"
  if x.dryRun then x.console.dry (detail ++ " " ++ command)
  else x.console.info ("-> " ++ command) ++ x.console.debug detail

/-! ## Removing the output -/

/-- What is left of the output directory when its removal fails. -/
def leftOutput (x : Executor) (clock : Nat) (fs : FileSystem) : FileSystem :=
  fs.removePart x.machine.cwd x.config.outputRoot (x.machine.goneAtFault clock)

/-- Removes the output directory, if there is one. -/
def removeOutput (x : Executor) : Act Unit := do
  let root := x.config.outputRoot
  if (← Act.ask fun fs => fs.status x.machine.cwd root).isNone then
    Act.print (x.console.debug s!"Nothing to remove at {root}")
  else
    Act.print (x.console.info s!"Removing {root}")
    let result ← Act.changeLeaving x.leftOutput x.machine.faults .removeTree fun fs =>
      fs.removeTree x.machine.cwd root
    Act.orFail .file result

/-! ## Permissions -/

/-- The mode of the file at a path, links followed, if a regular file is there. -/
def fileMode? (fs : FileSystem) (cwd : Location) (p : Path) : Except FileError (Option Nat) := do
  match ← fs.status cwd p with
  | some (_, .file mode _) => return some mode
  | _ => return none

/-- The paths in the build directory that match a pattern, in order. -/
def builtFiles (x : Executor) (pattern : String) : Act (List Path) := do
  match selectorsOf pattern with
  | .error fault => throw (.pattern fault)
  | .ok selectors => Act.ask fun fs => fs.search x.machine.cwd selectors x.config.buildDir

/-- Makes the file at a path executable; says whether there is one. -/
def makeExecutable (x : Executor) (p : Path) : Act Bool := do
  match ← Act.ask fun fs => fileMode? fs x.machine.cwd p with
  | none => return false
  | some mode =>
    let result ← Act.change x.machine.faults .chmod fun fs =>
      (fs.chmod x.machine.cwd p (mode ||| executeBits)).mapError (.onPath · p.toString)
    Act.orFail .file result
    return true

/-- Makes the built files that match a pattern executable, and gives their paths. -/
def fixPattern (x : Executor) (pattern : String) : Act (List Path) := do
  (← x.builtFiles pattern).filterM x.makeExecutable

/-- Makes the built files executable, pattern by pattern, and gives their paths. -/
def fixPermissions (x : Executor) : Act (List Path) := do
  let dir := x.config.buildDir
  match ← Act.ask fun fs => fs.directoryAt x.machine.cwd dir with
  | none => return []
  | some _ =>
    let fixed ← x.config.toolchain.executablePatterns.mapM x.fixPattern
    let fixed := fixed.flatten
    Act.print (x.console.debug s!"Marked {fixed.length} file(s) executable under {dir}")
    return fixed

/-! ## Publishing -/

/-- Whether anything is at a path: a link, or an entry that links lead to. -/
def isOccupied (fs : FileSystem) (cwd : Location) (p : Path) : Except FileError Bool :=
  match fs.find cwd false p with
  | .entry _ (.link _) => .ok true
  | _ => return (← fs.status cwd p).isSome

/-- Links or copies the database to its published place, which is free. -/
def placeDatabase (x : Executor) : Act (Except FileError Unit) := do
  let source := x.config.database
  let target := x.config.publishedDatabase
  let copy := Act.change x.machine.faults .copy fun fs => fs.copy x.machine.cwd source target
  if x.machine.copies then copy
  else
    let linked ← Act.change x.machine.faults .link fun fs =>
      (fs.makeLink x.machine.cwd target source.toString).mapError fun cause =>
        .onPath cause target.toString
    match linked with
    | .ok _ => return .ok ()
    | .error _ => copy

/-- Frees the published place. -/
def freeTarget (x : Executor) : Act (Except FileError Unit) := do
  let target := x.config.publishedDatabase
  let occupied ← Act.look x.machine.faults .isOccupied fun fs => isOccupied fs x.machine.cwd target
  match occupied with
  | .error e => return .error e
  | .ok false => return .ok ()
  | .ok true =>
    Act.change x.machine.faults .unlink fun fs =>
      (fs.unlink x.machine.cwd target).mapError fun cause => .onPath cause target.toString

/-- Puts the database in its published place; says whether there is one. -/
def replaceDatabase (x : Executor) : Act (Except FileError Bool) := do
  let there ← Act.look x.machine.faults .isFile fun fs =>
    Document.isFileAt fs x.machine.cwd x.config.database
  match there with
  | .error e => return .error e
  | .ok false => return .ok false
  | .ok true =>
    match ← x.freeTarget with
    | .error e => return .error e
    | .ok _ => return (← x.placeDatabase).map fun _ => true

/-- Publishes the database in the project directory, and gives its place. -/
def publish (x : Executor) : Act (Option Path) := do
  let source := x.config.database
  let target := x.config.publishedDatabase
  match ← x.replaceDatabase with
  | .error e =>
    Act.print (x.console.warning
      s!"Could not publish {databaseName} to {target.parent}: {e.message}")
    return none
  | .ok false =>
    Act.print (x.console.warning s!"No compile-command database at {source}")
    return none
  | .ok true =>
    Act.print (x.console.debug s!"Published {source} -> {target}")
    return some target

/-! ## Tasks -/

/-- What is done for a task; a command has an outcome. -/
def operation (x : Executor) : Task → Act (Option Command.Outcome)
  | .run step => do return some (← Act.command x.runner step.request)
  | .fixPermissions => do
    discard x.fixPermissions
    return none
  | .publish => do
    discard x.publish
    return none
  | .removeOutput => do
    x.removeOutput
    return none
  | .giveUp => throw .longNumber

/-- Undertakes a task. -/
def undertake (x : Executor) (t : Task) : Act Unit := Act.undertaking t (x.operation t)

/-! ## Actions -/

/-- Announces a step and runs its command. -/
def runStep (x : Executor) (step : Step) : Act Unit := do
  Act.print (x.announce step)
  x.undertake (.run step)

/-- Runs the commands of an action by itself. -/
def runSteps (x : Executor) (extra : ExtraArgs) (a : Action) : Act Unit :=
  match x.config.ownSteps? extra x.machine.processors a with
  | some steps => steps.forM x.runStep
  | none => x.undertake .giveUp

/-- Does what belongs to a build after its commands; a dry run does nothing here. -/
def afterBuild (x : Executor) : Act Unit :=
  if x.dryRun then return
  else do
    if x.config.toolchain.needsPermissionFix then x.undertake .fixPermissions
    x.undertake .publish

/-- Generates the build files and builds. -/
def build (x : Executor) (extra : ExtraArgs) : Act Unit := do
  x.runSteps extra .build
  x.afterBuild

/-- Builds, the build tool cleaning first. -/
def rebuild (x : Executor) (extra : ExtraArgs) : Act Unit := do
  x.runSteps extra .rebuild
  x.afterBuild

/-- Removes the output directory; a dry run only says so. -/
def cleanall (x : Executor) : Act Unit :=
  if x.dryRun then Act.print (x.console.dry s!"remove {x.config.outputRoot}")
  else x.undertake .removeOutput

/-- Builds and runs the tests. -/
def test (x : Executor) (extra : ExtraArgs) : Act Unit := do
  x.build extra
  x.runSteps extra .test

/-- Builds and analyses the code. -/
def analyze (x : Executor) (extra : ExtraArgs) : Act Unit := do
  x.build extra
  x.runSteps extra .analyze

/-- Carries out an action. -/
def carryOut (x : Executor) (extra : ExtraArgs) : Action → Act Unit
  | .build => x.build extra
  | .rebuild => x.rebuild extra
  | .clean => x.runSteps extra .clean
  | .cleanall => x.cleanall
  | .test => x.test extra
  | .retest => x.runSteps extra .retest
  | .analyze => x.analyze extra

/-- Announces an action and carries it out. -/
def runAction (x : Executor) (extra : ExtraArgs) (a : Action) : Act Unit := do
  Act.print (x.console.debug s!"Running action '{a.name}'")
  x.carryOut extra a

/-- Carries out the actions of a request, and gives them. -/
def execute (x : Executor) (names : List String) (extra : ExtraArgs) : Act (List Action) := do
  match Action.validate names with
  | .error u => throw (.unknownActions u)
  | .ok actions =>
    actions.forM (x.runAction extra)
    return actions

end Executor

end BuildPilot
