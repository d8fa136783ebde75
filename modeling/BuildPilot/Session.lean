import BuildPilot.Console
import BuildPilot.Plan
import BuildPilot.Runner

/-!
# Sessions

A session is what has happened so far: the files, what was printed, the commands that were noted,
and the events, each a task with what came of it. Commands and changes of files are counted, and a
fault may be set for each operation on files. An operation that fails changes no files, apart from the
removal of a tree, which may fail on the way. A failure ends a run and leaves the session as it is.
-/

namespace BuildPilot

open FileSystem

/-- The operations on files that may be made to fail. -/
inductive Operation where
  | isFile
  | isOccupied
  | unlink
  | link
  | copy
  | removeTree
  | chmod
deriving DecidableEq, Repr

/-- The faults of the outside world: the cause for which an operation fails, by the number of
commands and changes before it. -/
abbrev Faults := (clock : Nat) → Operation → Option ErrorCause

/-- What comes of an operation at a time: its own result, unless a fault is set for it. -/
def Faults.attempt {α : Type} (faults : Faults) (clock : Nat) (op : Operation)
    (result : Except FileError α) : Except FileError α :=
  match faults clock op with
  | some cause => .error (.system cause .unknown)
  | none => result

/-- The computer that a run takes place on, apart from its files. -/
structure Machine where
  /-- The working directory. -/
  cwd : Location
  /-- The name of the operating system. -/
  os : String
  env : Environment
  /-- The number of processors, if it is known. -/
  processors : Option Nat
  /-- Whether files are published as copies and not as links. -/
  copies : Bool
  faults : Faults
  /-- The entries that are gone when the removal of a tree fails, by the number of commands and changes
  before it. -/
  goneAtFault : (clock : Nat) → Location → Bool := fun _ _ => false

/-- The place of a run on a machine with the given files. -/
def Machine.host (m : Machine) (fs : FileSystem) : Host := ⟨fs, m.cwd, m.os, m.env⟩

/-- A task that was undertaken, and what came of it. -/
structure Event where
  task : Task
  /-- The files when the task was begun. -/
  before : FileSystem
  /-- The files when the task had ended, well or badly. -/
  after : FileSystem
  /-- The failure that the task ended in; or else, if the task was a command, its outcome. -/
  result : Except Failure (Option Command.Outcome)

/-- What has happened so far. -/
structure Session where
  files : FileSystem
  /-- The number of commands and changes so far. -/
  clock : Nat := 0
  printed : List Printed := []
  noted : List Noted := []
  events : List Event := []

/-- Something that happens in a session and may fail. -/
abbrev Act := ExceptT Failure (StateM Session)

namespace Act

/-- What comes of something that happens in a session, and the session afterwards. -/
def runIn {α : Type} (act : Act α) (s : Session) : Except Failure α × Session :=
  (ExceptT.run act).run s

/-- Prints texts. -/
def print (ps : List Printed) : Act Unit := modify fun s => { s with printed := s.printed ++ ps }

/-- Undertakes a task by an act, and keeps the event. -/
def undertaking (t : Task) (act : Act (Option Command.Outcome)) : Act Unit := fun s =>
  let (result, after) := act.runIn s
  let event : Event := ⟨t, s.files, after.files, result⟩
  (result.map fun _ => (), { after with events := after.events ++ [event] })

/-- Hands a command to a runner; what it prints goes to the output. -/
def command (runner : Runner) (r : Request) : Act Command.Outcome := do
  let s ← get
  let reply := runner.run s.clock s.files r
  set { s with
    files := reply.files
    clock := s.clock + 1
    printed := s.printed ++ reply.lines.map (Printed.mk .out · true)
    noted := s.noted ++ reply.noted }
  match reply.result with
  | .ok o => return o
  | .error e => throw e

/-- Changes the files by an operation, unless a fault is set for it. An operation that fails leaves
what `left` makes of the files at that time. -/
def changeLeaving (left : (clock : Nat) → FileSystem → FileSystem) (faults : Faults) (op : Operation)
    (f : FileSystem → Except FileError FileSystem) : Act (Except FileError Unit) := do
  let s ← get
  match faults.attempt s.clock op (f s.files) with
  | .ok files =>
    set { s with files := files, clock := s.clock + 1 }
    return .ok ()
  | .error e =>
    set { s with files := left s.clock s.files, clock := s.clock + 1 }
    return .error e

/-- Changes the files by an operation that leaves them as they are if it fails. -/
def change (faults : Faults) (op : Operation) (f : FileSystem → Except FileError FileSystem) :
    Act (Except FileError Unit) :=
  changeLeaving (fun _ fs => fs) faults op f

/-- Looks at the files, unless a fault is set for it. -/
def look {α : Type} (faults : Faults) (op : Operation) (f : FileSystem → Except FileError α) :
    Act (Except FileError α) := do
  let s ← get
  return faults.attempt s.clock op (f s.files)

/-- A result that fails the run if it is an error. -/
def orFail {α : Type} (failure : FileError → Failure) : Except FileError α → Act α
  | .ok a => return a
  | .error e => throw (failure e)

/-- Asks something about the files. -/
def ask {α : Type} (f : FileSystem → Except FileError α) : Act α := do
  orFail .file (f (← get).files)

end Act

end BuildPilot
