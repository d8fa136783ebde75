import BuildPilot.Environment
import BuildPilot.FileSystem.Walk
import BuildPilot.Shell.Script
import BuildPilot.Shell.World

/-!
# The state of a shell

What a shell knows: its name and arguments, variables, functions, open descriptors, its directory
and the status of the last command, and the world that it shares with the programs that it starts.

A script may be left before its end: by a loop that is broken off, a function that returns, a shell
that exits, or a signal.
-/

namespace BuildPilot.Shell

open FileSystem Text

/-- A variable of a shell. -/
structure Variable where
  /-- Its value, if it has one. -/
  value : Option String
  /-- Whether programs get to see it. -/
  exported : Bool
  /-- Whether it can no longer change. -/
  fixed : Bool

/-- How a shell is set. -/
structure Settings where
  /-- Exit when a command fails that is not tested. -/
  exitOnFailure : Bool := false
  /-- Refuse parameters without a value. -/
  refuseUnset : Bool := false
  /-- Leave patterns for file names alone. -/
  noPatterns : Bool := false
  /-- Print commands before they are run. -/
  traced : Bool := false

/-- The state of a shell. -/
structure State where
  world : World
  name : String
  arguments : List String
  bindings : List (String × Variable)
  functions : List (String × Script)
  /-- What the variables of the function at hand were before it; outside functions there is
  nothing to remember. -/
  locals : Option (List (String × Option Variable))
  /-- The number of loops around the command at hand. -/
  loops : Nat
  /-- The channels that the descriptors stand for. -/
  descriptors : List (Nat × Nat)
  cwd : Location
  /-- The directory as the shell names it. -/
  directory : String
  status : Nat
  line : Nat
  settings : Settings
  /-- What is run on signals and on the end of the shell, by name. -/
  traps : List (String × String)
  /-- The number of the shell among the programs. -/
  program : Nat
  /-- The number of the last command that is not waited for. -/
  background : Option Nat

/-- Why a script is left before its end. -/
inductive Escape where
  /-- So many loops are broken off. -/
  | leaveLoops (loops : Nat)
  /-- So many loops but one are broken off, and that one goes on. -/
  | nextRound (loops : Nat)
  /-- A function returns. -/
  | returned
  /-- The shell exits. -/
  | exit
  /-- A signal ends a program. -/
  | killed (program : Nat) (signal : Nat)

/-- Something that a shell does. -/
abbrev Run := ExceptT Escape (StateM State)

namespace Run

/-- Does something and gives what became of it. -/
def attempt (r : Run Unit) : Run (Option Escape) := fun s =>
  match r s with
  | (.ok (), s) => (.ok none, s)
  | (.error e, s) => (.ok (some e), s)

/-- Sets the status of the last command. -/
def setStatus (n : Nat) : Run Unit := modify fun s => { s with status := n }

/-- Changes the world. -/
def inWorld {α : Type} (f : World → α × World) : Run α :=
  modifyGet fun s => let (a, w) := f s.world; (a, { s with world := w })

/-- Writes octets to a descriptor. -/
def write (descriptor : Nat) (octets : List UInt8) : Run Unit := modify fun s =>
  match s.descriptors.lookup descriptor with
  | some id => { s with world := s.world.write id octets }
  | none => s

/-- Writes a text to the output. -/
def say (text : String) : Run Unit := write 1 (encode text)

/-- Writes a text to the error output. -/
def mutter (text : String) : Run Unit := write 2 (encode text)

/-- Complains about something, with the name of the shell and the line in front. -/
def complain (text : String) : Run Unit := do
  let s ← get
  mutter s!"{s.name}: {s.line}: {text}\n"

/-- Complains and sets a status. -/
def failWith (status : Nat) (text : String) : Run Unit := do
  complain text
  setStatus status

/-- Complains and gives the shell up. -/
def giveUp {α : Type} (text : String) : Run α := do
  failWith 2 text
  throw .exit

/-- What waits to be read at a descriptor. -/
def waiting (descriptor : Nat) : Run (List UInt8) := do
  let s ← get
  match s.descriptors.lookup descriptor with
  | some id => return s.world.waiting id
  | none => return []

/-- Takes so many octets from a descriptor. -/
def consume (descriptor n : Nat) : Run Unit := modify fun s =>
  match s.descriptors.lookup descriptor with
  | some id => { s with world := s.world.consume id n }
  | none => s

/-- Takes everything from a descriptor. -/
def takeAll (descriptor : Nat) : Run (List UInt8) := do
  let octets ← waiting descriptor
  consume descriptor octets.length
  return octets

/-- Lets a descriptor stand for a channel, or for none. -/
def setDescriptor (descriptor : Nat) (id : Option Nat) : Run Unit := modify fun s =>
  let others := s.descriptors.filter (·.1 != descriptor)
  { s with descriptors := match id with
    | some id => (descriptor, id) :: others
    | none => others }

/-- Changes the files by an operation that may fail. -/
def change (f : FileSystem → Change) : Run (Option ErrorCause) := modifyGet fun s =>
  match f s.world.files with
  | .ok files => (none, { s with world := { s.world with files := files } })
  | .error cause => (some cause, s)

/-- What a path text leads to. -/
def sight (follow : Bool) (path : String) : Run Sight := do
  let s ← get
  return s.world.files.findText s.cwd follow path

end Run

namespace State

/-- The value of a variable. -/
def valueOf? (s : State) (name : String) : Option String :=
  (s.bindings.lookup name).bind Variable.value

/-- The letters of the settings. -/
def letters (s : State) : String :=
  (if s.settings.exitOnFailure then "e" else "") ++ (if s.settings.noPatterns then "f" else "")
    ++ (if s.settings.refuseUnset then "u" else "") ++ if s.settings.traced then "x" else ""

/-- The value of a parameter that is a single text. -/
def parameter? (s : State) (name : String) : Option String :=
  match name with
  | "#" => some (toString s.arguments.length)
  | "?" => some (toString s.status)
  | "-" => some s.letters
  | "$" => some (toString s.program)
  | "!" => s.background.map toString
  | "0" => some s.name
  | _ =>
    match name.toNat? with
    | some n => s.arguments[n - 1]?
    | none => s.valueOf? name

/-- The environment that a program gets to see. -/
def environment (s : State) : Environment :=
  ⟨s.bindings.filterMap fun (name, v) =>
    if v.exported then v.value.map fun value => (name, value) else none⟩

/-- The characters that separate fields. -/
def separators (s : State) : String := (s.valueOf? "IFS").getD " \t\n"

end State

namespace Run

/-- Gives a variable a value; a fixed one makes the shell give up. -/
def assign (name value : String) : Run Unit := do
  let s ← get
  match s.bindings.lookup name with
  | some ⟨_, _, true⟩ => giveUp s!"{name}: is read only"
  | some v =>
    let changed := s.bindings.map fun p =>
      if p.1 == name then (name, { v with value := some value }) else p
    set { s with bindings := changed }
  | none =>
    let more := s.bindings ++ [(name, ⟨some value, false, false⟩)]
    set { s with bindings := more }

/-- Changes what is known about a variable. -/
def mark (name : String) (f : Variable → Variable) : Run Unit := modify fun s =>
  match s.bindings.lookup name with
  | some _ =>
    { s with bindings := s.bindings.map fun p => if p.1 == name then (name, f p.2) else p }
  | none => { s with bindings := s.bindings ++ [(name, f ⟨none, false, false⟩)] }

/-- Removes a variable. -/
def unset (name : String) : Run Unit := do
  let s ← get
  match s.bindings.lookup name with
  | some ⟨_, _, true⟩ => giveUp s!"unset: {name}: is read only"
  | _ =>
    let others := s.bindings.filter (·.1 != name)
    set { s with bindings := others }

/-- Does something in a program of its own, and gives how it ended. Only the world stays changed. -/
def inChild (r : Run Unit) : Run (Option Escape × Nat) := fun s =>
  let (e, t) := r s
  let escape := match e with
    | .ok () => none
    | .error e => some e
  (.ok (escape, t.status % 256), { s with world := t.world })

/-- The number of a new program. -/
def newProgram : Run Nat := inWorld fun w =>
  (w.lastProgram + 1, { w with lastProgram := w.lastProgram + 1 })

end Run

end BuildPilot.Shell
