import BuildPilot.Shell.Signal
import BuildPilot.Shell.State

/-!
# What surrounds a command

Variables that hold for one command or one function only, the loops and functions that a command
stands in, and what follows from how a command or a program has ended.
-/

namespace BuildPilot.Shell

open Text

namespace Run

/-- Ends the program because it has taken too long. -/
def timeOut {α : Type} : Run α := do throw (.killed (← get).program timeLimit)

/-- Goes on behind a program that has ended. A signal that was meant for another program than
`child` is passed on. -/
def settle (child : Option Nat) (ended : Option Escape × Nat) : Run Unit := do
  match ended with
  | (some (.killed p n), _) =>
    if child == some p then
      let text := signalText n
      if !text.isEmpty then mutter (text ++ "\n")
      setStatus (128 + n)
    else throw (.killed p n)
  | (_, status) => setStatus status

/-- Exits if a command has failed that is not tested, and the shell is set to do so. -/
def checkFailure (tested : Bool) : Run Unit := do
  let s ← get
  if s.status != 0 && !tested && s.settings.exitOnFailure then throw .exit

/-- Variables of which some are again what they were before. -/
def restored (bindings : List (String × Variable)) (before : List (String × Option Variable)) :
    List (String × Variable) :=
  before.foldl (fun vs (name, old) =>
    vs.filter (fun v => v.1 != name) ++ (old.map fun v => (name, v)).toList) bindings

/-- Does something after which some variables are again what they were before. -/
def restoring (names : List String) (r : Run Unit) : Run Unit := do
  let s ← get
  let before := names.map fun name => (name, s.bindings.lookup name)
  let escape ← attempt r
  modify fun s => { s with bindings := restored s.bindings before }
  match escape with
  | some e => throw e
  | none => return ()

/-- Makes variables local to the function at hand. -/
def declareLocal : List String → Run Unit
  | [] => setStatus 0
  | arg :: args => do
    let (name, value) := match cutAtFirst '=' arg.toList with
      | some (name, value) => (String.ofList name, some (String.ofList value))
      | none => (arg, none)
    match (← get).locals with
    | none => giveUp "local: not in a function"
    | some before =>
      if (before.lookup name).isNone then
        modify fun s => { s with locals := some ((name, s.bindings.lookup name) :: before) }
    match value with
    | some value => assign name value
    | none => pure ()
    declareLocal args

/-- Calls a function: its arguments and local variables are its own. -/
def asFunction (arguments : List String) (body : Run Unit) : Run Unit := do
  let before ← get
  modify fun s => { s with arguments := arguments, locals := some [], loops := 0 }
  let escape ← attempt body
  modify fun s => { s with
    arguments := before.arguments
    locals := before.locals
    loops := before.loops
    bindings := restored s.bindings (s.locals.getD []) }
  match escape with
  | none | some .returned => return ()
  | some e => throw e

/-- Does something inside a loop. -/
def inLoop (r : Run Unit) : Run Unit := do
  let loops := (← get).loops
  modify fun s => { s with loops := loops + 1 }
  let escape ← attempt r
  modify fun s => { s with loops := loops }
  match escape with
  | some e => throw e
  | none => return ()

end Run

end BuildPilot.Shell
