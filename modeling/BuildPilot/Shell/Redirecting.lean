import BuildPilot.Shell.State

/-!
# Carrying redirections out

A redirection lets a descriptor stand for a file, for another descriptor, for a text, or for
nothing.
-/

namespace BuildPilot.Shell

open FileSystem Text

namespace Run

/-- Opens a file for reading and lets a descriptor stand for it. -/
def openFor (descriptor : Nat) (opened : Except ErrorCause (Nat × World)) (failure : String)
    (absent : String) : Run (Option String) := do
  match opened with
  | .ok (id, w) =>
    modify fun s => { s with world := w }
    setDescriptor descriptor (some id)
    return none
  | .error cause =>
    let text := if cause == .noEntry || cause == .notDirectory then absent else cause.text
    return some (failure ++ ": " ++ text)

/-- The descriptor that a path stands for. -/
def descriptorAt? : String → Option Nat
  | "/dev/stdin" => some 0
  | "/dev/stdout" => some 1
  | "/dev/stderr" => some 2
  | _ => none

/-- Carries a redirection to a text out; says what is wrong if that fails. -/
def redirectTo (r : Redirect) (target : String) : Run (Option String) := do
  let s ← get
  let duplicate (n : Nat) : Run (Option String) := do
    match s.descriptors.lookup n with
    | some id =>
      setDescriptor r.descriptor (some id)
      return none
    | none => return some s!"{n}: Bad file descriptor"
  match r.kind, descriptorAt? target with
  | .text, _ =>
    let id ← inWorld (World.addChannel · (.source (encode target)))
    setDescriptor r.descriptor (some id)
    return none
  | .duplicate, _ =>
    if target == "-" then
      setDescriptor r.descriptor none
      return none
    else match target.toNat? with
      | some n => duplicate n
      | none => giveUp ("Syntax error: " ++ SyntaxFault.descriptor.message)
  | _, some n => duplicate n
  | .read, none =>
    openFor r.descriptor (s.world.openRead (← sight true target)) ("cannot open " ++ target)
      "No such file"
  | kind, none =>
    openFor r.descriptor (s.world.openWrite (kind == .append) (← sight true target))
      ("cannot create " ++ target) "Directory nonexistent"

end Run

end BuildPilot.Shell
