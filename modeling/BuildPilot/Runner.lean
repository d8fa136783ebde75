import BuildPilot.Failure
import BuildPilot.Text.LineStream

/-!
# Runners

A runner carries out a command and replies with what was printed meanwhile, the files afterwards,
and the outcome. A recording runner does nothing but note the command; a launching runner starts a
process and hands its output on line by line.
-/

namespace BuildPilot

open FileSystem Text

/-- A command handed to a runner. -/
structure Request where
  command : List String
  /-- Where the command runs; by default in the working directory. -/
  cwd : Option Path := none
  /-- Whether a failed command is a failure of the run. -/
  check : Bool := true
  note : Option String := none
deriving DecidableEq, Repr

/-- A command that a runner has noted. -/
structure Noted where
  command : List String
  cwd : Option String
  note : Option String
deriving DecidableEq, Repr

/-- The note about a request. -/
def Request.noted (r : Request) : Noted := ⟨r.command, r.cwd.map Path.toString, r.note⟩

/-- What a runner replies. -/
structure Reply where
  /-- The lines that the command printed, in order. -/
  lines : List String
  /-- The files when the command has ended. -/
  files : FileSystem
  /-- The commands that were noted. -/
  noted : List Noted
  result : Except Failure Command.Outcome

/-- A runner: its reply to a request, which may depend on the number of operations before it and on
the files. -/
structure Runner where
  run : (clock : Nat) → FileSystem → Request → Reply

namespace Runner

/-- The outcome of a command that only appears to run. -/
def assumed (command : List String) : Command.Outcome := ⟨command, 0, "", "", true⟩

/-- Notes every command; each appears to succeed. -/
def recording : Runner where
  run _ fs r := ⟨[], fs, [r.noted], .ok (assumed r.command)⟩

/-- Notes every command; those that hold a marker among their words fail. -/
def failingAt (marker : String) (failure : List String → Failure) : Runner where
  run _ fs r :=
    ⟨[], fs, [r.noted],
      if r.command.contains marker then .error (failure r.command) else .ok (assumed r.command)⟩

/-- Runs nothing. -/
def none : Runner where
  run _ fs _ := ⟨[], fs, [], .error .noRunner⟩

/-- What is wrong with a command that cannot even be handed to the operating system. -/
inductive Malformed where
  /-- A word of it, or its directory, holds a NUL character. -/
  | holdsNul
  /-- It has no words. -/
  | empty
deriving DecidableEq, Repr

/-- The failure of a malformed command. -/
def Malformed.failure : Malformed → Failure
  | holdsNul => .nulInCommand
  | empty => .emptyCommand

/-- What becomes of a command that is to be started. -/
inductive Launch where
  /-- It could not be started: the text of the error, and the file that the error is about. -/
  | refused (error : String) (file : Option String)
  /-- It cannot even be handed to the operating system. -/
  | malformed (fault : Malformed)
  /-- The user interrupted it: the lines that were handed on before, and the files then. -/
  | interrupted (lines : List String) (files : FileSystem)
  /-- It ran: the pieces of its output, its status, and the files that it left. -/
  | ran (output : List (List UInt8)) (status : Int) (files : FileSystem)

/-- How the operating system starts a command in a directory. -/
abbrev Launcher := (clock : Nat) → FileSystem → (command : List String) → Option Path → Launch

/-- Why a command could not be started, in words. -/
def refusalText (error : String) : (file : Option String) → String
  | .none => error
  | some file => s!"{error}: {file}"

/-- An outcome, which is a failure if the command failed and that matters. -/
def checked (check : Bool) (o : Command.Outcome) : Except Failure Command.Outcome :=
  if check && !o.succeeded then .error (.command o) else .ok o

/-- Starts every command. -/
def launching (launcher : Launcher) : Runner where
  run clock fs r :=
    match launcher clock fs r.command r.cwd with
    | .refused error file =>
      ⟨[], fs, [],
        checked r.check ⟨r.command, Command.notStarted, "", refusalText error file, false⟩⟩
    | .malformed fault => ⟨[], fs, [], .error fault.failure⟩
    | .interrupted lines files => ⟨lines, files, [], .error .interrupted⟩
    | .ran output status files =>
      ⟨streamedLines output, files, [], checked r.check ⟨r.command, status, "", "", true⟩⟩

end Runner

end BuildPilot
