import BuildPilot.Command.Words
import BuildPilot.Text.Blank

/-!
# Outcomes of commands

How a command ended. A command that was started has streamed its output; one that could not be
started has a reason instead, in the place of its error output.
-/

namespace BuildPilot.Command

open Text

/-- How a command ended. -/
structure Outcome where
  command : List String
  /-- The exit status, or the negated number of the signal that ended the command. -/
  status : Int
  stdout : String
  stderr : String
  /-- Whether the output was handed on while the command ran. -/
  streamed : Bool
deriving DecidableEq, Repr

/-- The status of a command that could not be started. -/
def notStarted : Int := 127

namespace Outcome

/-- Whether a command succeeded. -/
def succeeded (o : Outcome) : Bool := o.status == 0

/-- The command as text. -/
def commandLine (o : Outcome) : String := format o.command

/-- Why a command could not run, when it never produced output. -/
def reason? (o : Outcome) : Option String :=
  if o.streamed || isBlankText o.stderr then none else some (trim o.stderr)

/-- The message of a failed command. -/
def failureMessage (o : Outcome) : String :=
  s!"Command failed with exit code {o.status}: {o.commandLine}\n"
    ++ if o.streamed then "stdout/stderr already streamed above."
      else s!"stdout: {o.stdout}\nstderr: {o.stderr}"

end Outcome

end BuildPilot.Command
