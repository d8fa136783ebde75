import BuildPilot.Action
import BuildPilot.Command.Outcome
import BuildPilot.Configuration.Resolve
import BuildPilot.FileSystem.Search

/-!
# Failures

Everything that can end a run before its time.
-/

namespace BuildPilot

open FileSystem

/-- Why a run ended before its time. -/
inductive Failure where
  /-- The run cannot be configured. -/
  | config (fault : ConfigFault)
  /-- The request names unknown actions. -/
  | unknownActions (u : UnknownActions)
  /-- A command failed. -/
  | command (outcome : Command.Outcome)
  /-- An operation on files failed. -/
  | file (e : FileError)
  /-- The user interrupted the run. -/
  | interrupted
  /-- A defaults file cannot be read, and is not blamed for it. -/
  | document (e : Document.ReadError)
  /-- A directory has no real path. -/
  | path (fault : PathFault)
  /-- A number has too many digits to be written. -/
  | longNumber
  /-- A pattern cannot be searched for. -/
  | pattern (fault : PatternFault)
  /-- A command holds a NUL character. -/
  | nulInCommand
  /-- A command has no words. -/
  | emptyCommand
  /-- The runner cannot run commands at all. -/
  | noRunner
  /-- A file of defaults is given by a value that was dropped. -/
  | droppedConfig
  /-- The number of jobs is given by a value that was dropped. -/
  | droppedJobs
  /-- An extra argument is given by a value that was dropped. -/
  | droppedExtra
deriving DecidableEq, Repr

namespace Failure

/-- The failure of a run that cannot be resolved. -/
def ofResolve : ResolveFault → Failure
  | .config fault => config fault
  | .file e => file e
  | .document e => document e
  | .path fault => path fault
  | .longNumber => longNumber

/-- The text of a failure. -/
def message : Failure → String
  | config fault => fault.message
  | unknownActions u => u.message
  | command o => o.failureMessage
  | file e => e.message
  | interrupted => ""
  | document e => e.message
  | path fault => fault.message
  | longNumber => Numeric.unwritableMessage
  | pattern fault => fault.message
  | nulInCommand => PathFault.nul.message
  | emptyCommand => "list index out of range"
  | noRunner => ""
  | droppedConfig => "'list' object has no attribute 'is_absolute'"
  | droppedJobs => "'<' not supported between instances of 'list' and 'int'"
  | droppedExtra => "'list' object has no attribute 'strip'"

end Failure

end BuildPilot
