/-!
# Signals

The signals that may end a program, by number and name.
-/

namespace BuildPilot.Shell

/-- The names of the signals, from number 1 on. -/
def signalNames : List String :=
  ["HUP", "INT", "QUIT", "ILL", "TRAP", "ABRT", "BUS", "FPE", "KILL", "USR1", "SEGV", "USR2",
    "PIPE", "ALRM", "TERM", "STKFLT", "CHLD", "CONT", "STOP", "TSTP", "TTIN", "TTOU", "URG", "XCPU",
    "XFSZ", "VTALRM", "PROF", "WINCH", "IO", "PWR", "SYS"]

/-- The number of a signal that is given by name or number; zero is no signal. -/
def signalOf? (s : String) : Option Nat :=
  match s.toNat? with
  | some n => if n ≤ 64 then some n else none
  | none =>
    if s.toUpper == "EXIT" then some 0
    else (signalNames.idxOf? s.toUpper).map (· + 1)

/-- The name of a signal; zero stands for the end of the shell. -/
def signalName (n : Nat) : String :=
  if n = 0 then "EXIT" else (signalNames[n - 1]?).getD (toString n)

/-- Whether a signal does not end a program that has made no arrangements. -/
def isHarmless (n : Nat) : Bool := ["CHLD", "CONT", "URG", "WINCH"].contains (signalName n)

/-- The signal that ends a program that takes too long. -/
def timeLimit : Nat := 24

/-- What a shell says about a program that a signal has ended. -/
def signalText : Nat → String
  | 1 => "Hangup"
  | 2 => ""
  | 3 => "Quit"
  | 4 => "Illegal instruction"
  | 5 => "Trace/breakpoint trap"
  | 6 => "Aborted"
  | 7 => "Bus error"
  | 8 => "Floating point exception"
  | 9 => "Killed"
  | 10 => "User defined signal 1"
  | 11 => "Segmentation fault"
  | 12 => "User defined signal 2"
  | 13 => ""
  | 14 => "Alarm clock"
  | 15 => "Terminated"
  | 24 => "CPU time limit exceeded"
  | n => "Signal " ++ toString n

end BuildPilot.Shell
