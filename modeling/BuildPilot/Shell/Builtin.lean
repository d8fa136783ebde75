import BuildPilot.Shell.Condition
import BuildPilot.Shell.Field
import BuildPilot.Shell.Format
import BuildPilot.Shell.Signal

/-!
# What a shell does itself

The commands that a shell carries out without starting a program, as far as they need no script to
be run: printing, reading, changing the directory, the variables, the settings or the flow of
control, and sending signals.
-/

namespace BuildPilot.Shell

open FileSystem Text

namespace Builtin

/-- Prints its arguments, in which escapes count. -/
def echo (args : List String) : Run Unit := do
  let (ends, args) := match args with
    | "-n" :: rest => (false, rest)
    | args => (true, args)
  let (octets, stop) := unescaped (" ".intercalate args)
  Run.write 1 (octets ++ if ends && !stop then [10] else [])
  Run.setStatus 0

/-- Prints a format; `complain` says what is wrong with the arguments. -/
def printf (complain : String → Run Unit) (args : List String) : Run Unit := do
  let args := match args with
    | "--" :: rest => rest
    | args => args
  match args with
  | [] =>
    complain "usage: printf format [arg ...]"
    Run.setStatus 2
  | format :: args =>
    let f := formatted format args
    f.complaints.forM complain
    Run.write 1 f.octets
    Run.setStatus (if f.complaints.isEmpty then 0 else if f.stopped then 2 else 1)

/-- Succeeds if a condition holds. -/
def condition (complain : String → Run Unit) (args : List String) : Run Unit := do
  let s ← get
  match conditionHolds ⟨s.world.files, s.cwd⟩ args with
  | .ok h => Run.setStatus (if h then 0 else 1)
  | .error f =>
    complain f.message
    Run.setStatus 2

/-- Succeeds if a condition in brackets holds. -/
def bracket (complain : String → Run Unit) (args : List String) : Run Unit :=
  if args.getLast? = some "]" then condition complain args.dropLast
  else do
    complain "missing ]"
    Run.setStatus 2

/-- A directory in the text of an absolute path, without dots. -/
def normalText (path : String) : String :=
  let names := (pieces '/' path).foldl (fun (acc : List String) n =>
    if n.isEmpty || n == "." then acc else if n == ".." then acc.dropLast else acc ++ [n]) []
  "/" ++ "/".intercalate names

/-- Goes to a directory, and says so on demand. -/
def goTo (target : String) (aloud : Bool) : Run Unit := do
  let s ← get
  let shown := normalText (if isAbsoluteText target then target else s.directory ++ "/" ++ target)
  let complaint := s!"cd: can't cd to {target}"
  match s.world.files.findText s.cwd true shown with
  | .entry loc .dir =>
    Run.assign "OLDPWD" s.directory
    Run.assign "PWD" shown
    Run.mark "OLDPWD" fun v => { v with exported := true }
    Run.mark "PWD" fun v => { v with exported := true }
    modify fun s => { s with cwd := loc, directory := shown, status := 0 }
    if aloud then Run.say (shown ++ "\n")
  | _ => Run.failWith 2 complaint

/-- Changes the directory. -/
def cd (args : List String) : Run Unit := do
  let s ← get
  let args := args.filter fun a => a != "--" && a != "-L" && a != "-P"
  match args.headD ((s.valueOf? "HOME").getD "") with
  | "-" => goTo ((s.valueOf? "OLDPWD").getD ".") true
  | target => if target.isEmpty then Run.setStatus 0 else goTo target false

/-- Prints the directory. -/
def pwd (args : List String) : Run Unit := do
  let s ← get
  Run.say ((if args.contains "-P" then "/" ++ "/".intercalate s.cwd else s.directory) ++ "\n")
  Run.setStatus 0

/-- The part of a line before the next separator, and what follows the separator. -/
def cutField (separators : List Char) (line : Field) : Field × Field :=
  let isSeparator (p : Char × Bool) := !p.2 && separators.contains p.1
  let isBlank (p : Char × Bool) := isSeparator p && (p.1 == ' ' || p.1 == '\t' || p.1 == '\n')
  let field := line.takeWhile (!isSeparator ·)
  let rest := (line.drop field.length).dropWhile isBlank
  let rest := match rest with
    | p :: more => if isSeparator p then more.dropWhile isBlank else rest
    | [] => []
  (field, rest)

/-- Gives variables the fields of a line; the last one gets all that is left. -/
def assignFields (separators : List Char) : List String → Field → Run Unit
  | [], _ => return ()
  | [name], line =>
    let isBlank (p : Char × Bool) := !p.2 && separators.contains p.1 && (p.1 == ' ' || p.1 == '\t')
    Run.assign name (Field.text (line.reverse.dropWhile isBlank).reverse)
  | name :: names, line => do
    let (field, rest) := cutField separators line
    Run.assign name field.text
    assignFields separators names rest

/-- Takes a line from the input, and whether it was ended. Backslashes quote characters, unless the
line is taken raw. -/
def takeLine (raw : Bool) : (bound : Nat) → Run (Field × Bool)
  | 0 => return ([], false)
  | bound + 1 => do
    let octets ← Run.waiting 0
    let line := octets.takeWhile (· != 10)
    Run.consume 0 (line.length + 1)
    let ended := line.length < octets.length
    let text := (decode line).toList
    if raw then return (text.map fun c => (c, false), ended)
    let rec unquote : List Char → Field
      | '\\' :: c :: s => (c, true) :: unquote s
      | ['\\'] => []
      | c :: s => (c, false) :: unquote s
      | [] => []
    let slashes := (text.reverse.takeWhile (· == '\\')).length
    if ended && slashes % 2 == 1 then
      let (more, ended) ← takeLine raw bound
      return (unquote text.dropLast ++ more, ended)
    else return (unquote text, ended)

/-- Reads a line into variables. -/
def read (args : List String) : Run Unit := do
  let raw := args.contains "-r"
  let names := args.filter fun a => a != "-r" && a != "--"
  if names.isEmpty then Run.failWith 2 "read: arg count"
  else
    let octets ← Run.waiting 0
    let (line, ended) ← takeLine raw (octets.length + 1)
    let separators := (← get).separators.toList
    let isBlank (p : Char × Bool) := !p.2 && separators.contains p.1 && (p.1 == ' ' || p.1 == '\t')
    assignFields separators names (line.dropWhile isBlank)
    Run.setStatus (if ended then 0 else 1)

/-- The number that an argument of a command denotes, without which the shell gives up. -/
def count (command : String) (arg : String) : Run Nat :=
  match arg.toNat? with
  | some n =>
    if arg.toList.all Char.isDigit && n < Nat.pow 2 31 then return n
    else Run.giveUp s!"{command}: Illegal number: {arg}"
  | none => Run.giveUp s!"{command}: Illegal number: {arg}"

/-- The status that an argument asks for, or else the last one. -/
def askedStatus (command : String) (args : List String) : Run Nat := do
  match args with
  | [] => return (← get).status
  | arg :: _ => count command arg

/-- Drops arguments of the shell. -/
def shift (args : List String) : Run Unit := do
  let n ← match args with
    | [] => pure 1
    | arg :: _ => count "shift" arg
  if (← get).arguments.length < n then Run.giveUp "shift: can't shift that many"
  modify fun s => { s with arguments := s.arguments.drop n, status := 0 }

/-- The settings with one of them changed, if a letter names it. -/
def setting? (s : Settings) (on : Bool) : Char → Option Settings
  | 'e' => some { s with exitOnFailure := on }
  | 'f' => some { s with noPatterns := on }
  | 'u' => some { s with refuseUnset := on }
  | 'x' => some { s with traced := on }
  | c => if "abCmnv".toList.contains c then some s else none

/-- The letter of a setting that is given by name. -/
def settingLetter : String → Char
  | "errexit" => 'e'
  | "noglob" => 'f'
  | "nounset" => 'u'
  | "xtrace" => 'x'
  | _ => 'a'

/-- Changes a row of settings by their letters. -/
def changeSettings (on : Bool) : List Char → Run Unit
  | [] => return ()
  | c :: cs => do
    match setting? (← get).settings on c with
    | some settings =>
      modify fun s => { s with settings := settings }
      changeSettings on cs
    | none => Run.giveUp ("set: Illegal option " ++ (if on then "-" else "+") ++ c.toString)

/-- Changes settings and arguments of the shell. -/
def setAll : List String → Run Unit
  | [] => return ()
  | "--" :: rest => modify fun s => { s with arguments := rest }
  | "-o" :: name :: rest => do
    changeSettings true [settingLetter name]
    setAll rest
  | "+o" :: name :: rest => do
    changeSettings false [settingLetter name]
    setAll rest
  | arg :: rest => do
    match arg.toList with
    | '-' :: c :: cs => changeSettings true (c :: cs); setAll rest
    | '+' :: c :: cs => changeSettings false (c :: cs); setAll rest
    | _ => modify fun s => { s with arguments := arg :: rest }

/-- Marks variables, some of which get a value first. -/
def declare (command : String) (f : Variable → Variable) : List String → Run Unit
  | [] => return ()
  | arg :: args => do
    let (name, value) := match cutAtFirst '=' arg.toList with
      | some (name, value) => (String.ofList name, some (String.ofList value))
      | none => (arg, none)
    if !isName name then Run.giveUp s!"{command}: {name}: bad variable name"
    match value with
    | some value => Run.assign name value
    | none => pure ()
    Run.mark name f
    declare command f args

/-- Removes variables or functions. -/
def unset (args : List String) : Run Unit := do
  match args with
  | "-f" :: names =>
    modify fun s => { s with functions := s.functions.filter fun f => !names.contains f.1 }
  | args => (args.filter (· != "-v")).forM Run.unset
  Run.setStatus 0

/-- Sends a signal to programs; only the shell itself can be met. -/
def signal (number : Nat) : List String → Run Unit
  | [] => return ()
  | target :: rest => do
    let s ← get
    match target.toNat? with
    | none => Run.failWith 2 s!"kill: Illegal number: {target}"
    | some p =>
      if p != s.program then
        Run.failWith 1 "kill: No such process"
        Run.mutter "\n"
      else if number = 0 || isHarmless number then
        Run.setStatus 0
        signal number rest
      else throw (.killed p number)

/-- Sends a signal that is given by name or number. -/
def kill (args : List String) : Run Unit := do
  let send (name : String) (targets : List String) : Run Unit :=
    match signalOf? name with
    | some n => signal n targets
    | none => Run.failWith 2 s!"kill: invalid signal number or name: {name}"
  match args with
  | "-s" :: name :: targets => send name targets
  | "--" :: targets => signal 15 targets
  | ["-l", number] =>
    Run.say (signalName (number.toNat?.getD 0 % 128) ++ "\n")
    Run.setStatus 0
  | arg :: targets =>
    match arg.toList with
    | '-' :: cs =>
      if (signalOf? (String.ofList cs)).isSome then
        send (String.ofList cs) (if targets.head? = some "--" then targets.drop 1 else targets)
      else Run.failWith 2 ("kill: Illegal option -" ++ String.ofList (cs.take 1))
    | _ => signal 15 (arg :: targets)
  | [] =>
    Run.failWith 2 ("kill: usage: kill [-s sigspec | -signum | -sigspec] [pid | job]... "
      ++ "or kill -l [exitstatus]")

/-- Says what is to be run on signals. -/
def trap (args : List String) : Run Unit := do
  let args := if args.head? = some "--" then args.drop 1 else args
  let arrange (action : Option String) (names : List String) : Run Unit :=
    names.forM fun name => do
      match signalOf? name with
      | none => Run.failWith 1 s!"trap: {name}: bad trap"
      | some n =>
        let key := signalName n
        modify fun s => { s with traps :=
          (match action with
            | some a => [(key, a)]
            | none => []) ++ s.traps.filter (·.1 != key) }
  Run.setStatus 0
  match args with
  | [] => return ()
  | [name] => arrange none [name]
  | "-" :: names => arrange none names
  | action :: names => arrange (some action) names

/-- Leaves loops, as many as there are at most. -/
def leave (command : String) (escape : Nat → Escape) (args : List String) : Run Unit := do
  let n ← match args with
    | [] => pure 1
    | arg :: _ => count command arg
  Run.setStatus 0
  let loops := (← get).loops
  if 0 < loops then throw (escape (min n loops))

/-- The commands that a shell carries out itself without running a script. -/
def plain? (name : String) : Option (List String → Run Unit) :=
  let as (name : String) : String → Run Unit := fun text => Run.complain (name ++ ": " ++ text)
  match name with
  | ":" | "true" => some fun _ => Run.setStatus 0
  | "false" => some fun _ => Run.setStatus 1
  | "echo" => some echo
  | "printf" => some (printf (as name))
  | "test" => some (condition (as name))
  | "[" => some (bracket (as name))
  | "cd" | "chdir" => some cd
  | "pwd" => some pwd
  | "read" => some read
  | "shift" => some shift
  | "set" => some fun args => do setAll args; Run.setStatus 0
  | "export" => some fun args => do
    declare name (fun v => { v with exported := true }) (args.filter (· != "-p"))
    Run.setStatus 0
  | "readonly" => some fun args => do
    declare name (fun v => { v with fixed := true }) (args.filter (· != "-p"))
    Run.setStatus 0
  | "unset" => some unset
  | "kill" => some kill
  | "trap" => some trap
  | "umask" => some fun args => do
    if args.isEmpty then Run.say "0022\n"
    Run.setStatus 0
  | "wait" => some fun _ => Run.setStatus 0
  | "exit" => some fun args => do
    Run.setStatus (← askedStatus name args)
    throw .exit
  | "return" => some fun args => do
    Run.setStatus (← askedStatus name args)
    throw .returned
  | "break" => some (leave name .leaveLoops)
  | "continue" => some (leave name .nextRound)
  | _ => none

/-- The commands whose failure makes the shell give up. -/
def special : List String :=
  [":", ".", "break", "continue", "eval", "exec", "exit", "export", "readonly", "return", "set",
    "shift", "trap", "unset"]

/-- The commands that run scripts. -/
def scripted : List String := [".", "command", "eval", "exec", "local", "type"]

/-- Whether a shell carries a command out itself. -/
def isBuiltin (name : String) : Bool := (plain? name).isSome || scripted.contains name

end Builtin

end BuildPilot.Shell
