import BuildPilot.Shell.Field
import BuildPilot.Shell.Lookup
import BuildPilot.Shell.Redirecting
import BuildPilot.Shell.Scope
import BuildPilot.Shell.Startup

/-!
# Running scripts

Words are expanded and scripts are run by functions that call each other. `bound` limits how often
loops are repeated and how deep functions call each other; a program that reaches the limit is
ended by a signal.
-/

namespace BuildPilot.Shell

open FileSystem Text

namespace Run

mutual

/-- The marks that a word expands to; the unquoted characters of a word that stands for a value may
separate fields. -/
def marks (bound : Nat) (inValue : Bool) (w : Word) : Run (List Mark) :=
  match bound with
  | 0 => timeOut
  | bound + 1 => do return (← w.mapM (pieceMarks bound inValue)).flatten

/-- The marks that a piece expands to. -/
def pieceMarks (bound : Nat) (inValue : Bool) (p : Piece) : Run (List Mark) :=
  match bound with
  | 0 => timeOut
  | bound + 1 =>
    match p with
    | .char c quoted => return [.char c quoted inValue]
    | .quotes => return [.quotes]
    | .parameter name use quoted => parameterMarks bound name use quoted
    | .output script quoted => do
      let text ← outputOf bound script
      return marksOf quoted (!quoted) text
    | .sum expression quoted => do
      let text ← textOf bound expression
      let s ← get
      match sumOf s.parameter? text with
      | .ok (n, assigned) =>
        assigned.forM fun (name, value) => assign name (toString value)
        return marksOf quoted (!quoted) (toString n)
      | .error fault => giveUp (fault.message text)

/-- The marks that a parameter expands to. -/
def parameterMarks (bound : Nat) (name : String) (use : Use) (quoted : Bool) : Run (List Mark) :=
  match bound with
  | 0 => timeOut
  | bound + 1 => do
    let s ← get
    let isRow := name == "@" || name == "*"
    let separator := (s.separators.toList.head?.map Char.toString).getD ""
    let value? := if isRow then
        (if s.arguments.isEmpty then none else some (separator.intercalate s.arguments))
      else s.parameter? name
    let shown : List Mark :=
      if isRow && !(quoted && name == "*") then marksOfRow quoted s.arguments
      else marksOf quoted (!quoted) (value?.getD "")
    let present (emptyToo : Bool) := match value? with
      | none => false
      | some v => !(emptyToo && v.isEmpty)
    match use with
    | .value =>
      if value?.isNone && !isRow && s.settings.refuseUnset then
        giveUp (name ++ ": parameter not set")
      return shown
    | .length =>
      if value?.isNone && !isRow && s.settings.refuseUnset then
        giveUp (name ++ ": parameter not set")
      let n := if isRow then s.arguments.length else (value?.getD "").utf8ByteSize
      return marksOf quoted (!quoted) (toString n)
    | .orElse emptyToo assigned word =>
      if present emptyToo then return shown
      else if assigned then
        let text ← textOf bound word
        if !isName name then giveUp (name ++ ": bad variable name")
        assign name text
        return marksOf quoted (!quoted) text
      else marks bound (!quoted) word
    | .instead emptyToo word => if present emptyToo then marks bound (!quoted) word else return []
    | .orFail emptyToo word =>
      if present emptyToo then return shown
      else
        let text ← textOf bound word
        giveUp (name ++ ": " ++ if word.isEmpty then
          (if emptyToo then "parameter not set or null" else "parameter not set") else text)
    | .trimmed atEnd longest pattern =>
      let pattern := (charsOf s.separators (← marks bound false pattern)).pattern
      return marksOf quoted (!quoted) (trimmed pattern atEnd longest (value?.getD ""))
    | .malformed => giveUp "Bad substitution"

/-- The text that a word expands to when it is not cut into fields. -/
def textOf (bound : Nat) (w : Word) : Run String :=
  match bound with
  | 0 => timeOut
  | bound + 1 => do
    let ms ← marks bound false w
    return (charsOf (← get).separators ms).text

/-- The texts that words expand to. -/
def textsOf (bound : Nat) (declares : Bool) (ws : List Word) : Run (List String) :=
  match bound with
  | 0 => timeOut
  | bound + 1 => do
    let texts ← ws.mapM fun w => do
      if declares && (assignment? w).isSome then return [← textOf bound w]
      let ms ← marks bound false w
      let s ← get
      let fields := fieldsOf s.separators ms
      if s.settings.noPatterns then return fields.map Field.text
      else return fields.flatMap (Field.expand s.world.files s.cwd)
    return texts.flatten

/-- The output of a script without the line ends at its end. -/
def outputOf (bound : Nat) (script : List Token) : Run String :=
  match bound with
  | 0 => timeOut
  | bound + 1 => do
    let id ← inWorld (World.addChannel · (.kept []))
    let line := (← get).line
    subshell bound do
      setDescriptor 1 (some id)
      runTokens bound false (script.map fun t => (line, t.2))
    let octets := (← get).world.keptOctets id
    let trimmed := (octets.reverse.dropWhile (· == 10)).reverse
    return decode (trimmed.filter (· != 0))

/-- Runs something in a shell of its own. -/
def subshell (bound : Nat) (r : Run Unit) : Run Unit :=
  match bound with
  | 0 => timeOut
  | bound + 1 => do
    settle none (← inChild do
      modify fun s => { s with traps := s.traps.filter (·.2.isEmpty) }
      atExit bound r)

/-- Runs something, and then what is to be run on the end of the shell. -/
def atExit (bound : Nat) (r : Run Unit) : Run Unit :=
  match bound with
  | 0 => timeOut
  | bound + 1 => do
    let escape ← attempt r
    let s ← get
    match escape, s.traps.lookup "EXIT" with
    | some (.killed p n), _ => throw (.killed p n)
    | _, some action =>
      modify fun s => { s with traps := s.traps.filter (·.1 != "EXIT") }
      runTokens bound false (tokensOf action)
      setStatus s.status
    | _, none => return ()

/-- Runs the commands of a script line by line. -/
def runTokens (bound : Nat) (tested : Bool) (ts : List Token) : Run Unit :=
  match bound with
  | 0 => timeOut
  | bound + 1 => do
    match nextCommands ts with
    | .error (line, fault) =>
      modify fun s => { s with line := line }
      giveUp ("Syntax error: " ++ fault.message)
    | .ok none => return ()
    | .ok (some (script, rest)) =>
      run bound tested script
      runTokens bound tested rest

/-- Runs a script; the failure of one that is tested is no reason to exit. -/
def run (bound : Nat) (tested : Bool) (script : Script) : Run Unit :=
  match bound with
  | 0 => timeOut
  | bound + 1 => do
    match script with
    | .empty => setStatus 0
    | .simple c =>
      runSimple bound tested c
      checkFailure tested
    | .pipe stages =>
      runPipe bound none stages
      checkFailure tested
    | .negated s =>
      run bound true s
      setStatus (if (← get).status == 0 then 1 else 0)
    | .both s t =>
      run bound true s
      if (← get).status == 0 then run bound tested t
    | .either s t =>
      run bound true s
      if (← get).status != 0 then run bound tested t
    | .seq s t =>
      run bound tested s
      run bound tested t
    | .background s =>
      let number ← newProgram
      subshell bound (run bound tested s)
      modify fun s => { s with background := some number, status := 0 }
    | .subshell s =>
      subshell bound (run bound tested s)
      checkFailure tested
    | .redirected s line redirects =>
      modify fun s => { s with line := line }
      redirecting bound redirects (run bound tested s)
    | .cond test whenTrue whenFalse =>
      run bound true test
      if (← get).status == 0 then run bound tested whenTrue else run bound tested whenFalse
    | .loop untilTrue test body => repeating bound tested untilTrue test body 0
    | .each name words body =>
      let values ← match words with
        | some ws => textsOf bound false ws
        | none => pure (← get).arguments
      setStatus 0
      forEach bound tested name values body
    | .choice subject branches =>
      let text ← textOf bound subject
      setStatus 0
      choose bound tested text branches
    | .function name body =>
      modify fun s => { s with
        functions := (name, body) :: s.functions.filter (·.1 != name), status := 0 }

/-- Repeats a body while a test succeeds, or until it does; `last` is the status so far. -/
def repeating (bound : Nat) (tested untilTrue : Bool) (test body : Script) (last : Nat) :
    Run Unit :=
  match bound with
  | 0 => timeOut
  | bound + 1 => do
    let round : Run Unit := do
      run bound true test
      if ((← get).status == 0) == untilTrue then throw (.leaveLoops 0)
      run bound tested body
    match ← attempt (inLoop round) with
    | none => repeating bound tested untilTrue test body (← get).status
    | some (.leaveLoops 0) => setStatus last
    | some (.leaveLoops 1) => return ()
    | some (.leaveLoops n) => throw (.leaveLoops (n - 1))
    | some (.nextRound n) =>
      if n ≤ 1 then repeating bound tested untilTrue test body 0 else throw (.nextRound (n - 1))
    | some e => throw e

/-- Runs a body for each value of a variable. -/
def forEach (bound : Nat) (tested : Bool) (name : String) (values : List String) (body : Script) :
    Run Unit :=
  match bound with
  | 0 => timeOut
  | bound + 1 => do
    match values with
    | [] => return ()
    | value :: rest =>
      assign name value
      match ← attempt (inLoop (run bound tested body)) with
      | none => forEach bound tested name rest body
      | some (.leaveLoops n) => if n ≤ 1 then return () else throw (.leaveLoops (n - 1))
      | some (.nextRound n) =>
        if n ≤ 1 then forEach bound tested name rest body else throw (.nextRound (n - 1))
      | some e => throw e

/-- Runs the first branch of which a pattern matches a text. -/
def choose (bound : Nat) (tested : Bool) (text : String) (branches : List (List Word × Script)) :
    Run Unit :=
  match bound with
  | 0 => timeOut
  | bound + 1 => do
    match branches with
    | [] => return ()
    | (patterns, body) :: rest =>
      let matching ← patterns.anyM fun w => do
        let ms ← marks bound false w
        return matchesText (charsOf (← get).separators ms).pattern text
      if matching then run bound tested body else choose bound tested text rest

/-- Runs the stages of a pipeline one after the other, the first of them on a given channel. -/
def runPipe (bound : Nat) (input : Option Nat) (stages : List Script) : Run Unit :=
  match bound with
  | 0 => timeOut
  | bound + 1 => do
    let onInput : Run Unit := match input with
      | some id => setDescriptor 0 (some id)
      | none => return ()
    match stages with
    | [] => return ()
    | [last] => subshell bound do onInput; run bound true last
    | stage :: rest =>
      let id ← inWorld (World.addChannel · (.kept []))
      subshell bound do
        onInput
        setDescriptor 1 (some id)
        run bound true stage
      modify fun s => { s with world := s.world.setChannel id (.source (s.world.keptOctets id)) }
      runPipe bound (some id) rest

/-- Carries redirections out; says what is wrong if one fails. -/
def redirectAll (bound : Nat) (rs : List Redirect) : Run (Option String) :=
  match bound with
  | 0 => timeOut
  | bound + 1 => do
    match rs with
    | [] => return none
    | r :: rs =>
      match ← redirectTo r (← textOf bound r.target) with
      | none => redirectAll bound rs
      | some complaint => return some complaint

/-- Does something with redirections, which are undone afterwards. -/
def redirecting (bound : Nat) (rs : List Redirect) (r : Run Unit) : Run Unit :=
  match bound with
  | 0 => timeOut
  | bound + 1 => do
    let before := (← get).descriptors
    let escape ← do
      match ← redirectAll bound rs with
      | none => attempt r
      | some complaint => attempt do
        modify fun s => { s with descriptors := before }
        failWith 2 complaint
    modify fun s => { s with descriptors := before }
    match escape with
    | some e => throw e
    | none => return ()

/-- Makes assignments. -/
def assignAll (bound : Nat) (assignments : List (String × Word)) : Run Unit :=
  match bound with
  | 0 => timeOut
  | bound + 1 => do
    match assignments with
    | [] => return ()
    | (name, w) :: rest =>
      let value ← textOf bound w
      if (← get).settings.traced then mutter s!"+ {name}={value}\n"
      assign name value
      assignAll bound rest

/-- Runs a simple command. -/
def runSimple (bound : Nat) (tested : Bool) (c : SimpleCommand) : Run Unit :=
  match bound with
  | 0 => timeOut
  | bound + 1 => do
    modify fun s => { s with line := c.line }
    let named := (c.words.head?.bind plainText?).getD ""
    let declares := ["export", "readonly", "local"].contains named
    let words ← textsOf bound declares c.words
    if words.isEmpty then
      if c.words.isEmpty then setStatus 0
      redirecting bound c.redirects (assignAll bound c.assignments)
    else
      if (← get).settings.traced then mutter ("+ " ++ " ".intercalate words ++ "\n")
      let name := words.headD ""
      let args := words.drop 1
      let names := c.assignments.map (·.1)
      let exported : Run Unit := names.forM fun n => mark n fun v => { v with exported := true }
      let s ← get
      if name == "exec" then
        match ← redirectAll bound c.redirects with
        | some complaint => giveUp complaint
        | none =>
          assignAll bound c.assignments
          if args.isEmpty then setStatus 0 else replaceBy bound args
      else if Builtin.special.contains name then
        match ← redirectAll bound c.redirects with
        | some complaint => giveUp complaint
        | none =>
          assignAll bound c.assignments
          let escape ← attempt (runBuiltin bound tested name args)
          modify fun t => { t with descriptors := s.descriptors }
          match escape with
          | some e => throw e
          | none => return ()
      else
        redirecting bound c.redirects do
          match s.functions.lookup name with
          | some body =>
            restoring names do
              assignAll bound c.assignments
              asFunction args (run bound tested body)
          | none =>
            if Builtin.isBuiltin name then
              restoring names do
                assignAll bound c.assignments
                runBuiltin bound tested name args
            else
              restoring names do
                assignAll bound c.assignments
                exported
                runProgram bound name args

/-- Runs a command that the shell carries out itself. -/
def runBuiltin (bound : Nat) (tested : Bool) (name : String) (args : List String) : Run Unit :=
  match bound with
  | 0 => timeOut
  | bound + 1 => do
    match name, args with
    | "eval", args =>
      setStatus 0
      runTokens bound tested (tokensOf (" ".intercalate args))
    | ".", file :: _ =>
      let s ← get
      let there := (← pathsOf file).findSome? fun path =>
        (contentAt (s.world.files.findText s.cwd true path)).toOption
      match there with
      | none =>
        if file.toList.contains '/' then giveUp s!".: cannot open {file}: No such file"
        else giveUp s!".: {file}: not found"
      | some content =>
        setStatus 0
        match ← attempt (runTokens bound tested (tokensOf (decode content))) with
        | none | some .returned => return ()
        | some e => throw e
    | ".", [] => setStatus 0
    | "local", args => declareLocal args
    | "type", args => args.forM (describe false)
    | "command", "-v" :: args => (args.take 1).forM (describe true)
    | "command", "-V" :: args => (args.take 1).forM (describe false)
    | "command", name :: args =>
      if Builtin.isBuiltin name then runBuiltin bound tested name args
      else runProgram bound name args
    | "command", [] => setStatus 0
    | name, args =>
      match Builtin.plain? name with
      | none => runProgram bound name args
      | some builtin =>
        match ← attempt (builtin args) with
        | none => return ()
        | some (.killed p n) =>
          let s ← get
          let catchable := signalName n != "KILL" && signalName n != "STOP"
          match s.traps.lookup (signalName n) with
          | some action =>
            if p == s.program && catchable then
              setStatus 0
              runTokens bound false (tokensOf action)
              setStatus 0
            else throw (.killed p n)
          | none => throw (.killed p n)
        | some e => throw e

/-- Starts a program and waits for its end. -/
def runProgram (bound : Nat) (name : String) (args : List String) : Run Unit :=
  match bound with
  | 0 => timeOut
  | bound + 1 => do
    match ← programPath name with
    | .error cause => notStarted "" name cause
    | .ok path =>
      let number ← newProgram
      settle (some number) (← inChild do
        modify fun s => { s with program := number }
        execute bound path name args)

/-- Puts a program in the place of the shell. -/
def replaceBy (bound : Nat) (words : List String) : Run Unit :=
  match bound with
  | 0 => timeOut
  | bound + 1 => do
    let name := words.headD ""
    match ← programPath name with
    | .error cause => notStarted "exec: " name cause
    | .ok path => execute bound path name (words.drop 1)
    modify fun s => { s with traps := [] }
    throw .exit

/-- Executes the file at a path; a file of unknown format is taken for a script. -/
def execute (bound : Nat) (path name : String) (args : List String) : Run Unit :=
  match bound with
  | 0 => timeOut
  | bound + 1 => do
    let s ← get
    match startAt s.world.files s.cwd maxInterpreters path name args with
    | .ok start => runStart bound start
    | .error .unknownFormat => runStart bound ⟨"sh", "sh", path :: args⟩
    | .error cause => notStarted "" name cause

/-- Runs a program. -/
def runStart (bound : Nat) (start : Start) : Run Unit :=
  match bound with
  | 0 => timeOut
  | bound + 1 => do
    if shellNames.contains start.program then runShell bound start.name start.arguments
    else if start.program == "env" then runEnv bound start.arguments
    else match Utility.table.lookup start.program with
      | some utility => utility start.arguments
      | none => setStatus 0

/-- Runs a program with a changed environment, or prints the environment. -/
def runEnv (bound : Nat) (args : List String) : Run Unit :=
  match bound with
  | 0 => timeOut
  | bound + 1 => do
    match args with
    | [] => Utility.printenv []
    | "-i" :: rest | "-" :: rest =>
      modify fun s => { s with bindings := [] }
      runEnv bound rest
    | "-u" :: name :: rest =>
      modify fun s => { s with bindings := s.bindings.filter (·.1 != name) }
      runEnv bound rest
    | arg :: rest =>
      match cutAtFirst '=' arg.toList with
      | some (name, value) =>
        let name := String.ofList name
        mark name fun _ => ⟨some (String.ofList value), true, false⟩
        runEnv bound rest
      | none =>
        let searchPath := ((← get).valueOf? "PATH").getD usualPath
        match ← firstOf (candidates searchPath arg) with
        | .ok path => execute bound path arg rest
        | .error cause =>
          mutter s!"env: '{arg}': {cause.text}\n"
          setStatus (if cause == .noEntry then 127 else 126)

/-- Runs a shell on its arguments. -/
def runShell (bound : Nat) (name : String) (args : List String) : Run Unit :=
  match bound with
  | 0 => timeOut
  | bound + 1 => do
    let (options, rest) := shellOptions ⟨[], false⟩ args
    fresh name []
    Builtin.changeSettings true options.letters
    let runText (name : String) (arguments : List String) (text : String) : Run Unit := do
      modify fun s => { s with name := name, arguments := arguments }
      atExit bound (runTokens bound false (tokensOf text))
    match options.inline, rest with
    | true, text :: rest => runText (rest.headD name) (rest.drop 1) text
    | true, [] =>
      modify fun s => { s with line := 0 }
      failWith 2 "-c requires an argument"
    | false, file :: arguments =>
      let s ← get
      match contentAt (s.world.files.findText s.cwd true file) with
      | .ok content => runText file arguments (decode content)
      | .error cause =>
        modify fun s => { s with line := 0 }
        let text :=
          if cause == .noEntry || cause == .notDirectory then "No such file" else cause.text
        failWith 2 s!"cannot open {file}: {text}"
    | false, [] => do
      let content ← takeAll 0
      runText name [] (decode content)

end

end Run

end BuildPilot.Shell
