import BuildPilot.Shell.Script
import BuildPilot.Shell.Token.Reading

/-!
# Reading scripts

A script is read from its tokens. Words are reserved only where a command may start. The functions
call each other; `bound` limits how deep and how long, and is taken from the number of tokens.
-/

namespace BuildPilot.Shell

/-- A fault and its line. -/
abbrev FaultAt := Nat × SyntaxFault

/-- Takes tokens from the front of a row. -/
abbrev Reader := StateT (List Token) (Except FaultAt)

namespace Reader

/-- The words that are reserved where a command may start. -/
def reserved : List String :=
  ["!", "\x7b", "\x7d", "case", "do", "done", "elif", "else", "esac", "fi", "for", "if", "in",
    "then", "until", "while"]

/-- A token as it is named in a fault. -/
def nameOf : Lexeme → String
  | .word ps =>
    match plainText? ps with
    | some t => if reserved.contains t then "\"" ++ t ++ "\"" else "word"
    | none => "word"
  | .operator o => if o.startsWith "<" || o.startsWith ">" then "redirection" else "\"" ++ o ++ "\""
  | .descriptor _ => "redirection"
  | .hereText _ => "redirection"
  | .newline => "newline"
  | .fault _ => "end of file"

/-- The next token. -/
def here : Reader (Option Lexeme) := do return (← get).head?.map (·.2)

/-- The line of the next token; zero stands for the end of the script. -/
def line : Reader Nat := do return ((← get).head?.map (·.1)).getD 0

/-- Takes the next token. -/
def skip : Reader Unit := modify (List.drop 1)

/-- Gives up at the next token. -/
def refuse {α : Type} (expected : Option String) : Reader α := do
  let n ← line
  match ← here with
  | some (.fault f) => throw (n, f)
  | some l => throw (n, .unexpected (nameOf l) expected)
  | none => throw (n, .unexpected "end of file" expected)

/-- The text of the next token, if it is a word without quotes and without values. -/
def plainWord? : Reader (Option String) := do
  match ← here with
  | some (.word ps) => return plainText? ps
  | _ => return none

/-- Whether the next token is a certain operator. -/
def isOperator (o : String) : Reader Bool := do
  match ← here with
  | some (.operator p) => return p == o
  | _ => return false

/-- Takes an operator if it comes next. -/
def operatorNext (o : String) : Reader Bool := do
  if ← isOperator o then skip; return true else return false

/-- Takes a reserved word if it comes next. -/
def wordNext (w : String) : Reader Bool := do
  if (← plainWord?) == some w then skip; return true else return false

/-- Takes an operator, which must come next. -/
def expectOperator (o : String) : Reader Unit := do
  if !(← operatorNext o) then refuse (some ("\"" ++ o ++ "\""))

/-- Takes a reserved word, which must come next. -/
def expectWord (w : String) : Reader Unit := do
  if !(← wordNext w) then refuse (some ("\"" ++ w ++ "\""))

/-- Takes line ends. -/
def newlines : Reader Unit := modify (List.dropWhile fun t => match t.2 with
  | .newline => true
  | _ => false)

/-- The kind and the usual descriptor of a redirection operator. -/
def redirection? : String → Option (Redirection × Nat)
  | "<" => some (.read, 0)
  | "<>" => some (.read, 0)
  | ">" => some (.write, 1)
  | ">|" => some (.write, 1)
  | ">>" => some (.append, 1)
  | "<&" => some (.duplicate, 0)
  | ">&" => some (.duplicate, 1)
  | "<<" => some (.text, 0)
  | _ => none

/-- Takes a redirection if one comes next. -/
def redirect? : Reader (Option Redirect) := do
  let given ← match ← here with
    | some (.descriptor n) => skip; pure (some n)
    | _ => pure none
  match ← here with
  | some (.operator o) =>
    match redirection? o with
    | none => return none
    | some (kind, usual) =>
      skip
      match ← here with
      | some (.word ps) => skip; return some ⟨given.getD usual, kind, ps⟩
      | some (.hereText ps) => skip; return some ⟨given.getD usual, kind, ps⟩
      | _ => refuse none
  | _ => return none

/-- Takes as many redirections as come next. -/
def redirects : (bound : Nat) → Reader (List Redirect)
  | 0 => return []
  | bound + 1 => do
    match ← redirect? with
    | none => return []
    | some r => return r :: (← redirects bound)

/-- Takes as many words as come next. -/
def words : (bound : Nat) → Reader (List Word)
  | 0 => return []
  | bound + 1 => do
    match ← here with
    | some (.word ps) => skip; return ps :: (← words bound)
    | _ => return []

/-- Takes the patterns of a branch and the parenthesis behind them. -/
def patterns : (bound : Nat) → Reader (List Word)
  | 0 => return []
  | bound + 1 => do
    match ← here with
    | some (.word ps) =>
      skip
      if ← operatorNext "|" then return ps :: (← patterns bound)
      else do
        expectOperator ")"
        return [ps]
    | _ => refuse none

/-- Whether a list of commands ends here. -/
def atEndOfList : Reader Bool := do
  match ← here with
  | none => return true
  | some (.operator o) => return o == ")" || o == ";;"
  | some (.word ps) =>
    let closers := ["\x7d", "do", "done", "elif", "else", "esac", "fi", "then"]
    return match plainText? ps with
      | some t => closers.contains t
      | none => false
  | _ => return false

/-- The words, assignments and redirections of a simple command, in front of which some are known
already. -/
def simpleFrom : (bound : Nat) → SimpleCommand → Reader SimpleCommand
  | 0, c => return c
  | bound + 1, c => do
    match ← redirect? with
    | some r => simpleFrom bound { c with redirects := c.redirects ++ [r] }
    | none =>
      match ← here with
      | some (.word ps) =>
        skip
        match c.words, assignment? ps with
        | [], some a => simpleFrom bound { c with assignments := c.assignments ++ [a] }
        | _, _ => simpleFrom bound { c with words := c.words ++ [ps] }
      | _ => return c

mutual

/-- Takes a list of commands up to the word or operator that ends it. -/
def list (bound : Nat) : Reader Script :=
  match bound with
  | 0 => return .empty
  | bound + 1 => do
    newlines
    if ← atEndOfList then return .empty
    let first ← andOr bound
    let first ← separated first
    newlines
    let rest ← list bound
    return match rest with
      | .empty => first
      | rest => .seq first rest

/-- Takes the separator behind a command, if there is one. -/
def separated (s : Script) : Reader Script := do
  if ← operatorNext "&" then return .background s
  else if ← operatorNext ";" then return s
  else match ← here with
    | some .newline => return s
    | _ => if ← atEndOfList then return s else refuse none

/-- Takes a list of commands that must not be empty, unless the script ends. -/
def body (bound : Nat) : Reader Script :=
  match bound with
  | 0 => return .empty
  | bound + 1 => do
    newlines
    if (← here).isSome && (← atEndOfList) then refuse none
    list bound

/-- Takes pipelines that are joined by conditions. -/
def andOr (bound : Nat) : Reader Script :=
  match bound with
  | 0 => return .empty
  | bound + 1 => do andOrFrom bound (← pipeline bound)

/-- Takes the pipelines that are joined to a script by conditions. -/
def andOrFrom (bound : Nat) (s : Script) : Reader Script :=
  match bound with
  | 0 => return s
  | bound + 1 => do
    if ← operatorNext "&&" then
      newlines
      let t ← pipeline bound
      andOrFrom bound (.both s t)
    else if ← operatorNext "||" then
      newlines
      let t ← pipeline bound
      andOrFrom bound (.either s t)
    else return s

/-- Takes a pipeline. -/
def pipeline (bound : Nat) : Reader Script :=
  match bound with
  | 0 => return .empty
  | bound + 1 => do
    if ← wordNext "!" then return .negated (← pipeline bound)
    let first ← command bound
    let rest ← stages bound
    return if rest.isEmpty then first else .pipe (first :: rest)

/-- Takes the further stages of a pipeline. -/
def stages (bound : Nat) : Reader (List Script) :=
  match bound with
  | 0 => return []
  | bound + 1 => do
    if ← operatorNext "|" then
      newlines
      let s ← command bound
      return s :: (← stages bound)
    else return []

/-- Takes a command with its redirections. -/
def command (bound : Nat) : Reader Script :=
  match bound with
  | 0 => return .empty
  | bound + 1 => do
    let n ← line
    match ← compound? bound with
    | some s =>
      let rs ← redirects bound
      return if rs.isEmpty then s else .redirected s n rs
    | none => simple bound

/-- Takes a command that is not simple, if one comes next. -/
def compound? (bound : Nat) : Reader (Option Script) :=
  match bound with
  | 0 => return none
  | bound + 1 => do
    if ← operatorNext "(" then
      let s ← body bound
      expectOperator ")"
      return some (.subshell s)
    match ← plainWord? with
    | some "\x7b" =>
      skip
      let s ← body bound
      expectWord "\x7d"
      return some s
    | some "if" => skip; return some (← cond bound)
    | some "while" => skip; return some (← loop bound false)
    | some "until" => skip; return some (← loop bound true)
    | some "for" => skip; return some (← each bound)
    | some "case" => skip; return some (← choice bound)
    | _ => return none

/-- Takes a condition behind its first word. -/
def cond (bound : Nat) : Reader Script :=
  match bound with
  | 0 => return .empty
  | bound + 1 => do
    let test ← body bound
    expectWord "then"
    let whenTrue ← body bound
    if ← wordNext "elif" then return .cond test whenTrue (← cond bound)
    else if ← wordNext "else" then
      let whenFalse ← body bound
      expectWord "fi"
      return .cond test whenTrue whenFalse
    else do
      expectWord "fi"
      return .cond test whenTrue .empty

/-- Takes the body of a loop. -/
def loopBody (bound : Nat) : Reader Script :=
  match bound with
  | 0 => return .empty
  | bound + 1 => do
    expectWord "do"
    let s ← body bound
    expectWord "done"
    return s

/-- Takes a conditional loop behind its first word. -/
def loop (bound : Nat) (untilTrue : Bool) : Reader Script :=
  match bound with
  | 0 => return .empty
  | bound + 1 => do
    let test ← body bound
    return .loop untilTrue test (← loopBody bound)

/-- Takes a loop over words behind its first word. -/
def each (bound : Nat) : Reader Script :=
  match bound with
  | 0 => return .empty
  | bound + 1 => do
    let n ← line
    match ← plainWord? with
    | some name =>
      if !isName name then throw (n, .loopVariable)
      skip
      newlines
      let ws ← if ← wordNext "in" then do
          let ws ← words bound
          if !(← operatorNext ";") then
            match ← here with
            | some .newline => pure ()
            | _ => refuse none
          pure (some ws)
        else do
          let _ ← operatorNext ";"
          pure none
      newlines
      return .each name ws (← loopBody bound)
    | none => throw (n, .loopVariable)

/-- Takes a choice behind its first word. -/
def choice (bound : Nat) : Reader Script :=
  match bound with
  | 0 => return .empty
  | bound + 1 => do
    match ← here with
    | some (.word subject) =>
      skip
      newlines
      expectWord "in"
      return .choice subject (← branches bound)
    | _ => refuse (some "word")

/-- Takes the branches of a choice and the word that ends it. -/
def branches (bound : Nat) : Reader (List (List Word × Script)) :=
  match bound with
  | 0 => return []
  | bound + 1 => do
    newlines
    if ← wordNext "esac" then return []
    let _ ← operatorNext "("
    let ps ← patterns bound
    let s ← list bound
    if ← operatorNext ";;" then return (ps, s) :: (← branches bound)
    else do
      newlines
      expectWord "esac"
      return [(ps, s)]

/-- Takes a simple command or the definition of a function. -/
def simple (bound : Nat) : Reader Script :=
  match bound with
  | 0 => return .empty
  | bound + 1 => do
    let n ← line
    if ← atEndOfList then refuse none
    let c ← simpleFrom bound ⟨n, [], [], []⟩
    match c with
    | ⟨_, [], [], []⟩ => refuse none
    | ⟨_, [], [w], []⟩ =>
      if ← operatorNext "(" then
        expectOperator ")"
        match plainText? w with
        | some name =>
          if !isName name then throw (n, .functionName)
          newlines
          return .function name (← command bound)
        | none => throw (n, .functionName)
      else return .simple c
    | c => return .simple c

end

/-- Takes the commands of the next line that has any. -/
def lineOfCommands : (bound : Nat) → Reader Script
  | 0 => return .empty
  | bound + 1 => do
    let first ← andOr (bound + 1)
    let separatedBy ← if ← operatorNext "&" then pure (some (Script.background first))
      else if ← operatorNext ";" then pure (some first)
      else pure none
    match separatedBy, ← here with
    | s, some .newline => skip; return s.getD first
    | s, none => return s.getD first
    | some s, some _ => return .seq s (← lineOfCommands bound)
    | none, some _ => refuse none

end Reader

/-- The line on which a script ends. -/
def endLine (ts : List Token) : Nat :=
  match ts.getLast? with
  | some (n, .newline) => n + 1
  | some (n, _) => n
  | none => 1

/-- The first commands of a script, up to the end of a line, and the tokens behind them. -/
def nextCommands (ts : List Token) : Except FaultAt (Option (Script × List Token)) :=
  let (_, ts) := ((Reader.newlines.run ts).toOption).getD ((), [])
  if ts.isEmpty then .ok none
  else match (Reader.lineOfCommands (8 * ts.length + 8)).run ts with
    | .ok result => .ok (some result)
    | .error (n, f) => .error (if n = 0 then endLine ts else n, f)

end BuildPilot.Shell
