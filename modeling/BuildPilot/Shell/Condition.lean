import BuildPilot.Shell.Arithmetic
import BuildPilot.Shell.State

/-!
# Conditions

Tests of texts, numbers and files, as words: comparisons of two operands, properties of one, and
their negations and joins.
-/

namespace BuildPilot.Shell

open FileSystem

/-- Why a condition is no condition. -/
inductive ConditionFault where
  | illegalNumber (s : String)
  /-- Something is left behind the word. -/
  | unexpectedOperator (s : String)
  | argumentExpected (s : String)
  | closingExpected

/-- The text of a fault. -/
def ConditionFault.message : ConditionFault → String
  | illegalNumber s => "Illegal number: " ++ s
  | unexpectedOperator s => s ++ ": unexpected operator"
  | argumentExpected s => s ++ ": argument expected"
  | closingExpected => "closing paren expected"

/-- The files that conditions are about. -/
structure Ground where
  files : FileSystem
  cwd : Location

/-- The operators of two operands. -/
def binaryTests : List String :=
  ["=", "!=", "<", ">", "-eq", "-ne", "-lt", "-gt", "-le", "-ge", "-nt", "-ot", "-ef"]

/-- The operators of one operand. -/
def unaryTests : List String :=
  ["-n", "-z", "-e", "-f", "-d", "-L", "-h", "-r", "-w", "-x", "-s", "-t", "-p", "-S", "-b", "-c",
    "-u", "-g", "-k", "-O", "-G"]

/-- The number that an operand denotes. -/
def operandNumber (s : String) : Except ConditionFault Int :=
  let t := (s.toList.dropWhile (· == ' ')).reverse.dropWhile (· == ' ') |>.reverse
  let (minus, body) := Numeric.splitSign t
  if !body.isEmpty && body.all Char.isDigit then
    .ok (Numeric.withSign minus (Numeric.ofDigits 10 0 (body.filterMap Text.asciiDigit?)))
  else .error (.illegalNumber s)

/-- Whether an operator of two operands holds. -/
def binaryHolds (g : Ground) (a o b : String) : Except ConditionFault Bool := do
  let numbers (f : Int → Int → Bool) : Except ConditionFault Bool := do
    return f (← operandNumber a) (← operandNumber b)
  match o with
  | "=" => return a == b
  | "!=" => return a != b
  | "<" => return a < b
  | ">" => return b < a
  | "-eq" => numbers (· == ·)
  | "-ne" => numbers (· != ·)
  | "-lt" => numbers fun m n => m < n
  | "-gt" => numbers fun m n => n < m
  | "-le" => numbers fun m n => m ≤ n
  | "-ge" => numbers fun m n => n ≤ m
  | "-ef" =>
    return match g.files.findText g.cwd true a, g.files.findText g.cwd true b with
      | .entry l _, .entry m _ => l == m
      | _, _ => false
  | _ => return false

/-- Whether an operator of one operand holds. -/
def unaryHolds (g : Ground) (o a : String) : Bool :=
  let found? := match g.files.findText g.cwd true a with
    | .entry _ e => some e
    | _ => none
  let may (bit : Nat → Bool) := match found? with
    | some (.file mode _) => bit mode
    | some _ => true
    | none => false
  match o with
  | "-n" => !a.isEmpty
  | "-z" => a.isEmpty
  | "-e" => found?.isSome || g.files.findText g.cwd true a == .absent World.nullFile
  | "-f" => (found?.map Entry.isFile).getD false
  | "-d" => (found?.map Entry.isDir).getD false
  | "-r" => may ownerMayRead
  | "-w" => may ownerMayWrite
  | "-x" => may ownerMayExecute
  | "-O" => found?.isSome
  | "-G" => found?.isSome
  | "-s" => match found? with
    | some (.file _ content) => !content.isEmpty
    | some _ => true
    | none => false
  | "-L" | "-h" => match g.files.findText g.cwd false a with
    | .entry _ (.link _) => true
    | _ => false
  | _ => false

/-- Whether the condition at the front of some words holds, and the words behind it. -/
abbrev Judged := Except ConditionFault (Bool × List String)

mutual

/-- Whether one of several conditions holds, and the words behind them. -/
def anyHolds (g : Ground) (bound : Nat) (ws : List String) : Judged :=
  match bound with
  | 0 => .error .closingExpected
  | bound + 1 => do
    let (a, rest) ← allHold g bound ws
    match rest with
    | "-o" :: rest =>
      let (b, rest) ← anyHolds g bound rest
      return (a || b, rest)
    | rest => return (a, rest)

/-- Whether several conditions hold, and the words behind them. -/
def allHold (g : Ground) (bound : Nat) (ws : List String) : Judged :=
  match bound with
  | 0 => .error .closingExpected
  | bound + 1 => do
    let (a, rest) ← oneHolds g bound ws
    match rest with
    | "-a" :: rest =>
      let (b, rest) ← allHold g bound rest
      return (a && b, rest)
    | rest => return (a, rest)

/-- Whether a single condition holds, and the words behind it. -/
def oneHolds (g : Ground) (bound : Nat) (ws : List String) : Judged :=
  match bound with
  | 0 => .error .closingExpected
  | bound + 1 =>
    match ws with
    | [] => .ok (false, [])
    | [a] => .ok (!a.isEmpty, [])
    | "!" :: rest =>
      match rest with
      | [o, b] =>
        if binaryTests.contains o then do return (← binaryHolds g "!" o b, [])
        else do
          let (h, rest) ← oneHolds g bound rest
          return (!h, rest)
      | rest => do
        let (h, rest) ← oneHolds g bound rest
        return (!h, rest)
    | a :: o :: rest =>
      match binaryTests.contains o, rest with
      | true, b :: rest => do return (← binaryHolds g a o b, rest)
      | _, rest =>
        if a == "(" then do
          let (h, rest) ← anyHolds g bound (o :: rest)
          match rest with
          | ")" :: rest => return (h, rest)
          | _ => throw .closingExpected
        else if unaryTests.contains a then .ok (unaryHolds g a o, rest)
        else if o == "-a" || o == "-o" || o == ")" then .ok (!a.isEmpty, o :: rest)
        else if o.isEmpty then .ok (!a.isEmpty, o :: rest)
        else .error (.unexpectedOperator a)

end

/-- Whether the condition that words are holds. -/
def conditionHolds (g : Ground) (ws : List String) : Except ConditionFault Bool := do
  let (h, rest) ← anyHolds g (4 * ws.length + 4) ws
  match rest with
  | [] => return h
  | w :: _ => throw (.unexpectedOperator w)

end BuildPilot.Shell
