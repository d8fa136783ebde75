import BuildPilot.Numeric.Integer

/-!
# Arithmetic of the shell

Expressions over whole numbers of 64 bits with the operators of C. Assignments change variables;
the part of an expression that is not needed, behind `&&`, `||` and `?`, changes none.
-/

namespace BuildPilot.Shell

open Numeric

/-- Why an expression has no value. -/
inductive SumFault where
  /-- An operand is missing. -/
  | noOperand
  /-- Something is left behind the expression. -/
  | notAtEnd
  /-- A parenthesis is not closed. -/
  | openParenthesis
  /-- The second part of a choice is missing. -/
  | noColon
  | divisionByZero
  /-- A variable has a value that is no number. -/
  | notANumber (value : String)
deriving DecidableEq, Repr

/-- The text of a fault in an expression. -/
def SumFault.message (expression : String) : SumFault → String
  | noOperand => "arithmetic expression: expecting primary: \"" ++ expression ++ "\""
  | notAtEnd => "arithmetic expression: expecting EOF: \"" ++ expression ++ "\""
  | openParenthesis => "arithmetic expression: expecting ')': \"" ++ expression ++ "\""
  | noColon => "arithmetic expression: expecting ':': \"" ++ expression ++ "\""
  | divisionByZero => "arithmetic expression: division by zero: \"" ++ expression ++ "\""
  | notANumber value => "Illegal number: " ++ value

/-- A token of an expression. -/
inductive SumToken where
  | number (n : Int)
  | name (s : String)
  | operator (s : String)
deriving DecidableEq, Repr

/-- A number cut to 64 bits. -/
def wrap64 (n : Int) : Int := n.bmod (Nat.pow 2 64)

/-- The numeral at the front of a text, in the base that it announces, and what follows it. -/
def numeral (s : List Char) : Nat × List Char :=
  let read (base : Nat) (s : List Char) : Nat × List Char :=
    let digits := s.takeWhile fun c => (basedDigit? base c).isSome
    (ofDigits base 0 (digits.filterMap (basedDigit? base)), s.drop digits.length)
  match s with
  | '0' :: 'x' :: r => read 16 r
  | '0' :: 'X' :: r => read 16 r
  | '0' :: r => read 8 ('0' :: r)
  | r => read 10 r

/-- The greatest number. -/
def maxNumber : Nat := Nat.pow 2 63 - 1

/-- The number that a value of a variable denotes. -/
def numberOf? (value : String) : Option Int :=
  let s := value.toList.dropWhile fun c => c == ' ' || c == '\t' || c == '\n'
  if s.isEmpty then some 0
  else
    let (minus, body) := splitSign s
    let (n, rest) := numeral body
    let starts := (body.head?.map Char.isDigit).getD false
    if starts && rest.all (fun c => c == ' ' || c == '\t' || c == '\n') then
      some (withSign minus (min n maxNumber))
    else none

/-- The operators of expressions, longer ones before the shorter ones that they start with. -/
def sumOperators : List String :=
  ["<<=", ">>=", "<<", ">>", "<=", ">=", "==", "!=", "&&", "||", "+=", "-=", "*=", "/=", "%=", "&=",
    "^=", "|=", "+", "-", "*", "/", "%", "<", ">", "=", "!", "~", "&", "^", "|", "?", ":", "(", ")"]

/-- The tokens of an expression. -/
def sumTokens : (bound : Nat) → List Char → Except SumFault (List SumToken)
  | 0, _ => .ok []
  | _, [] => .ok []
  | bound + 1, c :: s =>
    if c == ' ' || c == '\t' || c == '\n' then sumTokens bound s
    else if c.isDigit then do
      let (n, rest) := numeral (c :: s)
      return .number (min n maxNumber) :: (← sumTokens bound rest)
    else if c.isAlpha || c == '_' then do
      let inName (c : Char) := c.isAlphanum || c == '_'
      let name := String.ofList ((c :: s).takeWhile inName)
      return .name name :: (← sumTokens bound ((c :: s).dropWhile inName))
    else match sumOperators.find? fun o => o.toList.isPrefixOf (c :: s) with
      | some o => do return .operator o :: (← sumTokens bound ((c :: s).drop o.length))
      | none => do return .operator c.toString :: (← sumTokens bound s)

/-- The operators of two operands by how tightly they bind, the loosest ones first. -/
def levels : List (List String) :=
  [["||"], ["&&"], ["|"], ["^"], ["&"], ["==", "!="], ["<=", ">=", "<", ">"], ["<<", ">>"],
    ["+", "-"], ["*", "/", "%"]]

/-- A truth value as a number. -/
def truth (b : Bool) : Int := if b then 1 else 0

/-- The number of a row of 64 bits. -/
def ofBits (f : UInt64 → UInt64 → UInt64) (a b : Int) : Int :=
  wrap64 (f (UInt64.ofInt a) (UInt64.ofInt b)).toNat

/-- The value of an operator of two operands. -/
def applyOperator (o : String) (a b : Int) : Except SumFault Int :=
  match o with
  | "||" => .ok (truth (a != 0 || b != 0))
  | "&&" => .ok (truth (a != 0 && b != 0))
  | "|" => .ok (ofBits (· ||| ·) a b)
  | "^" => .ok (ofBits (· ^^^ ·) a b)
  | "&" => .ok (ofBits (· &&& ·) a b)
  | "==" => .ok (truth (a == b))
  | "!=" => .ok (truth (a != b))
  | "<=" => .ok (truth (a ≤ b))
  | ">=" => .ok (truth (b ≤ a))
  | "<" => .ok (truth (a < b))
  | ">" => .ok (truth (b < a))
  | "<<" => .ok (wrap64 (a * Nat.pow 2 (b % 64).toNat))
  | ">>" => .ok (a / Nat.pow 2 (b % 64).toNat)
  | "+" => .ok (wrap64 (a + b))
  | "-" => .ok (wrap64 (a - b))
  | "*" => .ok (wrap64 (a * b))
  | "/" => if b = 0 then .error .divisionByZero else .ok (wrap64 (a.tdiv b))
  | "%" => if b = 0 then .error .divisionByZero else .ok (a.tmod b)
  | _ => .error .noOperand

/-- An evaluation: the tokens ahead and the assignments that were made, last one first. -/
structure Sum where
  ahead : List SumToken
  assigned : List (String × Int)

/-- A part of an evaluation. -/
abbrev Summing := StateT Sum (Except SumFault)

namespace Summing

/-- Takes an operator if it comes next. -/
def next (o : String) : Summing Bool := do
  let s ← get
  match s.ahead with
  | .operator p :: rest =>
    if p == o then set { s with ahead := rest }; return true else return false
  | _ => return false

/-- Takes one of several operators if it comes next. -/
def nextOf (os : List String) : Summing (Option String) := do
  let s ← get
  match s.ahead with
  | .operator p :: rest =>
    if os.contains p then set { s with ahead := rest }; return some p else return none
  | _ => return none

/-- The value of a variable. -/
def valueOf (get? : String → Option String) (name : String) : Summing Int := do
  match (← get).assigned.lookup name with
  | some n => return n
  | none =>
    let text := (get? name).getD ""
    match numberOf? text with
    | some n => return n
    | none => throw (.notANumber text)

/-- Gives a variable a value, if that part of the expression is needed. -/
def assign (needed : Bool) (name : String) (n : Int) : Summing Int := do
  if needed then modify fun s => { s with assigned := (name, n) :: s.assigned }
  return n

mutual

/-- The value of an expression. -/
def expression (get? : String → Option String) (bound : Nat) (needed : Bool) : Summing Int :=
  match bound with
  | 0 => throw .noOperand
  | bound + 1 => do
    match (← get).ahead with
    | .name x :: .operator o :: rest =>
      if o == "=" then
        modify fun s => { s with ahead := rest }
        assign needed x (← expression get? bound needed)
      else if o.length ≥ 2 && o.endsWith "=" && !(["==", "!=", "<=", ">="].contains o) then
        modify fun s => { s with ahead := rest }
        let a ← valueOf get? x
        let b ← expression get? bound needed
        let n ← if needed then applyOperator (o.dropEnd 1).toString a b else pure 0
        assign needed x n
      else conditional get? bound needed
    | _ => conditional get? bound needed

/-- The value of a choice. -/
def conditional (get? : String → Option String) (bound : Nat) (needed : Bool) : Summing Int :=
  match bound with
  | 0 => throw .noOperand
  | bound + 1 => do
    let test ← level get? bound needed levels
    if ← next "?" then
      let a ← expression get? bound (needed && test != 0)
      if !(← next ":") then throw .noColon
      let b ← conditional get? bound (needed && test == 0)
      return if test != 0 then a else b
    else return test

/-- The value of operands joined by operators that bind at least as tightly as the given ones. -/
def level (get? : String → Option String) (bound : Nat) (needed : Bool) (ls : List (List String)) :
    Summing Int :=
  match bound with
  | 0 => throw .noOperand
  | bound + 1 => do
    match ls with
    | [] => operand get? bound needed
    | os :: ls => levelFrom get? bound needed os ls (← level get? bound needed ls)

/-- The value of further operands behind a first one. -/
def levelFrom (get? : String → Option String) (bound : Nat) (needed : Bool) (os : List String)
    (ls : List (List String)) (a : Int) : Summing Int :=
  match bound with
  | 0 => throw .noOperand
  | bound + 1 => do
    match ← nextOf os with
    | none => return a
    | some o =>
      let wanted := needed && !(o == "&&" && a == 0) && !(o == "||" && a != 0)
      let b ← level get? bound wanted ls
      let n ← if needed then applyOperator o a b else pure 0
      levelFrom get? bound needed os ls n

/-- The value of an operand. -/
def operand (get? : String → Option String) (bound : Nat) (needed : Bool) : Summing Int :=
  match bound with
  | 0 => throw .noOperand
  | bound + 1 => do
    let s ← get
    match s.ahead with
    | .number n :: rest => set { s with ahead := rest }; return n
    | .name x :: rest => set { s with ahead := rest }; valueOf get? x
    | .operator "-" :: rest =>
      set { s with ahead := rest }
      return wrap64 (-(← operand get? bound needed))
    | .operator "+" :: rest => set { s with ahead := rest }; operand get? bound needed
    | .operator "!" :: rest =>
      set { s with ahead := rest }
      return truth ((← operand get? bound needed) == 0)
    | .operator "~" :: rest =>
      set { s with ahead := rest }
      return -(← operand get? bound needed) - 1
    | .operator "(" :: rest =>
      set { s with ahead := rest }
      let n ← expression get? bound needed
      if !(← next ")") then throw .openParenthesis
      return n
    | _ => throw .noOperand

end

end Summing

/-- The value of an expression, with the assignments that it makes, in order. An expression without
any token is zero. -/
def sumOf (get? : String → Option String) (expression : String) :
    Except SumFault (Int × List (String × Int)) := do
  let s := expression.toList
  let ts ← sumTokens (s.length + 1) s
  if ts.isEmpty then return (0, [])
  let (n, after) ← (Summing.expression get? (16 * ts.length + 16) true).run ⟨ts, []⟩
  if after.ahead.isEmpty then return (n, after.assigned.reverse) else throw .notAtEnd

end BuildPilot.Shell
