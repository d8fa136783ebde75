import BuildPilot.Document.Toml.Lexeme
import BuildPilot.Document.Value

/-!
# Dates, times and numbers

The unquoted values of a document of tables, except for the two truth values. A date may be followed
by a time of day, and that by an offset. A date that the calendar does not have is malformed, and a
decimal whole number with too many digits has no value.
-/

namespace BuildPilot.Document.Toml

open Numeric Text

/-! ## Dates and times -/

/-- The number of a row of exactly `width` decimal digits at the front, and the rest. -/
def fixed? (width : Nat) (s : List Char) : Option (Nat × List Char) := do
  let ds ← (s.take width).mapM asciiDigit?
  if ds.length = width then some (ofDigits 10 0 ds, s.drop width) else none

/-- A fixed row of digits whose number lies between two bounds. -/
def within? (width low high : Nat) (s : List Char) : Option (Nat × List Char) := do
  let (n, rest) ← fixed? width s
  if low ≤ n ∧ n ≤ high then some (n, rest) else none

/-- The rest behind one of the given characters. -/
def behind? (marks : List Char) : List Char → Option (List Char)
  | c :: rest => if marks.contains c then some rest else none
  | [] => none

/-- Year, month and day at the front, the day at most 31, and the rest. -/
def dateFields? (s : List Char) : Option ((Nat × Nat × Nat) × List Char) := do
  let (y, s) ← fixed? 4 s
  let (m, s) ← within? 2 1 12 (← behind? ['-'] s)
  let (d, s) ← within? 2 1 31 (← behind? ['-'] s)
  return ((y, m, d), s)

/-- The microseconds of a fraction: six digits count, and missing ones are zero. -/
def microseconds (ds : List Char) : Nat :=
  ofDigits 10 0 (((ds ++ List.replicate 6 '0').take 6).filterMap asciiDigit?)

/-- A time of day at the front, and the rest. -/
def timeFields? (s : List Char) : Option (Time × List Char) := do
  let (h, s) ← within? 2 0 23 s
  let (m, s) ← within? 2 0 59 (← behind? [':'] s)
  let (sec, s) ← within? 2 0 59 (← behind? [':'] s)
  match s with
  | '.' :: rest =>
    let ds := rest.takeWhile Char.isDigit
    if ds.isEmpty then return (⟨h, m, sec, 0, none⟩, s)
    else return (⟨h, m, sec, microseconds ds, none⟩, rest.drop ds.length)
  | _ => return (⟨h, m, sec, 0, none⟩, s)

/-- An offset from universal time at the front, and the rest. -/
def offset? (s : List Char) : Option (Int × List Char) := do
  match s with
  | 'Z' :: s => return (0, s)
  | 'z' :: s => return (0, s)
  | _ =>
    let rest ← behind? ['+', '-'] s
    let (h, rest) ← within? 2 0 23 rest
    let (m, rest) ← within? 2 0 59 (← behind? [':'] rest)
    return (withSign (s.head? == some '-') (h * 3600 + m * 60), rest)

/-- A time of day with its offset behind a date, and the rest. -/
def timeBehind? (s : List Char) : Option (Time × List Char) := do
  let (t, s) ← timeFields? (← behind? ['T', 't', ' '] s)
  match offset? s with
  | some (o, s) => return (⟨t.hour, t.minute, t.second, t.micro, some o⟩, s)
  | none => return (t, s)

/-- Takes a date, a date and time, or a time of day, if the rest starts with one. -/
def calendar? : Reader (Option Value) := do
  let s ← get
  match dateFields? s with
  | some ((y, m, d), rest) =>
    match Date.of? y m d with
    | none => fail
    | some date =>
      match timeBehind? rest with
      | some (t, rest) =>
        set rest
        return some (.dateTime ⟨date, t⟩)
      | none =>
        set rest
        return some (.date date)
  | none =>
    match timeFields? s with
    | some (t, rest) =>
      set rest
      return some (.time t)
    | none => return none

/-! ## Numbers -/

/-- The digits at the front, single underscores between them allowed, as they are written. -/
def digitRun (isDigit : Char → Bool) : List Char → List Char
  | [] => []
  | c :: s =>
    if isDigit c then c :: digitRun isDigit s
    else if c == '_' then
      match s with
      | d :: s => if isDigit d then '_' :: d :: digitRun isDigit s else []
      | [] => []
    else []

/-- A row of digits at the front that does not start with an underscore. -/
def digits (isDigit : Char → Bool) (s : List Char) : List Char :=
  if (s.head?.map isDigit).getD false then digitRun isDigit s else []

/-- The number of a written row of digits. -/
def numberOf (base : Nat) (s : List Char) : Nat := ofDigits base 0 (s.filterMap hexDigit?)

/-- The letters that announce a base other than ten. -/
def baseOf? : Char → Option (Nat × (Char → Bool))
  | 'x' => some (16, fun c => (hexDigit? c).isSome)
  | 'o' => some (8, fun c => '0' ≤ c && c ≤ '7')
  | 'b' => some (2, fun c => c == '0' || c == '1')
  | _ => none

/-- A whole number in another base at the front, and the rest. -/
def based? : List Char → Option (Nat × List Char)
  | '0' :: letter :: s => do
    let (base, isDigit) ← baseOf? letter
    let ds := digits isDigit s
    if ds.isEmpty then none else some (numberOf base ds, s.drop ds.length)
  | _ => none

/-- The whole part of a decimal number: a zero alone, or digits that do not start with zero. -/
def wholePart (s : List Char) : List Char :=
  match s with
  | '0' :: _ => ['0']
  | _ => digits Char.isDigit s

/-- A fraction with its point at the front, or nothing. -/
def fractionPart (s : List Char) : List Char :=
  match s with
  | '.' :: s =>
    let ds := digits Char.isDigit s
    if ds.isEmpty then [] else '.' :: ds
  | _ => []

/-- An exponent with its letter at the front, or nothing. -/
def exponentPart (s : List Char) : List Char :=
  match s with
  | e :: s =>
    if e == 'e' || e == 'E' then
      let sign := s.takeWhile fun c => c == '+' || c == '-'
      let ds := digits Char.isDigit (s.drop sign.length)
      if ds.isEmpty || sign.length > 1 then [] else e :: sign ++ ds
    else []
  | [] => []

/-- Takes a decimal number, if the rest starts with one. -/
def decimal? : Reader (Option Value) := do
  let s ← get
  let sign := (s.take 1).filter fun c => c == '+' || c == '-'
  let s := s.drop sign.length
  let minus := sign == ['-']
  let whole := wholePart s
  if whole.isEmpty then
    for (word, x) in [("inf", infinity), ("nan", notANumber)] do
      if word.toList.isPrefixOf s then
        set (s.drop 3)
        return some (.float (signedFloat minus x))
    return none
  let s := s.drop whole.length
  let fraction := fractionPart s
  let s := s.drop fraction.length
  let exponent := exponentPart s
  set (s.drop exponent.length)
  if fraction.isEmpty && exponent.isEmpty then
    if maxDigits < (whole.filter Char.isDigit).length then throw .badValue
    else return some (.int (withSign minus (numberOf 10 whole)))
  else
    match readMagnitude? asciiDigit? (whole ++ fraction ++ exponent) with
    | some x => return some (.float (signedFloat minus x))
    | none => fail

/-- Takes a number in any base, if the rest starts with one. -/
def number? : Reader (Option Value) := do
  match based? (← get) with
  | some (n, rest) =>
    set rest
    return some (.int n)
  | none => decimal?

/-- Takes an unquoted value. -/
def scalar : Reader Value := do
  if ← Reader.skip "true" then return .bool true
  if ← Reader.skip "false" then return .bool false
  match ← calendar? with
  | some v => return v
  | none =>
    match ← number? with
    | some v => return v
    | none => fail

end BuildPilot.Document.Toml
