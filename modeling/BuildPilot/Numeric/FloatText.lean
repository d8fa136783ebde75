import BuildPilot.Numeric.Integer
import BuildPilot.Numeric.Shortest

/-!
# The text of floating-point numbers

`FloatNotation.default` holds the decisions of the format: exponents from -4 to 15 are written
positionally, whole numbers keep one zero behind the point, and other exponents have a sign and at
least two digits. `readFloat?` reads any of these texts back, and more.
-/

namespace BuildPilot.Numeric

open Text

/-- How the digits of a number are laid out. -/
structure FloatNotation where
  /-- The least exponent of the leading digit that is written positionally. -/
  plainFrom : Int
  /-- The least exponent of the leading digit, above `plainFrom`, that is not. -/
  plainBelow : Int
  /-- The text of infinity. -/
  infinity : String
  /-- The text of a value that is no number. -/
  notANumber : String

/-- Numbers below `10 ^ 16` and from `10 ^ -4` up are written positionally. -/
def FloatNotation.default : FloatNotation where
  plainFrom := -4
  plainBelow := 16
  infinity := "inf"
  notANumber := "nan"

/-- A row of zeros. -/
def zeros (n : Nat) : String := String.ofList (List.replicate n '0')

/-- A decimal with a signed exponent of at least two digits. -/
def scientific (ds : List Char) (e : Int) : String :=
  let mantissa := match ds with
    | [] => "0"
    | [d] => String.ofList [d]
    | d :: rest => String.ofList (d :: '.' :: rest)
  let size := e.natAbs
  let pad := if size < 10 then "0" else ""
  mantissa ++ "e" ++ (if e < 0 then "-" else "+") ++ pad ++ toString size

/-- A decimal in positional notation, where `e` is the exponent of the leading digit. -/
def positional (ds : List Char) (e : Int) : String :=
  if e < 0 then "0." ++ zeros (-e - 1).toNat ++ String.ofList ds
  else
    let whole := e.toNat + 1
    if ds.length ≤ whole then String.ofList ds ++ zeros (whole - ds.length) ++ ".0"
    else String.ofList (ds.take whole) ++ "." ++ String.ofList (ds.drop whole)

/-- A decimal laid out by the notation. -/
def FloatNotation.layout (f : FloatNotation) (d : Decimal) : String :=
  let ds := (toString d.digits).toList
  let e := d.exp + ds.length - 1
  if f.plainFrom ≤ e ∧ e < f.plainBelow then positional ds e else scientific ds e

/-- The text of a number: its shortest digits in the given notation. -/
def FloatNotation.render (f : FloatNotation) (x : Float) : String :=
  let sign := if x.toBits >>> 63 == 1 then "-" else ""
  if x.isNaN then f.notANumber
  else if x.isInf then sign ++ f.infinity
  else if x == 0 then sign ++ "0.0"
  else sign ++ f.layout (Binary.ofBits x.toBits).shortest

/-- The text of a number. -/
def floatText (x : Float) : String := FloatNotation.default.render x

/-- Infinity. -/
def infinity : Float := Float.ofBits 0x7FF0000000000000

/-- The value that is no number. -/
def notANumber : Float := Float.ofBits 0x7FF8000000000000

/-- The number nearest to `digits * 10 ^ exp`. Exponents far outside the range of the type are cut
off before the power is computed. -/
def floatOfDecimal (digits : Nat) (exp : Int) : Float :=
  if digits = 0 then 0
  else
    let lead := exp + (toString digits).length
    if lead > 400 then infinity
    else if lead < -400 then 0
    else Float.ofScientific digits (exp < 0) exp.natAbs

/-- A number with a sign. -/
def signedFloat (minus : Bool) (x : Float) : Float := if minus then -x else x

/-- The exponent of a floating-point numeral: nothing, or the letter, a sign and digits. -/
def readExponent? (digit? : Char → Option Nat) : List Char → Option Int
  | [] => some 0
  | c :: s =>
    if c == 'e' || c == 'E' then do
      let (minus, body) := splitSign s
      let ds ← groupedDigits? digit? false body
      return withSign minus (ofDigits 10 0 ds)
    else none

/-- A run of digits that may be empty. -/
def optionalDigits? (digit? : Char → Option Nat) (s : List Char) : Option (List Nat) :=
  if s.isEmpty then some [] else groupedDigits? digit? false s

/-- Reads an unsigned numeral with an optional fraction and exponent. -/
def readMagnitude? (digit? : Char → Option Nat) (s : List Char) : Option Float := do
  let mantissa := s.takeWhile fun c => c != 'e' && c != 'E'
  let exp ← readExponent? digit? (s.dropWhile fun c => c != 'e' && c != 'E')
  let whole ← optionalDigits? digit? (mantissa.takeWhile (· != '.'))
  let fraction ← match mantissa.dropWhile (· != '.') with
    | [] => some []
    | _ :: rest => optionalDigits? digit? rest
  if whole.isEmpty && fraction.isEmpty then none
  else some (floatOfDecimal (ofDigits 10 0 (whole ++ fraction)) (exp - fraction.length))

/-- Reads a floating-point numeral, with blanks around it, a sign, and the names of infinity and
of the value that is no number in any case. -/
def readFloat? (s : String) : Option Float := do
  let (minus, body) := splitSign (trimNumeral s.toList)
  let word := String.ofList (body.map Char.toLower)
  let magnitude ←
    if word == "inf" || word == "infinity" then some infinity
    else if word == "nan" then some notANumber
    else readMagnitude? digit? body
  return signedFloat minus magnitude

end BuildPilot.Numeric
