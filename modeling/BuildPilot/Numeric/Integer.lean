import BuildPilot.Text.Blank
import BuildPilot.Text.DecimalDigit

/-!
# Whole numbers

Decimal numerals as people write them: blanks around, a sign, digits of any script, and single
underscores between digits. A numeral of more than 4300 digits is refused, on reading as well as on
writing.
-/

namespace BuildPilot.Numeric

open Text

/-- The greatest number of digits in a decimal numeral. -/
def maxDigits : Nat := 4300

/-- The number that a list of digits denotes in a base, behind the digits of `acc`. -/
def ofDigits (base : Nat) (acc : Nat) : List Nat → Nat
  | [] => acc
  | d :: ds => ofDigits base (acc * base + d) ds

/-- The digits of a numeral with single underscores between them; `ready` says whether an
underscore may come next. -/
def groupedDigits? (digit? : Char → Option Nat) (ready : Bool) : List Char → Option (List Nat)
  | [] => if ready then some [] else none
  | '_' :: s => if ready then groupedDigits? digit? false s else none
  | c :: s => do
    let d ← digit? c
    let ds ← groupedDigits? digit? true s
    return d :: ds

/-- A numeral without its sign, and whether the sign was a minus. -/
def splitSign : List Char → Bool × List Char
  | '+' :: s => (false, s)
  | '-' :: s => (true, s)
  | s => (false, s)

/-- The number of a sign and a magnitude. -/
def withSign (minus : Bool) (n : Nat) : Int := if minus then -(n : Int) else n

/-- The characters that count as blanks around a numeral: all blanks except the information
separators. -/
def numeralBlank (c : Char) : Bool := isBlank c && !(0x1C ≤ c.toNat && c.toNat ≤ 0x1F)

/-- A text without the blanks that may stand around a numeral. -/
def trimNumeral (s : List Char) : List Char :=
  ((s.dropWhile numeralBlank).reverse.dropWhile numeralBlank).reverse

/-- Reads a decimal numeral. -/
def readInteger? (s : String) : Option Int := do
  let (minus, body) := splitSign (trimNumeral s.toList)
  let ds ← groupedDigits? digit? false body
  if ds.length ≤ maxDigits then some (withSign minus (ofDigits 10 0 ds)) else none

/-- The value of a digit or letter in a base. -/
def basedDigit? (base : Nat) (c : Char) : Option Nat := do
  let d ← (digit? c).or (hexDigit? c)
  if d < base then some d else none

/-- A row of digits without the zero and the letter that announce its base, in either case. -/
def dropBaseMark (letter : Char) : List Char → List Char
  | '0' :: c :: s => if c.toLower == letter then s else '0' :: c :: s
  | s => s

/-- Reads a numeral in a base of at most sixteen, which a zero and a letter may announce. -/
def readBased? (base : Nat) (letter : Char) (s : List Char) : Option Int := do
  let (minus, body) := splitSign (trimNumeral s)
  let ds ← groupedDigits? (basedDigit? base) false (dropBaseMark letter body)
  return withSign minus (ofDigits base 0 ds)

/-- A whole number in decimal digits. -/
def decimal (n : Int) : String := toString n

/-- Whether a whole number has few enough digits to be written. -/
def isWritable (n : Int) : Bool := n.natAbs < Nat.pow 10 maxDigits

/-- What is said of a number that has too many digits to be written. -/
def unwritableMessage : String :=
  s!"Exceeds the limit ({maxDigits} digits) for integer string conversion; "
    ++ "use sys.set_int_max_str_digits() to increase the limit"

end BuildPilot.Numeric
