import BuildPilot.Text.Printable

/-!
# Quoted texts

The quoted form of a text, as it stands in messages: single quotes unless the text holds a single
quote and no double quote, the three common control characters by letter, and every other
character that is not printable by its code in two, four or eight hexadecimal digits.
-/

namespace BuildPilot.Text

/-- The lower-case hexadecimal digit of a number below sixteen. -/
def hexDigit (n : Nat) : Char :=
  if n < 10 then Char.ofNat (0x30 + n) else Char.ofNat (0x57 + n)

/-- The last `width` hexadecimal digits of a number. -/
def hexDigits (n : Nat) : (width : Nat) → List Char
  | 0 => []
  | width + 1 => hexDigits (n / 16) width ++ [hexDigit (n % 16)]

/-- The quote that encloses a text. -/
def quoteMark (s : List Char) : Char :=
  if s.contains '\'' && !s.contains '"' then '"' else '\''

/-- The code of a character that cannot stand for itself. -/
def escapedCode (c : Char) : List Char :=
  if c.toNat < 0x100 then '\\' :: 'x' :: hexDigits c.toNat 2
  else if c.toNat < 0x10000 then '\\' :: 'u' :: hexDigits c.toNat 4
  else '\\' :: 'U' :: hexDigits c.toNat 8

/-- A character inside quotes of the kind `mark`. -/
def escapeChar (mark c : Char) : List Char :=
  if c == mark || c == '\\' then ['\\', c]
  else if c == '\t' then ['\\', 't']
  else if c == '\n' then ['\\', 'n']
  else if c == '\r' then ['\\', 'r']
  else if isPrintable c then [c]
  else escapedCode c

/-- A text in quotes. -/
def quoted (s : String) : String :=
  let mark := quoteMark s.toList
  String.ofList (mark :: s.toList.flatMap (escapeChar mark) ++ [mark])

/-- An octet inside quotes of the kind `mark`: only the printable ASCII characters stand for
themselves. -/
def escapeOctet (mark : Char) (b : UInt8) : List Char :=
  let c := Char.ofNat b.toNat
  if 0x20 ≤ b && b < 0x7F then escapeChar mark c
  else if c == '\t' || c == '\n' || c == '\r' then escapeChar mark c
  else '\\' :: 'x' :: hexDigits b.toNat 2

/-- A sequence of octets in quotes, behind the letter that marks it as one. -/
def quotedOctets (bs : List UInt8) : String :=
  let mark := quoteMark (bs.map fun b => Char.ofNat b.toNat)
  String.ofList ('b' :: mark :: bs.flatMap (escapeOctet mark) ++ [mark])

end BuildPilot.Text
