import BuildPilot.Document.Yaml.Timestamp
import BuildPilot.Text.Split

/-!
# What a plain text means

A text without marks around it may be nothing, a truth value, a number or a timestamp; which of them
it is follows from its form alone.
-/

namespace BuildPilot.Document.Yaml

open Text

/-- The types of values in an indented document. -/
inductive Tag where
  | null
  | bool
  | int
  | float
  | timestamp
  | octets
  | text
  | list
  | orderedMap
  | pairs
  | set
  | map
  /-- The key whose value is merged into the mapping. -/
  | merge
  /-- The key whose value stands for the mapping where a text is wanted. -/
  | standIn
  /-- A type without values here. -/
  | unknown
deriving DecidableEq, Repr

/-- The names of the types. -/
def Tag.names : List (String × Tag) :=
  [("null", .null), ("bool", .bool), ("int", .int), ("float", .float), ("timestamp", .timestamp),
    ("binary", .octets), ("str", .text), ("seq", .list), ("omap", .orderedMap), ("pairs", .pairs),
    ("set", .set), ("map", .map), ("merge", .merge), ("value", .standIn)]

/-- What the names of the types stand behind. -/
def Tag.space : String := "tag:yaml.org,2002:"

/-- The type of a full tag. -/
def Tag.ofText (s : String) : Tag :=
  ((Tag.names.find? fun (name, _) => Tag.space ++ name == s).map (·.2)).getD .unknown

/-! ## Forms -/

/-- The text without its sign. -/
def unsigned : List Char → List Char
  | '+' :: s => s
  | '-' :: s => s
  | s => s

/-- A digit or an underscore. -/
def isGrouped (c : Char) : Bool := c.isDigit || c == '_'

/-- Digits and underscores that start with a digit. -/
def isGroupedNumber : List Char → Bool
  | c :: s => c.isDigit && s.all isGrouped
  | [] => false

/-- A number of minutes or seconds: one or two digits, less than sixty. -/
def isSixtieth : List Char → Bool
  | [c] => c.isDigit
  | [b, c] => '0' ≤ b && b ≤ '5' && c.isDigit
  | _ => false

/-- An octal or a binary digit or an underscore. -/
def isBelow (top : Char) (c : Char) : Bool := ('0' ≤ c && c ≤ top) || c == '_'

/-- The form of an unsigned whole number: in base two, sixteen, eight, ten or sixty. -/
def isWhole : List Char → Bool
  | ['0'] => true
  | '0' :: 'b' :: s => !s.isEmpty && s.all (isBelow '1')
  | '0' :: 'x' :: s => !s.isEmpty && s.all fun c => (hexDigit? c).isSome || c == '_'
  | '0' :: s => s.all (isBelow '7')
  | s => match splitAtEach ':' s with
    | first :: rest => isGroupedNumber first && rest.all isSixtieth
    | [] => false

/-- The form of an exponent: nothing, or the letter, a sign and digits. -/
def isExponent : List Char → Bool
  | [] => true
  | e :: sign :: s =>
    (e == 'e' || e == 'E') && (sign == '+' || sign == '-') && !s.isEmpty && s.all Char.isDigit
  | _ => false

/-- What may follow the point of a floating-point number. -/
def isFraction (s : List Char) : Bool := isExponent (s.dropWhile isGrouped)

/-- The form of the whole part before a point: digits, or numbers in base sixty. -/
def isWholePart (s : List Char) : Bool :=
  match splitAtEach ':' s with
  | first :: rest => isGroupedNumber first && rest.all isSixtieth
  | [] => false

/-- The form of a floating-point number. Only with a whole part may it have a sign, and a number in
base sixty has no exponent. -/
def isFloating (s : List Char) : Bool :=
  let body := unsigned s
  if [".inf", ".Inf", ".INF"].contains (String.ofList body) then true
  else if [".nan", ".NaN", ".NAN"].contains (String.ofList s) then true
  else match cutAtFirst '.' body with
    | none => false
    | some ([], fraction) =>
      body.length == s.length && (fraction.head?.map Char.isDigit).getD false && isFraction fraction
    | some (whole, fraction) =>
      isWholePart whole
        && if whole.contains ':' then fraction.all isGrouped else isFraction fraction

/-- The words for truth values. -/
def boolWords : List String :=
  ["yes", "Yes", "YES", "no", "No", "NO", "true", "True", "TRUE", "false", "False", "FALSE",
    "on", "On", "ON", "off", "Off", "OFF"]

/-- The words for nothing. -/
def nullWords : List String := ["", "~", "null", "Null", "NULL"]

/-- A text without the line feed at its end, if there is one. -/
def withoutLastBreak (s : List Char) : List Char :=
  if s.getLast? == some '\n' then s.dropLast else s

/-- The type of a plain text. A line feed at its end does not count. -/
def Tag.ofPlain (s : String) : Tag :=
  let cs := s.toList
  let cs := if 1 < cs.length then withoutLastBreak cs else cs
  let word := String.ofList cs
  if boolWords.contains word then .bool
  else if nullWords.contains word then .null
  else if isFloating cs then .float
  else if isWhole (unsigned cs) then .int
  else if isTimestamp cs then .timestamp
  else if word == "<<" then .merge
  else if word == "=" then .standIn
  else .text

end BuildPilot.Document.Yaml
