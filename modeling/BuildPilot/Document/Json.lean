import BuildPilot.Document.Reader
import BuildPilot.Text.Utf8

/-!
# Documents in brace notation

Objects, arrays, texts in double quotes, numbers and three words, with blanks between them. The
names of infinity and of the value that is no number are numbers too. Of two entries with one key
the last one counts, in the place of the first. Objects and arrays may not be nested too deep.
-/

namespace BuildPilot.Document.Json

open Numeric Text

/-- The failure of every malformed document. -/
def fail {α : Type} : Reader α := throw (.badSyntax .json)

/-- Whether a character may stand between tokens. -/
def isSpace (c : Char) : Bool := c == ' ' || c == '\t' || c == '\n' || c == '\r'

/-- Drops the blanks between tokens. -/
def skipSpace : Reader Unit := Reader.skipWhile isSpace

/-- The characters with an escape of one letter. -/
def escapeOf? : Char → Option Char
  | '"' => some '"'
  | '\\' => some '\\'
  | '/' => some '/'
  | 'b' => some '\x08'
  | 'f' => some '\x0c'
  | 'n' => some '\n'
  | 'r' => some '\r'
  | 't' => some '\t'
  | _ => none

/-- Takes four hexadecimal digits. -/
def fourDigits : Reader Nat := do
  let ds := (← get).take 4
  match ds.mapM hexDigit? with
  | some [a, b, c, d] =>
    Reader.dropMany 4
    return ofDigits 16 0 [a, b, c, d]
  | _ => fail

/-- Takes the rest of an escape by number: a code above the first plane comes as a pair. Half a pair
would be a lone surrogate, which may stand in a text but cannot be encoded when it is printed. A text
of the model holds characters only, so half a pair is read as the replacement character. -/
def numberedChar : Reader Char := do
  let high ← fourDigits
  if 0xD800 ≤ high ∧ high < 0xDC00 then
    match ← get with
    | '\\' :: 'u' :: rest =>
      match (rest.take 4).mapM hexDigit? with
      | some ds =>
        let low := ofDigits 16 0 ds
        if ds.length = 4 ∧ 0xDC00 ≤ low ∧ low < 0xE000 then
          Reader.dropMany 6
          return Char.ofNat (0x10000 + (high - 0xD800) * 0x400 + (low - 0xDC00))
        else return replacement
      | none => return replacement
    | _ => return replacement
  else return (charOf? high).getD replacement

/-- Takes the characters of a text up to its closing quote. -/
def textBody : (bound : Nat) → Reader (List Char)
  | 0 => fail
  | bound + 1 => do
    match ← Reader.next? with
    | none => fail
    | some '"' => return []
    | some '\\' =>
      let c ← match ← Reader.next? with
        | some 'u' => numberedChar
        | some e => match escapeOf? e with
          | some c => pure c
          | none => fail
        | none => fail
      return c :: (← textBody bound)
    | some c =>
      if c.toNat < 0x20 then fail
      else return c :: (← textBody bound)

/-- Takes a text behind its opening quote. -/
def text : Reader String := do return String.ofList (← textBody ((← get).length + 1))

/-- Takes the fraction of a number, if the rest starts with one. -/
def fraction : Reader (List Char) := do
  match ← get with
  | '.' :: rest =>
    let ds := rest.takeWhile Char.isDigit
    if ds.isEmpty then return []
    else
      Reader.dropMany (ds.length + 1)
      return '.' :: ds
  | _ => return []

/-- Takes the exponent of a number, if the rest starts with one. -/
def exponent : Reader (List Char) := do
  match ← get with
  | e :: rest =>
    if e == 'e' || e == 'E' then
      let (sign, digits) := match rest with
        | '+' :: s => (['+'], s)
        | '-' :: s => (['-'], s)
        | s => ([], s)
      let ds := digits.takeWhile Char.isDigit
      if ds.isEmpty then return []
      else
        Reader.dropMany (1 + sign.length + ds.length)
        return 'e' :: sign ++ ds
    else return []
  | [] => return []

/-- The whole number of a run of digits; too many digits have no value. -/
def wholeNumber (minus : Bool) (ds : List Char) : Reader Value :=
  if maxDigits < ds.length then throw .badValue
  else return .int (withSign minus (ofDigits 10 0 (ds.filterMap asciiDigit?)))

/-- Takes a number. -/
def number : Reader Value := do
  let minus ← Reader.skip "-"
  if minus && (← Reader.skip "Infinity") then return .float (-infinity)
  let ds ← match ← get with
    | '0' :: _ => do
      Reader.drop
      pure ['0']
    | _ => Reader.takeWhile Char.isDigit
  if ds.isEmpty then fail
  let frac ← fraction
  let exp ← exponent
  if frac.isEmpty && exp.isEmpty then wholeNumber minus ds
  else
    match readMagnitude? asciiDigit? (ds ++ frac ++ exp) with
    | some x => return .float (signedFloat minus x)
    | none => fail

/-- How many objects and arrays may stand inside each other. -/
def maxDepth : Nat := 985

mutual

/-- Takes a value; `bound` limits the depth and the length of what is read, and `room` is the number
of objects and arrays that may still stand inside each other. -/
def value : (bound : Nat) → (room : Nat) → Reader Value
  | 0, _ => fail
  | bound + 1, room => do
    match ← Reader.peek? with
    | some '"' =>
      Reader.drop
      return .text (← text)
    | some '\x7b' =>
      if room = 0 then throw (.tooDeep (some "object"))
      Reader.drop
      skipSpace
      if ← Reader.skip "\x7d" then return .map []
      else return .mapOf (← entries bound (room - 1))
    | some '[' =>
      if room = 0 then throw (.tooDeep (some "array"))
      Reader.drop
      skipSpace
      if ← Reader.skip "]" then return .list []
      else return .list (← elements bound (room - 1))
    | _ =>
      if ← Reader.skip "null" then return .null
      else if ← Reader.skip "true" then return .bool true
      else if ← Reader.skip "false" then return .bool false
      else if ← Reader.skip "NaN" then return .float notANumber
      else if ← Reader.skip "Infinity" then return .float infinity
      else number

/-- Takes the entries of an object up to its closing brace. -/
def entries : (bound : Nat) → (room : Nat) → Reader (List (Value × Value))
  | 0, _ => fail
  | bound + 1, room => do
    if !(← Reader.skip "\"") then fail
    let key ← text
    skipSpace
    if !(← Reader.skip ":") then fail
    skipSpace
    let v ← value bound room
    skipSpace
    match ← Reader.next? with
    | some '\x7d' => return [(.text key, v)]
    | some ',' =>
      skipSpace
      return (.text key, v) :: (← entries bound room)
    | _ => fail

/-- Takes the elements of an array up to its closing bracket. -/
def elements : (bound : Nat) → (room : Nat) → Reader (List Value)
  | 0, _ => fail
  | bound + 1, room => do
    let v ← value bound room
    skipSpace
    match ← Reader.next? with
    | some ']' => return [v]
    | some ',' =>
      skipSpace
      return v :: (← elements bound room)
    | _ => fail

end

/-- Reads a document, blanks around its value. -/
def document : Reader Value := do
  skipSpace
  let v ← value ((← get).length + 1) maxDepth
  skipSpace
  if (← get).isEmpty then return v else fail

/-- The value of a document in brace notation. -/
def read (s : List Char) : Except ReadError Value := do return (← document.run s).1

end BuildPilot.Document.Json
