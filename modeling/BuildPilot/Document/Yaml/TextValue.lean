import BuildPilot.Document.Value
import BuildPilot.Document.Yaml.Cursor
import BuildPilot.Document.Yaml.Octets
import BuildPilot.Document.Yaml.Plain
import BuildPilot.Text.LetterCase

/-!
# The values of texts

A text of a known type has a value, if it is written as the type demands: `textValue` reads it.
Underscores in numbers do not count, and a number may be written in base sixty.
-/

namespace BuildPilot.Document.Yaml

open Numeric Text

/-- What a result without a value fails with. -/
def orFail {α : Type} (e : ReadError) : Option α → Except ReadError α
  | some a => .ok a
  | none => .error e

/-- The number of digits in base sixty, the last one least. -/
def ofSixtieths (parts : List Int) : Int := parts.foldl (fun acc d => acc * 60 + d) 0

/-- The sum of digits in base sixty, added up from the last one, where `base` is the worth of the
next digit. Each digit needs a worth that is a floating-point number. -/
def floatOfSixtieths (sum : Float) (base : Nat) : List Float → Except ReadError Float
  | [] => .ok sum
  | d :: ds =>
    let worth := Float.ofNat base
    if worth.isInf then .error .beyondFloat
    else floatOfSixtieths (sum + d * worth) (base * 60) ds

/-- The magnitude of a whole number without underscores. -/
def wholeMagnitude (s : List Char) : Except ReadError Int :=
  match s with
  | [] => .error .noDigits
  | ['0'] => .ok 0
  | '0' :: 'b' :: ds => orFail .badValue (readBased? 2 'b' ds)
  | '0' :: 'x' :: ds => orFail .badValue (readBased? 16 'x' ds)
  | '0' :: _ => orFail .badValue (readBased? 8 'o' s)
  | _ =>
    if s.contains ':' then
      orFail .badValue (((pieces ':' (String.ofList s)).mapM readInteger?).map ofSixtieths)
    else orFail .badValue (readInteger? (String.ofList s))

/-- The magnitude of a floating-point number without underscores. -/
def floatMagnitude (s : List Char) : Except ReadError Float :=
  let word := String.ofList s
  if word == ".inf" then .ok infinity
  else if word == ".nan" then .ok notANumber
  else if s.contains ':' then do
    let digits ← orFail .badValue ((pieces ':' word).mapM readFloat?)
    floatOfSixtieths 0 1 digits.reverse
  else orFail .badValue (readFloat? word)

/-- The truth value of a word in any case. -/
def truthOf? (word : String) : Option Bool :=
  if ["yes", "true", "on"].contains word then some true
  else if ["no", "false", "off"].contains word then some false
  else none

/-- The value of a timestamp. A line feed at its end does not count. -/
def stampValue (s : List Char) : Except ReadError Value :=
  match Stamp.read? (withoutLastBreak s) with
  | none => .error .untimely
  | some stamp => orFail .badValue do
    let date ← Date.of? stamp.year stamp.month stamp.day
    match stamp.time with
    | none => return .date date
    | some t => return .dateTime ⟨date, ← t.time?⟩

/-- The value of a text of a given type. -/
def textValue (tag : Tag) (text : String) : Except ReadError Value :=
  let dense := text.toList.filter (· != '_')
  let minus := dense.head? == some '-'
  match tag with
  | .null => .ok .null
  | .bool => (orFail (.notTruth (lower text)) (truthOf? (lower text))).map .bool
  | .int =>
    if dense.isEmpty then .error .noDigits
    else (wholeMagnitude (unsigned dense)).map fun n => .int (if minus then -n else n)
  | .float =>
    if dense.isEmpty then .error .noDigits
    else (floatMagnitude ((unsigned dense).map Char.toLower)).map fun x =>
      .float (signedFloat minus x)
  | .timestamp => stampValue text.toList
  | .octets =>
    if text.toList.any (0x80 ≤ ·.toNat) then .error malformed
    else (orFail malformed (octetsOf? text.toList)).map .octets
  | .text => .ok (.text text)
  | _ => .error malformed

/-- Whether a text is the word for what is not a number. All such words are one key, although what
they stand for equals nothing. -/
def isNoNumberWord (text : String) : Bool :=
  String.ofList ((unsigned (text.toList.filter (· != '_'))).map Char.toLower) == ".nan"

end BuildPilot.Document.Yaml
