import BuildPilot.Document.Calendar
import BuildPilot.Numeric.Integer

/-!
# Dates and times of an indented document

A date of three numbers, alone or with a time of day behind it, and an offset behind that. Whether
the calendar has such a day is a second question.
-/

namespace BuildPilot.Document.Yaml

open Numeric Text

/-- The time of day of a timestamp as it is written. -/
structure StampTime where
  hour : Nat
  minute : Nat
  second : Nat
  fraction : List Char
  /-- The offset from universal time in seconds. -/
  offset : Option Int

/-- A timestamp as it is written. -/
structure Stamp where
  year : Nat
  month : Nat
  day : Nat
  time : Option StampTime

/-- A number of `least` to `most` digits at the front, and the rest. -/
def stampNumber? (least most : Nat) (s : List Char) : Option (Nat × List Char) :=
  let ds := (s.take most).takeWhile Char.isDigit
  if ds.length < least then none
  else some (ofDigits 10 0 (ds.filterMap asciiDigit?), s.drop ds.length)

/-- The rest behind a character. -/
def stampMark? (c : Char) : List Char → Option (List Char)
  | d :: s => if d = c then some s else none
  | [] => none

/-- Whether a character is a space or a tabulator. -/
def isStampBlank (c : Char) : Bool := c == ' ' || c == '\t'

/-- What stands between the date and the time: one letter, or blanks. -/
def stampGap? : List Char → Option (List Char)
  | 'T' :: s => some s
  | 't' :: s => some s
  | s => if (s.head?.map isStampBlank).getD false then some (s.dropWhile isStampBlank) else none

/-- The offset at the end of a timestamp; nothing at all is allowed, and blanks before it. -/
def stampOffset? (s : List Char) : Option (Option Int) :=
  if s.isEmpty then some none
  else match s.dropWhile isStampBlank with
    | ['Z'] => some (some 0)
    | sign :: s => do
      if sign != '+' && sign != '-' then none
      let (h, s) ← stampNumber? 1 2 s
      let m ← if s.isEmpty then some 0 else do
        let (m, s) ← stampNumber? 2 2 (← stampMark? ':' s)
        if s.isEmpty then some m else none
      return some (withSign (sign == '-') (h * 3600 + m * 60))
    | [] => none

/-- The time of day behind a date, up to the end. -/
def stampTime? (s : List Char) : Option StampTime := do
  let (h, s) ← stampNumber? 1 2 (← stampGap? s)
  let (m, s) ← stampNumber? 2 2 (← stampMark? ':' s)
  let (sec, s) ← stampNumber? 2 2 (← stampMark? ':' s)
  let fraction := (stampMark? '.' s).map (List.takeWhile Char.isDigit)
  let s := s.drop ((fraction.map fun f => f.length + 1).getD 0)
  return ⟨h, m, sec, fraction.getD [], ← stampOffset? s⟩

/-- Reads a timestamp. -/
def Stamp.read? (s : List Char) : Option Stamp := do
  let (y, s) ← stampNumber? 4 4 s
  let (m, s) ← stampNumber? 1 2 (← stampMark? '-' s)
  let (d, s) ← stampNumber? 1 2 (← stampMark? '-' s)
  if s.isEmpty then return ⟨y, m, d, none⟩ else return ⟨y, m, d, some (← stampTime? s)⟩

/-- Whether a plain text is a timestamp: a date that stands alone has all its digits. -/
def isTimestamp (s : List Char) : Bool :=
  match Stamp.read? s with
  | some stamp => stamp.time.isSome || s.length == 10
  | none => false

/-- The time of day that is written, if the clock shows it. An offset is less than a day. -/
def StampTime.time? (t : StampTime) : Option Time := do
  let micro := ofDigits 10 0 (((t.fraction ++ List.replicate 6 '0').take 6).filterMap asciiDigit?)
  if (t.offset.map fun o => decide (86400 ≤ o.natAbs)).getD false then none
  Time.of? t.hour t.minute t.second micro t.offset

end BuildPilot.Document.Yaml
