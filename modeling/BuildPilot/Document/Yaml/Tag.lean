import BuildPilot.Document.Yaml.Cursor
import BuildPilot.Numeric.Integer
import BuildPilot.Text.Utf8

/-!
# Names, tags and directives

The small signs of an indented document: names of anchors, tags with their handles, and the lines
that start with a percent sign.
-/

namespace BuildPilot.Document.Yaml

open Numeric Text

/-- A character of a name. -/
def isNameChar (c : Char) : Bool := c.isAlphanum || c == '-' || c == '_'

/-- Whether the name of an anchor may end here. -/
def endsName (c : Option Char) : Bool :=
  endsWord c || (c.map fun c => "?:,]\x7d%@`".contains c).getD false

/-- Takes the name of an anchor or of an alias behind its sign. -/
def anchorName : Scan String := do
  Scan.advance 1
  let name ← Scan.takeWhile isNameChar
  Scan.failIf (name.isEmpty || !endsName (← Scan.here))
  return String.ofList name

/-! ## Tags -/

/-- A character of a tag. -/
def isTagChar (c : Char) : Bool := c.isAlphanum || "-;/?:@&=+$,_.!~*'()[]%".contains c

/-- Takes a row of octets in hexadecimal, each behind a percent sign. -/
def escapedOctets : (bound : Nat) → Scan (List UInt8)
  | 0 => return []
  | bound + 1 => do
    match (← get).rest with
    | '%' :: s =>
      match (s.take 2).mapM hexDigit? with
      | some [a, b] =>
        Scan.advance 3
        return (a * 16 + b).toUInt8 :: (← escapedOctets bound)
      | _ => Scan.fail
    | _ => return []

/-- Takes the parts of a tag: characters as they are, and escaped octets that must be UTF-8. -/
def tagParts : (bound : Nat) → Scan (List Char)
  | 0 => return []
  | bound + 1 => do
    let run ← Scan.takeWhile fun c => isTagChar c && c != '%'
    if (← Scan.here) == some '%' then
      match decode? (← escapedOctets (bound + 1)) with
      | some part => return run ++ part.toList ++ (← tagParts bound)
      | none => Scan.fail
    else return run

/-- Takes a tag that is not empty. -/
def tagText : Scan String := do
  let before := (← get).index
  let s ← tagParts ((← get).rest.length + 1)
  Scan.failIf ((← get).index == before)
  return String.ofList s

/-- Takes a handle: an exclamation mark alone, or a name between two of them. -/
def tagHandle : Scan String := do
  match (← get).rest with
  | '!' :: s =>
    let name := s.takeWhile isNameChar
    if s.head? == some ' ' then
      Scan.advance 1
      return "!"
    else if s[name.length]? == some '!' then
      Scan.advance (name.length + 2)
      return String.ofList ('!' :: name ++ ['!'])
    else Scan.fail
  | _ => Scan.fail

/-- Takes a tag: a handle, if there is one, and a text. -/
def tag : Scan (Option String × String) := do
  let rest := (← get).rest
  let result ← match rest.tail with
    | '<' :: _ => do
      Scan.advance 2
      let s ← tagText
      Scan.failIf ((← Scan.here) != some '>')
      Scan.advance 1
      pure (none, s)
    | s =>
      if endsWord s.head? then do
        Scan.advance 1
        pure (none, "!")
      else if (s.takeWhile fun c => !endsField (some c)).contains '!' then do
        let handle ← tagHandle
        pure (some handle, ← tagText)
      else do
        Scan.advance 1
        pure (some "!", ← tagText)
  Scan.failIf (!endsField (← Scan.here))
  return result

/-! ## Directives -/

/-- What a directive says. -/
inductive Directive where
  /-- The version of the notation, by its first number. -/
  | version (major : Nat)
  /-- What a handle stands for. -/
  | handle (name meaning : String)
  /-- Something else. -/
  | other
deriving Repr

/-- Takes one of the two numbers of a version. -/
def versionNumber : Scan Nat := do
  let ds ← Scan.takeWhile Char.isDigit
  Scan.failIf ds.isEmpty
  if maxDigits < ds.length then throw .badValue
  return ofDigits 10 0 (ds.filterMap asciiDigit?)

/-- Takes a directive behind its percent sign, and the end of its line. -/
def directive : Scan Directive := do
  Scan.advance 1
  let name ← Scan.takeWhile isNameChar
  Scan.failIf (name.isEmpty || !endsField (← Scan.here))
  let result ←
    if name == "YAML".toList then do
      Scan.skipWhile (· == ' ')
      let major ← versionNumber
      Scan.failIf ((← Scan.here) != some '.')
      Scan.advance 1
      discard versionNumber
      Scan.failIf (!endsField (← Scan.here))
      pure (.version major)
    else if name == "TAG".toList then do
      Scan.skipWhile (· == ' ')
      let handle ← tagHandle
      Scan.failIf ((← Scan.here) != some ' ')
      Scan.skipWhile (· == ' ')
      let meaning ← tagText
      Scan.failIf (!endsField (← Scan.here))
      pure (.handle handle meaning)
    else do
      discard Scan.restOfLine
      pure .other
  Scan.restOfHead
  return result

end BuildPilot.Document.Yaml
