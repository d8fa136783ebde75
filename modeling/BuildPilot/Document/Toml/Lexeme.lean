import BuildPilot.Document.Reader
import BuildPilot.Numeric.Integer

/-!
# Blanks, comments, texts and keys

The smallest parts of a document of tables. Texts stand between quotes or apostrophes, on one line
or, with three marks, on several; only quotes know escapes. A key is a row of names with dots
between them.
-/

namespace BuildPilot.Document.Toml

open Numeric Text

/-- The failure of every malformed document. -/
def fail {α : Type} : Reader α := throw (.badSyntax .toml)

/-- A blank inside a line. -/
def isSpace (c : Char) : Bool := c == ' ' || c == '\t'

/-- A blank inside a line or the end of a line. -/
def isSpaceOrBreak (c : Char) : Bool := isSpace c || c == '\n'

/-- A character that may stand nowhere but at the end of a line: a control character other than the
tabulator. -/
def isControl (c : Char) : Bool := (c.toNat < 0x20 && c != '\t') || c.toNat == 0x7F

/-- Drops the blanks inside a line. -/
def skipSpace : Reader Unit := Reader.skipWhile isSpace

/-- Drops a comment up to the end of its line, if the rest starts with one. -/
def skipComment : Reader Unit := do
  if ← Reader.skip "#" then
    let body ← Reader.takeWhile (· != '\n')
    if body.any isControl then fail

/-- Drops blanks, ends of lines and comments. -/
def skipFill : (bound : Nat) → Reader Unit
  | 0 => return
  | bound + 1 => do
    Reader.skipWhile isSpaceOrBreak
    if ← Reader.sees "#" then
      skipComment
      skipFill bound

/-! ## Texts -/

/-- The characters with an escape of one letter. -/
def escapeOf? : Char → Option Char
  | 'b' => some '\x08'
  | 't' => some '\t'
  | 'n' => some '\n'
  | 'f' => some '\x0c'
  | 'r' => some '\r'
  | '"' => some '"'
  | '\\' => some '\\'
  | _ => none

/-- Takes the hexadecimal digits of an escape by number. -/
def numberedChar (width : Nat) : Reader Char := do
  let ds := (← get).take width
  match ds.mapM hexDigit? with
  | some ns =>
    match charOf? (ofDigits 16 0 ns) with
    | some c =>
      if ds.length < width then fail
      Reader.dropMany width
      return c
    | none => fail
  | none => fail

/-- Takes what follows a backslash. In a text of several lines a backslash before the end of a line
stands for nothing, together with all blanks and ends of lines behind it. -/
def escape (multiline : Bool) : Reader (List Char) := do
  match ← Reader.next? with
  | some 'u' => return [← numberedChar 4]
  | some 'U' => return [← numberedChar 8]
  | some c =>
    if multiline && isSpaceOrBreak c then
      if c != '\n' then
        skipSpace
        match ← Reader.next? with
        | some '\n' => pure ()
        | none => pure ()
        | some _ => fail
      Reader.skipWhile isSpaceOrBreak
      return []
    else match escapeOf? c with
      | some c => return [c]
      | none => fail
  | none => fail

/-- Takes the characters of a text in quotes and its closing quotes. -/
def quotedBody (multiline : Bool) : (bound : Nat) → Reader (List Char)
  | 0 => fail
  | bound + 1 => do
    if ← Reader.skip (if multiline then "\"\"\"" else "\"") then return []
    match ← Reader.next? with
    | none => fail
    | some '\\' => return (← escape multiline) ++ (← quotedBody multiline bound)
    | some c =>
      if isControl c && !(multiline && c == '\n') then fail
      else return c :: (← quotedBody multiline bound)

/-- Takes the characters of a text in apostrophes and its closing marks. -/
def literalBody (multiline : Bool) : (bound : Nat) → Reader (List Char)
  | 0 => fail
  | bound + 1 => do
    if ← Reader.skip (if multiline then "'''" else "'") then return []
    match ← Reader.next? with
    | none => fail
    | some c =>
      if isControl c && !(multiline && c == '\n') then fail
      else return c :: (← literalBody multiline bound)

/-- Takes up to two marks directly behind the closing marks of a text of several lines; they belong
to the text. -/
def trailingMarks (mark : String) : Reader (List Char) := do
  if ← Reader.skip mark then
    if ← Reader.skip mark then return mark.toList ++ mark.toList
    else return mark.toList
  else return []

/-- Takes a text of one line that starts with the given mark, if there is one. -/
def lineText? : Reader (Option String) := do
  let bound := (← get).length + 1
  if ← Reader.skip "\"" then return some (String.ofList (← quotedBody false bound))
  else if ← Reader.skip "'" then return some (String.ofList (← literalBody false bound))
  else return none

/-- Takes a text of one or several lines, if the rest starts with one. The end of the line directly
behind the opening marks is not part of the text. -/
def anyText? : Reader (Option String) := do
  let bound := (← get).length + 1
  if ← Reader.skip "\"\"\"" then
    discard (Reader.skip "\n")
    let body ← quotedBody true bound
    return some (String.ofList (body ++ (← trailingMarks "\"")))
  else if ← Reader.skip "'''" then
    discard (Reader.skip "\n")
    let body ← literalBody true bound
    return some (String.ofList (body ++ (← trailingMarks "'")))
  else lineText?

/-! ## Keys -/

/-- A character of a name without quotes. -/
def isBare (c : Char) : Bool := c.isAlphanum || c == '-' || c == '_'

/-- Takes one name of a key. -/
def keyPart : Reader String := do
  match ← lineText? with
  | some name => return name
  | none =>
    let name ← Reader.takeWhile isBare
    if name.isEmpty then fail else return String.ofList name

/-- Takes a key and the blanks behind it. -/
def key : (bound : Nat) → Reader (List String)
  | 0 => fail
  | bound + 1 => do
    let name ← keyPart
    skipSpace
    if ← Reader.skip "." then
      skipSpace
      return name :: (← key bound)
    else return [name]

end BuildPilot.Document.Toml
