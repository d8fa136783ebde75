import BuildPilot.Document.Reader

/-!
# Places in an indented document

In an indented document the column of a character matters. A cursor is the rest of the document
together with the place where it starts. Lines end at the line feed and at three characters of
Unicode; the mark of byte order takes no column.
-/

namespace BuildPilot.Document.Yaml

/-- A place in a document and what follows it. -/
structure Cursor where
  rest : List Char
  index : Nat
  line : Nat
  column : Nat

/-- The start of a document. -/
def Cursor.start (s : List Char) : Cursor := ⟨s, 0, 0, 0⟩

/-- A character that ends a line. -/
def isBreak (c : Char) : Bool := c == '\n' || c == '\x85' || c == '\u2028' || c == '\u2029'

/-- A blank inside a line. -/
def isBlank (c : Char) : Bool := c == ' ' || c == '\t'

/-- Whether a line ends here, the end of the document included. -/
def endsLine : Option Char → Bool
  | none => true
  | some c => isBreak c

/-- Whether nothing, the end of a line or a space is here. -/
def endsField : Option Char → Bool
  | none => true
  | some c => isBreak c || c == ' '

/-- Whether nothing, the end of a line or a blank is here. -/
def endsWord : Option Char → Bool
  | none => true
  | some c => isBreak c || isBlank c

/-- The place behind the next character. -/
def Cursor.step (c : Cursor) : Cursor :=
  match c.rest with
  | [] => c
  | ch :: rest =>
    if isBreak ch then ⟨rest, c.index + 1, c.line + 1, 0⟩
    else ⟨rest, c.index + 1, c.line, if ch == '\ufeff' then c.column else c.column + 1⟩

/-- The place behind `n` more characters. -/
def Cursor.advance : Nat → Cursor → Cursor
  | 0, c => c
  | n + 1, c => advance n c.step

/-- The next character, if there is one. -/
def Cursor.here (c : Cursor) : Option Char := c.rest.head?

/-- The character `n` places further on. -/
def Cursor.ahead (n : Nat) (c : Cursor) : Option Char := c.rest[n]?

/-- Whether the line starts with a mark of three characters that stands alone. -/
def Cursor.seesMark (mark : List Char) (c : Cursor) : Bool :=
  mark.isPrefixOf c.rest && endsWord (c.ahead 3)

/-- Whether the line starts with a mark that separates documents. -/
def Cursor.seesSeparator (c : Cursor) : Bool :=
  c.seesMark ['-', '-', '-'] || c.seesMark ['.', '.', '.']

/-! ## Reading at a cursor -/

/-- A reader that moves a cursor. One that fails leaves the cursor where it failed. -/
abbrev Scan := EStateM ReadError Cursor

/-- The failure of every malformed document. -/
def malformed : ReadError := .badSyntax .yaml

/-- Fails. -/
def Scan.fail {α : Type} : Scan α := throw malformed

/-- Fails if a condition holds. -/
def Scan.failIf (b : Bool) : Scan Unit := if b then throw malformed else pure ()

/-- The next character, if there is one. -/
def Scan.here : Scan (Option Char) := return (← get).here

/-- Moves over `n` characters. -/
def Scan.advance (n : Nat) : Scan Unit := modify (Cursor.advance n)

/-- Takes the characters for which `p` holds. -/
def Scan.takeWhile (p : Char → Bool) : Scan (List Char) := do
  let run := (← get).rest.takeWhile p
  Scan.advance run.length
  return run

/-- Moves over the characters for which `p` holds. -/
def Scan.skipWhile (p : Char → Bool) : Scan Unit := discard (Scan.takeWhile p)

/-- Takes the rest of a line without its end. -/
def Scan.restOfLine : Scan (List Char) := Scan.takeWhile (!isBreak ·)

/-- Takes the end of a line, if it is here; the next-line character counts as a line feed. -/
def Scan.lineBreak? : Scan (Option Char) := do
  match ← Scan.here with
  | some c =>
    if isBreak c then
      Scan.advance 1
      return some (if c == '\x85' then '\n' else c)
    else return none
  | none => return none

/-- Takes what may stand behind a directive or the head of a block: spaces, a comment and the end of
the line. -/
def Scan.restOfHead : Scan Unit := do
  Scan.skipWhile (· == ' ')
  if (← Scan.here) == some '#' then discard Scan.restOfLine
  Scan.failIf (!endsLine (← Scan.here))
  discard Scan.lineBreak?

/-- Moves over spaces, comments and ends of lines to the next token; says whether a line ended. -/
def Scan.skipFill : (bound : Nat) → Scan Bool
  | 0 => return false
  | bound + 1 => do
    Scan.skipWhile (· == ' ')
    if (← Scan.here) == some '#' then discard Scan.restOfLine
    match ← Scan.lineBreak? with
    | some _ => do
      discard (skipFill bound)
      return true
    | none => return false

end BuildPilot.Document.Yaml
