import BuildPilot.Document.Yaml.Cursor
import BuildPilot.Numeric.Integer
import BuildPilot.Text.Utf8

/-!
# Texts of an indented document

Plain texts without marks around them, texts in quotes or apostrophes, and blocks of lines below a
bar or an angle. Where a text runs over the end of a line, the line feed becomes a space, and every
empty line behind it a line feed.
-/

namespace BuildPilot.Document.Yaml

open Numeric Text

/-! ## Folded lines -/

/-- What the end of a line and the ends of the empty lines behind it stand for. -/
def folded (lineEnd : Char) (empty : List Char) : List Char :=
  if lineEnd != '\n' then lineEnd :: empty
  else if empty.isEmpty then [' ']
  else empty

/-! ## Plain texts -/

/-- The characters that end a plain text between brackets. -/
def isFlowMark (c : Char) : Bool := ",?[]\x7b\x7d".contains c

/-- Whether a colon with `next` behind it ends a plain text. -/
def colonEnds (flow : Bool) (next : Option Char) : Bool :=
  endsWord next || (flow && (next.map fun c => ",[]\x7b\x7d".contains c).getD false)

/-- The part of a plain text before the next blank or end of line. -/
def plainRun (flow : Bool) : List Char → List Char
  | [] => []
  | c :: s =>
    if endsWord (some c) || (c == ':' && colonEnds flow s.head?) || (flow && isFlowMark c) then []
    else c :: plainRun flow s

/-- Takes the empty lines behind the end of a line; nothing if a separator of documents comes. -/
def plainBreaks : (bound : Nat) → Scan (Option (List Char))
  | 0 => return some []
  | bound + 1 => do
    Scan.skipWhile (· == ' ')
    match ← Scan.lineBreak? with
    | some b =>
      if (← get).seesSeparator then return none
      else return (← plainBreaks bound).map (b :: ·)
    | none => return some []

/-- Takes the blanks between two parts of a plain text: what they stand for, and whether a line
ended. -/
def plainGap (bound : Nat) : Scan (List Char × Bool) := do
  let blanks ← Scan.takeWhile (· == ' ')
  match ← Scan.lineBreak? with
  | none => return (blanks, false)
  | some b =>
    if (← get).seesSeparator then return ([], true)
    match ← plainBreaks bound with
    | none => return ([], true)
    | some empty => return (folded b empty, true)

/-- Takes the parts of a plain text; `gap` stands before the first of them. -/
def plainParts (flow : Bool) (indent : Int) :
    (bound : Nat) → (gap : List Char) → (ended : Bool) → Scan (List Char × Bool)
  | 0, _, ended => return ([], ended)
  | bound + 1, gap, ended => do
    let run := plainRun flow (← get).rest
    if (← Scan.here) == some '#' || run.isEmpty then return ([], ended)
    Scan.advance run.length
    let (next, ended) ← plainGap (bound + 1)
    let c ← get
    if next.isEmpty || c.here == some '#' || (!flow && (c.column : Int) ≤ indent) then
      return (gap ++ run, ended)
    else
      let (more, ended) ← plainParts flow indent bound next ended
      return (gap ++ run ++ more, ended)

/-- Takes a plain text that goes on while lines are indented deeper than `indent`; says whether a
line ended behind its last part. -/
def plain (flow : Bool) (indent : Int) : Scan (String × Bool) := do
  let (s, ended) ← plainParts flow indent ((← get).rest.length + 1) [] false
  return (String.ofList s, ended)

/-! ## Texts between marks -/

/-- The characters with an escape of one letter. -/
def escapeOf? : Char → Option Char
  | '0' => some '\x00'
  | 'a' => some '\x07'
  | 'b' => some '\x08'
  | 't' => some '\t'
  | '\t' => some '\t'
  | 'n' => some '\n'
  | 'v' => some '\x0b'
  | 'f' => some '\x0c'
  | 'r' => some '\r'
  | 'e' => some '\x1b'
  | ' ' => some ' '
  | '"' => some '"'
  | '\\' => some '\\'
  | '/' => some '/'
  | 'N' => some '\x85'
  | '_' => some '\xa0'
  | 'L' => some '\u2028'
  | 'P' => some '\u2029'
  | _ => none

/-- The number of digits of an escape by number. -/
def escapeWidth? : Char → Option Nat
  | 'x' => some 2
  | 'u' => some 4
  | 'U' => some 8
  | _ => none

/-- Takes `width` hexadecimal digits and gives their number. -/
def hexNumber (width : Nat) : Scan Nat := do
  let ds := (← get).rest.take width
  match ds.mapM hexDigit? with
  | some ns =>
    Scan.failIf (ds.length < width)
    Scan.advance width
    return ofDigits 16 0 ns
  | none => Scan.fail

/-- The character of an escape by number: half a pair stands for the replacement character, and a
number beyond the last character has no value; one of thirty-two bits is not even a code. -/
def numberedChar (code : Nat) : Scan Char :=
  match charOf? code with
  | some c => return c
  | none =>
    if code < 0x110000 then return replacement
    else if code < 0x80000000 then throw .badValue
    else throw .wideCode

/-- Takes the empty lines inside a text between marks. A separator of documents may not come. -/
def quotedBreaks : (bound : Nat) → Scan (List Char)
  | 0 => return []
  | bound + 1 => do
    Scan.failIf (← get).seesSeparator
    Scan.skipWhile isBlank
    match ← Scan.lineBreak? with
    | some b => return b :: (← quotedBreaks bound)
    | none => return []

/-- Takes what follows a backslash. -/
def escape (bound : Nat) : Scan (List Char) := do
  match ← Scan.here with
  | none => Scan.fail
  | some c =>
    match escapeOf? c, escapeWidth? c with
    | some e, _ =>
      Scan.advance 1
      return [e]
    | none, some width =>
      Scan.advance 1
      return [← numberedChar (← hexNumber width)]
    | none, none =>
      Scan.failIf (!isBreak c)
      Scan.advance 1
      quotedBreaks bound

/-- Takes characters of a text between marks up to a blank, the end of a line or the closing
mark. -/
def quotedRun (double : Bool) : (bound : Nat) → Scan (List Char)
  | 0 => return []
  | bound + 1 => do
    match (← get).rest with
    | [] => return []
    | '\'' :: s =>
      if double then
        Scan.advance 1
        return '\'' :: (← quotedRun double bound)
      else if s.head? == some '\'' then
        Scan.advance 2
        return '\'' :: (← quotedRun double bound)
      else return []
    | '"' :: _ =>
      if double then return []
      else
        Scan.advance 1
        return '"' :: (← quotedRun double bound)
    | '\\' :: _ =>
      Scan.advance 1
      let cs ← if double then escape bound else pure ['\\']
      return cs ++ (← quotedRun double bound)
    | c :: _ =>
      if endsWord (some c) then return []
      else
        Scan.advance 1
        return c :: (← quotedRun double bound)

/-- Takes the blanks and ends of lines between two words of a text between marks. -/
def quotedGap (bound : Nat) : Scan (List Char) := do
  let blanks ← Scan.takeWhile isBlank
  Scan.failIf (← Scan.here).isNone
  match ← Scan.lineBreak? with
  | some b => return folded b (← quotedBreaks bound)
  | none => return blanks

/-- Takes the rest of a text between marks and its closing mark. -/
def quotedRest (double : Bool) : (bound : Nat) → Scan (List Char)
  | 0 => Scan.fail
  | bound + 1 => do
    let run ← quotedRun double (bound + 1)
    if (← Scan.here) == some (if double then '"' else '\'') then
      Scan.advance 1
      return run
    else
      let gap ← quotedGap (bound + 1)
      return run ++ gap ++ (← quotedRest double bound)

/-- Takes a text between quotes (`double`) or apostrophes. -/
def quoted (double : Bool) : Scan String := do
  Scan.advance 1
  return String.ofList (← quotedRest double ((← get).rest.length + 1))

/-! ## Blocks -/

/-- What happens to the ends of lines at the end of a block. -/
inductive Chomp where
  /-- All of them go. -/
  | strip
  /-- One stays. -/
  | clip
  /-- All of them stay. -/
  | keep
deriving DecidableEq, Repr

/-- The sign that says what happens at the end of a block. -/
def chompOf? : Option Char → Option Chomp
  | some '+' => some .keep
  | some '-' => some .strip
  | _ => none

/-- Takes the sign for the end of a block, if it is here. -/
def chompSign? : Scan (Option Chomp) := do
  match chompOf? (← Scan.here) with
  | some chomp =>
    Scan.advance 1
    return some chomp
  | none => return none

/-- Takes the digit that gives the indentation of a block, if it is here. -/
def indentDigit? : Scan (Option Nat) := do
  match (← Scan.here).bind asciiDigit? with
  | some d =>
    Scan.failIf (d == 0)
    Scan.advance 1
    return some d
  | none => return none

/-- Takes the head of a block behind its first mark: the sign and the digit in either order. -/
def blockHead : Scan (Chomp × Option Nat) := do
  let before ← chompSign?
  let digit ← indentDigit?
  let after ← if before.isNone && digit.isSome then chompSign? else pure none
  Scan.failIf (!endsField (← Scan.here))
  Scan.restOfHead
  return ((before.or after).getD .clip, digit)

/-- Moves over spaces up to a column. -/
def skipIndent (indent : Nat) : Scan Unit := do
  let c ← get
  Scan.advance (min (indent - c.column) (c.rest.takeWhile (· == ' ')).length)

/-- Takes the ends of empty lines, and the indentation of the next line. -/
def emptyLines (indent : Nat) : (bound : Nat) → Scan (List Char)
  | 0 => return []
  | bound + 1 => do
    skipIndent indent
    match ← Scan.lineBreak? with
    | some b => return b :: (← emptyLines indent bound)
    | none => return []

/-- Takes the ends of the empty lines at the start of a block, and the spaces before its first line;
gives the deepest column that spaces reach. -/
def measuredLines : (bound : Nat) → (deepest : Nat) → Scan (List Char × Nat)
  | 0, deepest => return ([], deepest)
  | bound + 1, deepest => do
    let spaces ← Scan.takeWhile (· == ' ')
    let column := (← get).column
    let deepest := if spaces.isEmpty then deepest else max deepest column
    match ← Scan.lineBreak? with
    | some b =>
      let (breaks, deepest) ← measuredLines bound deepest
      return (b :: breaks, deepest)
    | none => return ([], deepest)

/-- Whether a line of a block starts here. -/
def inBlock (indent : Nat) (c : Cursor) : Bool := c.column == indent && !c.rest.isEmpty

/-- Whether a line does not start with a blank. -/
def startsFlush (c : Cursor) : Bool := !(c.here.map isBlank).getD false

/-- What stands between two lines of a block. -/
def blockGlue (fold : Bool) (lineEnd breaks : List Char) : List Char :=
  if fold && lineEnd == ['\n'] then (if breaks.isEmpty then [' '] else []) else lineEnd

/-- Takes the lines of a block, with `breaks` before the first: the text, the end of its last line,
and the ends of the empty lines behind it. -/
def blockLines (fold : Bool) (indent : Nat) :
    (bound : Nat) → (breaks : List Char) → Scan (List Char × List Char × List Char)
  | 0, breaks => return ([], [], breaks)
  | bound + 1, breaks => do
    if !inBlock indent (← get) then return ([], [], breaks)
    let flush := startsFlush (← get)
    let line ← Scan.restOfLine
    let lineEnd := (← Scan.lineBreak?).toList
    let next ← emptyLines indent (bound + 1)
    let c ← get
    if inBlock indent c then
      let glue := blockGlue (fold && flush && startsFlush c) lineEnd next
      let (more, lastEnd, after) ← blockLines fold indent bound next
      return (breaks ++ line ++ glue ++ more, lastEnd, after)
    else return (breaks ++ line, lineEnd, next)

/-- Takes a block of lines (`fold`: lines are joined) inside a collection at column `parent`. -/
def block (fold : Bool) (parent : Int) : Scan String := do
  Scan.advance 1
  let (chomp, digit) ← blockHead
  let least := (max 1 (parent + 1)).toNat
  let bound := (← get).rest.length + 1
  let (breaks, indent) ← match digit with
    | none => do
      let (breaks, deepest) ← measuredLines bound 0
      pure (breaks, max least deepest)
    | some d => do
      let indent := least + d - 1
      pure (← emptyLines indent bound, indent)
  let (text, lineEnd, after) ← blockLines fold indent bound breaks
  return String.ofList (match chomp with
    | .strip => text
    | .clip => text ++ lineEnd
    | .keep => text ++ lineEnd ++ after)

end BuildPilot.Document.Yaml
