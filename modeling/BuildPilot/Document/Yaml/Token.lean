import BuildPilot.Document.Yaml.Scalar
import BuildPilot.Document.Yaml.Supply
import BuildPilot.Document.Yaml.Tag

/-!
# Tokens of an indented document

A document is cut into tokens from left to right. The indentation of lines opens and closes
collections. That a text was a key shows only at the colon behind it: then the token for a key is
put before it, if it began on the same line and not too far away. As long as a token may still turn
out to be a key, neither it nor those behind it are certain.
-/

namespace BuildPilot.Document.Yaml

/-- A token of an indented document. -/
inductive Token where
  | directive (d : Directive)
  | documentStart
  | documentEnd
  | streamEnd
  /-- A list whose entries are lines. -/
  | blockListStart
  /-- A mapping whose entries are lines. -/
  | blockMapStart
  | blockEnd
  | flowListStart
  | flowListEnd
  | flowMapStart
  | flowMapEnd
  /-- The dash before an entry of a list. -/
  | blockEntry
  /-- The comma between entries. -/
  | flowEntry
  /-- What follows is a key. -/
  | key
  /-- What follows is the value of a key. -/
  | value
  | alias (name : String)
  | anchor (name : String)
  | tag (handle : Option String) (text : String)
  | scalar (text : String) (plain : Bool)
  /-- The document cannot be cut further. -/
  | failure (e : ReadError)
deriving Repr

/-- A token that may turn out to start a key. -/
structure PossibleKey where
  /-- Its position among the tokens. -/
  position : Nat
  /-- Whether it has to be a key. -/
  required : Bool
  index : Nat
  line : Nat
  column : Nat

/-- The state of cutting: the place, the tokens so far, and what is open. -/
structure Scanner where
  cursor : Cursor
  tokens : Array Token
  /-- The number of open brackets and braces. -/
  flow : Nat
  /-- The column of the innermost collection of lines, or -1. -/
  indent : Int
  /-- The columns of the collections of lines around it. -/
  outer : List Int
  /-- Whether a key may start here. -/
  keyAllowed : Bool
  /-- The possible key of each depth of brackets. -/
  keys : List (Nat × PossibleKey)
  /-- The fault that keeps what follows the document from being fetched, if there is one. -/
  beyond : Option ReadError

/-- The state at the start of a document. -/
def Scanner.start (s : Supply) : Scanner where
  cursor := .start s.text
  tokens := #[]
  flow := 0
  indent := -1
  outer := []
  keyAllowed := true
  keys := []
  beyond := s.fault

/-- The fault that comes up with the cursor at a place: at the end of what could be fetched there is
one. -/
def Scanner.faultAt? (s : Scanner) (c : Cursor) : Option ReadError :=
  if c.rest.isEmpty then s.beyond else none

/-- A step of cutting. -/
abbrev Cut := StateT Scanner (Except ReadError)

namespace Cut

/-- Runs a reader at the cursor. -/
def scan {α : Type} (r : Scan α) : Cut α := do
  let s ← get
  match r.run s.cursor with
  | .ok a cursor =>
    match s.faultAt? cursor with
    | some e => throw e
    | none =>
      set { s with cursor := cursor }
      return a
  | .error e cursor => throw ((s.faultAt? cursor).getD e)

/-- Adds a token. -/
def emit (t : Token) : Cut Unit := modify fun s => { s with tokens := s.tokens.push t }

/-- Puts a token before the one at a position. -/
def emitAt (position : Nat) (t : Token) : Cut Unit :=
  modify fun s => { s with tokens := s.tokens.insertIdxIfInBounds position t }

/-- Says whether a key may start next. -/
def allowKey (b : Bool) : Cut Unit := modify fun s => { s with keyAllowed := b }

/-- The possible key of the current depth. -/
def currentKey? : Cut (Option PossibleKey) := return (← get).keys.lookup (← get).flow

/-- Forgets the possible key of the current depth. -/
def dropKey : Cut Unit := modify fun s => { s with keys := s.keys.filter (·.1 != s.flow) }

/-- Gives up the possible key of the current depth; it must not have been required. -/
def giveUpKey : Cut Unit := do
  if let some k ← currentKey? then
    if k.required then throw malformed
    dropKey

/-- Whether a possible key is too far away to be one. -/
def isStale (c : Cursor) (k : PossibleKey) : Bool := k.line != c.line || 1024 < c.index - k.index

/-- Gives up the possible keys that are too far away. -/
def giveUpStale : Cut Unit := do
  let s ← get
  if s.keys.any fun (_, k) => isStale s.cursor k && k.required then throw malformed
  set { s with keys := s.keys.filter fun (_, k) => !isStale s.cursor k }

/-- Notes that the next token may start a key. -/
def noteKey : Cut Unit := do
  let s ← get
  if s.keyAllowed then
    giveUpKey
    let c := s.cursor
    let required := s.flow == 0 && s.indent == c.column
    let k := ⟨s.tokens.size, required, c.index, c.line, c.column⟩
    modify fun s => { s with keys := (s.flow, k) :: s.keys }

/-- Closes the collections of lines that are indented deeper than `column`. -/
def unwind (column : Int) : Cut Unit := do
  let s ← get
  if s.flow == 0 then
    let open' := s.indent :: s.outer
    let closed := open'.takeWhile (column < ·)
    for _ in closed do emit .blockEnd
    match open'.drop closed.length with
    | [] => pure ()
    | indent :: outer => modify fun s => { s with indent := indent, outer := outer }

/-- Opens a collection of lines, if the column is deeper than that of the innermost one. -/
def indentTo (column : Nat) (opening : Cut Unit) : Cut Unit := do
  let s ← get
  if s.indent < column then
    set { s with indent := column, outer := s.indent :: s.outer }
    opening

/-- Moves over `n` characters and adds a token. -/
def mark (n : Nat) (t : Token) : Cut Unit := do
  scan (Scan.advance n)
  emit t

/-! ## One step for each kind of token -/

/-- A directive, or one of the two marks between documents. -/
def documentPart (part : Cut Unit) : Cut Unit := do
  unwind (-1)
  giveUpKey
  allowKey false
  part

/-- An opening bracket or brace. -/
def flowStart (t : Token) : Cut Unit := do
  noteKey
  modify fun s => { s with flow := s.flow + 1 }
  allowKey true
  mark 1 t

/-- A closing bracket or brace. -/
def flowEnd (t : Token) : Cut Unit := do
  giveUpKey
  modify fun s => { s with flow := s.flow - 1 }
  allowKey false
  mark 1 t

/-- A comma. -/
def comma : Cut Unit := do
  allowKey true
  giveUpKey
  mark 1 .flowEntry

/-- A sign that stands before an entry of a collection of lines. -/
def lineSign (opening sign : Token) : Cut Unit := do
  let s ← get
  if s.flow == 0 then
    if !s.keyAllowed then throw malformed
    indentTo s.cursor.column (emit opening)
  giveUpKey
  mark 1 sign

/-- The dash before an entry. -/
def dash : Cut Unit := do
  lineSign .blockListStart .blockEntry
  allowKey true

/-- The question mark before a key. -/
def question : Cut Unit := do
  lineSign .blockMapStart .key
  allowKey ((← get).flow == 0)

/-- The colon before a value. -/
def colon : Cut Unit := do
  match ← currentKey? with
  | some k =>
    dropKey
    emitAt k.position .key
    if (← get).flow == 0 then indentTo k.column (emitAt k.position .blockMapStart)
    allowKey false
    mark 1 .value
  | none =>
    lineSign .blockMapStart .value
    allowKey ((← get).flow == 0)

/-- A token that may start a key. -/
def possibleKey (r : Scan Token) : Cut Unit := do
  noteKey
  allowKey false
  emit (← scan r)

/-- A block below a bar or an angle. -/
def blockScalar (fold : Bool) : Cut Unit := do
  giveUpKey
  allowKey true
  let s ← get
  emit (.scalar (← scan (block fold s.indent)) false)

/-- A plain text; behind the end of a line a key may start again. -/
def plainScalar : Cut Unit := do
  noteKey
  let s ← get
  let (text, ended) ← scan (plain (s.flow != 0) s.indent)
  allowKey ended
  emit (.scalar text true)

/-- The end of everything. -/
def finish : Cut Unit := do
  unwind (-1)
  giveUpKey
  emit .streamEnd

/-- Whether a plain text may start with `c` before `next`. -/
def startsPlain (flow : Bool) (c : Char) (next : Option Char) : Bool :=
  !(endsWord (some c) || "-?:,[]\x7b\x7d#&*!|>'\"%@`".contains c)
    || (!endsWord next && (c == '-' || (!flow && (c == '?' || c == ':'))))

/-- Moves to the next token and adds it; says whether there may be more. -/
def nextToken : Cut Bool := do
  let length := (← get).cursor.rest.length
  if (← scan (Scan.skipFill (length + 1))) && (← get).flow == 0 then allowKey true
  giveUpStale
  let column := (← get).cursor.column
  unwind column
  let s ← get
  let cursor := s.cursor
  let flow := s.flow != 0
  let next := cursor.ahead 1
  match cursor.here with
  | none =>
    finish
    return false
  | some c =>
    if c == '%' && column == 0 then documentPart do emit (.directive (← scan directive))
    else if column == 0 && cursor.seesMark ['-', '-', '-'] then documentPart (mark 3 .documentStart)
    else if column == 0 && cursor.seesMark ['.', '.', '.'] then documentPart (mark 3 .documentEnd)
    else if c == '[' then flowStart .flowListStart
    else if c == '\x7b' then flowStart .flowMapStart
    else if c == ']' then flowEnd .flowListEnd
    else if c == '\x7d' then flowEnd .flowMapEnd
    else if c == ',' then comma
    else if c == '-' && endsWord next then dash
    else if c == '?' && (flow || endsWord next) then question
    else if c == ':' && (flow || endsWord next) then colon
    else if c == '*' then possibleKey do return .alias (← anchorName)
    else if c == '&' then possibleKey do return .anchor (← anchorName)
    else if c == '!' then possibleKey do
      let (handle, text) ← tag
      return .tag handle text
    else if c == '|' && !flow then blockScalar false
    else if c == '>' && !flow then blockScalar true
    else if c == '\'' then possibleKey do return .scalar (← quoted false) false
    else if c == '"' then possibleKey do return .scalar (← quoted true) false
    else if startsPlain flow c next then plainScalar
    else throw malformed
    return true

/-- Adds the next token, and gives up the keys that it leaves too far behind; says whether there may
be more. -/
def token : Cut Bool := do
  if ← nextToken then
    giveUpStale
    return true
  else return false

end Cut

/-- The number of tokens before which nothing can be put any more. -/
def Scanner.certain (s : Scanner) : Nat :=
  s.keys.foldl (fun n (_, k) => min n k.position) s.tokens.size

/-- Cuts tokens from a state on. Where a document cannot be cut further, the tokens that are certain
end in a failure. -/
def Scanner.run : (bound : Nat) → Scanner → Array Token
  | 0, s => s.tokens.push (.failure malformed)
  | bound + 1, s =>
    match Cut.token.run s with
    | .ok (true, s) => run bound s
    | .ok (false, s) => s.tokens
    | .error e => (s.tokens.take s.certain).push (.failure e)

/-- The tokens of a document; a mark of byte order at its start is skipped. -/
def tokens (s : Supply) : List Token :=
  let start := Scanner.start s
  let start :=
    if s.text.head? == some '\ufeff' then { start with cursor := start.cursor.step } else start
  (start.run (s.text.length + 2)).toList

end BuildPilot.Document.Yaml
