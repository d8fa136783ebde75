import BuildPilot.Numeric.Integer
import BuildPilot.Shell.Token

/-!
# Reading tokens

A script is cut into tokens from left to right. What stands inside quotes, braces or parentheses is
read by the same functions, so these call each other; `bound` limits how deep and how long, and is
taken from the length of the script.
-/

namespace BuildPilot.Shell

open Numeric

/-- Characters read from the front of a script, and what follows them. -/
abbrev ReadChars := Except SyntaxFault (List Char × List Char)

/-- Pieces read from the front of a script, and what follows them. -/
abbrev ReadWord := Except SyntaxFault (Word × List Char)

/-- Tokens read from the front of a script, and what follows them. -/
abbrev ReadTokens := Except SyntaxFault (List Token × List Char)

/-- What the next token is made of, if there is one, and what follows it. -/
abbrev ReadLexemes := Except SyntaxFault (Option (List Lexeme) × List Char)

/-- Puts pieces in front of those that are read. -/
def readBehind (ps : Word) (r : ReadWord) : ReadWord := r.map fun (qs, s) => (ps ++ qs, s)

/-- The operators, longer ones before the shorter ones that they start with. -/
def operators : List String :=
  ["&&", "||", ";;", "<<-", "<<", ">>", "<&", ">&", "<>", ">|", "<", ">", "&", "|", ";", "(", ")"]

/-- The operator at the front of a script. -/
def operator? (s : List Char) : Option String := operators.find? fun o => o.toList.isPrefixOf s

/-- The text before an apostrophe, and what follows it. -/
def untilApostrophe : List Char → ReadChars
  | [] => .error .openQuote
  | c :: s =>
    if c == '\'' then .ok ([], s) else (untilApostrophe s).map fun (cs, r) => (c :: cs, r)

/-- The text before a backquote, in which backslashes quote some characters, and what follows. -/
def untilBackquote (inQuotes : Bool) : List Char → ReadChars
  | [] => .error .openBackquote
  | '\\' :: c :: s =>
    let quotes := c == '$' || c == '\x60' || c == '\\' || inQuotes && c == '"'
    (untilBackquote inQuotes s).map fun (cs, r) => ((if quotes then [c] else ['\\', c]) ++ cs, r)
  | c :: s =>
    if c == '\x60' then .ok ([], s)
    else (untilBackquote inQuotes s).map fun (cs, r) => (c :: cs, r)

/-- The name of the parameter at the front of the inside of braces, and what follows it. -/
def parameterName (s : List Char) : String × List Char :=
  match s with
  | [] => ("", [])
  | c :: rest =>
    if startsName c then (String.ofList (s.takeWhile inName), s.dropWhile inName)
    else if c.isDigit then (String.ofList (s.takeWhile Char.isDigit), s.dropWhile Char.isDigit)
    else if isSpecial c then (c.toString, rest)
    else ("", s)

/-- A script cut behind its first line. -/
def cutLine (s : List Char) : List Char × List Char :=
  (s.takeWhile (· != '\n'), (s.dropWhile (· != '\n')).drop 1)

/-- The lines before the one that is the given mark, and what follows that one. -/
def linesBefore (mark : List Char) (dropTabs : Bool) : (bound : Nat) → List Char →
    List Char × List Char
  | 0, s => ([], s)
  | bound + 1, s =>
    let (line, rest) := cutLine s
    let line := if dropTabs then line.dropWhile (· == '\t') else line
    if s.isEmpty || line == mark then ([], rest)
    else
      let (text, rest) := linesBefore mark dropTabs bound rest
      (line ++ '\n' :: text, rest)

/-- The characters of a piece as part of the mark that ends a text below the line, in which
nothing is filled in. -/
def Piece.markChars : Piece → List Char
  | .char c _ => [c]
  | _ => []

/-- Whether a piece is quoted. -/
def Piece.isQuoted : Piece → Bool
  | .char _ q => q
  | .quotes => true
  | _ => false

mutual

/-- Reads what follows a dollar sign. -/
def dollar (bound : Nat) (quoted : Bool) (s : List Char) : ReadWord :=
  match bound with
  | 0 => .error .openQuote
  | bound + 1 =>
    match s with
    | '(' :: '(' :: s => do
      let (ps, rest) ← sumText bound 0 s
      return ([.sum ps quoted], rest)
    | '(' :: s => do
      let (ts, rest) ← script bound 0 s
      return ([.output ts quoted], rest)
    | '\x7b' :: s => braces bound quoted s
    | c :: rest =>
      if startsName c then
        .ok ([.parameter (String.ofList (s.takeWhile inName)) .value quoted], s.dropWhile inName)
      else if isSpecial c || c.isDigit then .ok ([.parameter c.toString .value quoted], rest)
      else .ok ([.char '$' quoted], s)
    | [] => .ok ([.char '$' quoted], [])

/-- Reads a parameter in braces, behind the opening one. -/
def braces (bound : Nat) (quoted : Bool) (s : List Char) : ReadWord :=
  match bound with
  | 0 => .error .openQuote
  | bound + 1 =>
    let counted := match s with
      | '#' :: r =>
        match parameterName r with
        | ("", _) => none
        | (name, '\x7d' :: rest) => some (name, rest)
        | _ => none
      | _ => none
    match counted with
    | some (name, rest) => .ok ([.parameter name .length quoted], rest)
    | none =>
      let (name, rest) := parameterName s
      let (colon, rest) := match rest with
        | ':' :: r => (true, r)
        | r => (false, r)
      let behindOperator (use : Word → Use) (s : List Char) : ReadWord := do
        let (ps, rest) ← untilBrace bound quoted s
        return ([.parameter name (use ps) quoted], rest)
      match rest with
      | '\x7d' :: rest =>
        .ok ([.parameter name (if name.isEmpty || colon then .malformed else .value) quoted], rest)
      | '-' :: s => behindOperator (.orElse colon false) s
      | '=' :: s => behindOperator (.orElse colon true) s
      | '+' :: s => behindOperator (.instead colon) s
      | '?' :: s => behindOperator (.orFail colon) s
      | '%' :: '%' :: s => behindOperator (.trimmed true true) s
      | '%' :: s => behindOperator (.trimmed true false) s
      | '#' :: '#' :: s => behindOperator (.trimmed false true) s
      | '#' :: s => behindOperator (.trimmed false false) s
      | s => behindOperator (fun _ => .malformed) s

/-- Reads a piece that starts with a quoting character or a dollar sign, or a single character. -/
def piece (bound : Nat) (s : List Char) : ReadWord :=
  match bound with
  | 0 => .error .openQuote
  | bound + 1 =>
    match s with
    | [] => .ok ([], [])
    | '\'' :: s => do
      let (cs, rest) ← untilApostrophe s
      return (.quotes :: quotedChars cs, rest)
    | '"' :: s => do
      let (ps, rest) ← quotedText bound true s
      return (betweenQuotes ps, rest)
    | '\\' :: '\n' :: s => .ok ([], s)
    | '\\' :: c :: s => .ok ([.char c true], s)
    | '$' :: s => dollar bound false s
    | c :: s => if c == '\x60' then backquoted bound false s else .ok ([.char c false], s)

/-- Reads the word in braces behind an operator, and the closing brace. -/
def untilBrace (bound : Nat) (quoted : Bool) (s : List Char) : ReadWord :=
  match bound with
  | 0 => .error .openQuote
  | bound + 1 =>
    match s with
    | [] => .error .openBrace
    | '\x7d' :: rest => .ok ([], rest)
    | c :: rest => do
      let (ps, rest) ←
        if !quoted then piece bound (c :: rest)
        else if c == '"' then do
          let (ps, rest) ← quotedText bound true rest
          pure (betweenQuotes ps, rest)
        else quotedPiece bound true (c :: rest)
      readBehind ps (untilBrace bound quoted rest)

/-- Reads a piece between double quotes. -/
def quotedPiece (bound : Nat) (inBraces : Bool) (s : List Char) : ReadWord :=
  match bound with
  | 0 => .error .openQuote
  | bound + 1 =>
    match s with
    | [] => .ok ([], [])
    | '\\' :: '\n' :: s => .ok ([], s)
    | '\\' :: c :: s =>
      if escapedInQuotes c || inBraces && c == '\x7d' then .ok ([.char c true], s)
      else .ok ([.char '\\' true, .char c true], s)
    | '$' :: s => dollar bound true s
    | c :: s => if c == '\x60' then backquoted bound true s else .ok ([.char c true], s)

/-- Reads up to the closing double quote, or to the end of the text if there is no such quote to
come. -/
def quotedText (bound : Nat) (closed : Bool) (s : List Char) : ReadWord :=
  match bound with
  | 0 => .error .openQuote
  | bound + 1 =>
    match s with
    | [] => if closed then .error .openQuote else .ok ([], [])
    | c :: rest =>
      if closed && c == '"' then .ok ([], rest)
      else do
        let (ps, rest) ← quotedPiece bound false (c :: rest)
        readBehind ps (quotedText bound closed rest)

/-- Reads a script in backquotes, behind the opening one. -/
def backquoted (bound : Nat) (quoted : Bool) (s : List Char) : ReadWord :=
  match bound with
  | 0 => .error .openQuote
  | bound + 1 => do
    let (cs, rest) ← untilBackquote quoted s
    return ([.output (tokens bound cs) quoted], rest)

/-- Reads an arithmetic expression, `depth` of whose parentheses are open, and the two closing
ones. -/
def sumText (bound : Nat) (depth : Nat) (s : List Char) : ReadWord :=
  match bound with
  | 0 => .error .openQuote
  | bound + 1 =>
    match s with
    | [] => .error .openSum
    | ')' :: s =>
      if 0 < depth then readBehind [.char ')' true] (sumText bound (depth - 1) s)
      else match s with
        | ')' :: rest => .ok ([], rest)
        | _ => .error .openSum
    | '(' :: s => readBehind [.char '(' true] (sumText bound (depth + 1) s)
    | '"' :: s => sumText bound depth s
    | s => do
      let (ps, rest) ← quotedPiece bound false s
      readBehind ps (sumText bound depth rest)

/-- Reads a word. -/
def word (bound : Nat) (s : List Char) : ReadWord :=
  match bound with
  | 0 => .error .openQuote
  | bound + 1 =>
    match s with
    | [] => .ok ([], [])
    | c :: rest =>
      if endsWord c then .ok ([], c :: rest)
      else do
        let (ps, rest) ← piece bound (c :: rest)
        readBehind ps (word bound rest)

/-- Reads the next token; at the end of the script there is none. -/
def token (bound : Nat) (s : List Char) : ReadLexemes :=
  match bound with
  | 0 => .error .openQuote
  | bound + 1 =>
    match s with
    | [] => .ok (none, [])
    | '\\' :: '\n' :: s => .ok (some [], s)
    | '\n' :: s => .ok (some [.newline], s)
    | '#' :: s => .ok (some [], s.dropWhile (· != '\n'))
    | c :: s =>
      if isGap c then .ok (some [], s.dropWhile isGap)
      else match operator? (c :: s) with
        | none => do
          let (ps, rest) ← word bound (c :: s)
          let text := (plainText? ps).getD ""
          let redirects := rest.head? == some '<' || rest.head? == some '>'
          if redirects && !text.isEmpty && text.toList.all Char.isDigit then
            let digits := text.toList.filterMap Text.asciiDigit?
            return (some [.descriptor (ofDigits 10 0 digits)], rest)
          else return (some [.word ps], rest)
        | some o =>
          let rest := (c :: s).drop o.length
          if o == "<<" || o == "<<-" then hereText bound (o == "<<-") rest
          else .ok (some [.operator o], rest)

/-- Reads the mark of a text that is set out below the line, and takes the text from there. -/
def hereText (bound : Nat) (dropTabs : Bool) (s : List Char) : ReadLexemes :=
  match bound with
  | 0 => .error .openQuote
  | bound + 1 => do
    let (mark, rest) ← word bound (s.dropWhile isGap)
    let (line, below) := cutLine rest
    let (text, below) :=
      linesBefore (mark.flatMap Piece.markChars) dropTabs below.length below
    let content ← if mark.any Piece.isQuoted then pure (quotedChars text)
      else (quotedText bound false text).map (·.1)
    return (some [.operator "<<", .hereText content], line ++ '\n' :: below)

/-- Reads tokens up to the parenthesis that closes the script, `depth` of whose own are open. -/
def script (bound : Nat) (depth : Nat) (s : List Char) : ReadTokens :=
  match bound with
  | 0 => .error .openQuote
  | bound + 1 => do
    match ← token bound s with
    | (none, _) => throw (.unexpected "end of file" (some "\")\""))
    | (some ls, rest) =>
      let next (depth : Nat) : ReadTokens := do
        let (ts, rest) ← script bound depth rest
        return (ls.map (fun l => (1, l)) ++ ts, rest)
      match ls with
      | [.operator "("] => next (depth + 1)
      | [.operator ")"] => if depth = 0 then return ([], rest) else next (depth - 1)
      | [.word ps] =>
        match plainText? ps with
        | some "case" => next (depth + 1)
        | some "esac" => next (depth - 1)
        | _ => next depth
      | _ => next depth

/-- The tokens of a whole script; where it can no longer be read, a fault stands at the end. -/
def tokens (bound : Nat) (s : List Char) : List Token :=
  match bound with
  | 0 => []
  | bound + 1 =>
    match token bound s with
    | .error f => [(0, .fault f)]
    | .ok (none, _) => []
    | .ok (some ls, rest) => ls.map (fun l => (s.count '\n', l)) ++ tokens bound rest

end

/-- The tokens of a script, with the numbers of their lines. -/
def tokensOf (s : String) : List Token :=
  let cs := s.toList
  let last := cs.count '\n' + 1
  (tokens (3 * cs.length + 3) cs).map fun (below, l) => (last - below, l)

end BuildPilot.Shell
