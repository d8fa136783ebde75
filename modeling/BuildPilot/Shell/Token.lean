/-!
# Words and tokens of the shell language

A script is a row of tokens. A word is kept as the pieces that it is made of: characters, of which
some are quoted, and the places where a value is filled in when the word is expanded.
-/

namespace BuildPilot.Shell

/-- Why a script cannot be read. -/
inductive SyntaxFault where
  /-- A quoted text does not end. -/
  | openQuote
  /-- A parameter in braces does not end. -/
  | openBrace
  /-- An arithmetic expression does not end. -/
  | openSum
  /-- A command in backquotes does not end. -/
  | openBackquote
  /-- A token stands where it must not; a certain other one may be the only one allowed. -/
  | unexpected (found : String) (expected : Option String)
  /-- A function has no proper name. -/
  | functionName
  /-- A loop has no proper variable. -/
  | loopVariable
  /-- A redirection names no descriptor. -/
  | descriptor
deriving DecidableEq, Repr

/-- The text of a fault. -/
def SyntaxFault.message : SyntaxFault → String
  | openQuote => "Unterminated quoted string"
  | openBrace => "Missing '\x7d'"
  | openSum => "Missing '))'"
  | openBackquote => "EOF in backquote substitution"
  | unexpected found none => found ++ " unexpected"
  | unexpected found (some expected) => found ++ " unexpected (expecting " ++ expected ++ ")"
  | functionName => "Bad function name"
  | loopVariable => "Bad for loop variable"
  | descriptor => "Bad fd number"

mutual

/-- A piece of a word. -/
inductive Piece where
  /-- A character; a quoted one stands only for itself. -/
  | char (c : Char) (quoted : Bool)
  /-- A pair of quotes: the word is there even if nothing is in it. -/
  | quotes
  /-- The value of a parameter. -/
  | parameter (name : String) (use : Use) (quoted : Bool)
  /-- The output of a script. -/
  | output (script : List (Nat × Lexeme)) (quoted : Bool)
  /-- The value of an arithmetic expression. -/
  | sum (expression : List Piece) (quoted : Bool)

/-- What is made of a parameter. -/
inductive Use where
  /-- Its value. -/
  | value
  /-- The length of its value. -/
  | length
  /-- Its value, or else a word, which may be assigned to it. -/
  | orElse (emptyToo assigned : Bool) (word : List Piece)
  /-- A word, if it has a value. -/
  | instead (emptyToo : Bool) (word : List Piece)
  /-- Its value, without which the shell gives up. -/
  | orFail (emptyToo : Bool) (word : List Piece)
  /-- Its value without a part at one of its ends that matches a pattern. -/
  | trimmed (atEnd longest : Bool) (pattern : List Piece)
  /-- Nothing that makes sense. -/
  | malformed

/-- What a token is. -/
inductive Lexeme where
  | word (pieces : List Piece)
  | operator (text : String)
  /-- The descriptor that the redirection behind it is for. -/
  | descriptor (n : Nat)
  /-- The text that is set out below the line, behind its operator. -/
  | hereText (pieces : List Piece)
  | newline
  /-- Here the script can no longer be read. -/
  | fault (f : SyntaxFault)

end

/-- A word: its pieces. -/
abbrev Word := List Piece

/-- A token with the number of its line. -/
abbrev Token := Nat × Lexeme

/-! ## Characters -/

/-- Whether a name may start with a character. -/
def startsName (c : Char) : Bool := c.isAlpha || c == '_'

/-- Whether a character may stand in a name. -/
def inName (c : Char) : Bool := c.isAlphanum || c == '_'

/-- Whether a text is a name. -/
def isName (s : String) : Bool :=
  match s.toList with
  | c :: cs => startsName c && cs.all inName
  | [] => false

/-- Whether a character is the name of a special parameter. -/
def isSpecial (c : Char) : Bool := "@*#?-$!".toList.contains c

/-- Whether a character separates words. -/
def isGap (c : Char) : Bool := c == ' ' || c == '\t'

/-- Whether a word ends before a character. -/
def endsWord (c : Char) : Bool := isGap c || c == '\n' || ";&|<>()".toList.contains c

/-- The characters that a backslash quotes between double quotes. -/
def escapedInQuotes (c : Char) : Bool := c == '$' || c == '\x60' || c == '"' || c == '\\'

/-- The text of a word that is made of unquoted characters only. -/
def plainText? : Word → Option String
  | [] => some ""
  | .char c false :: ps => (plainText? ps).map fun s => c.toString ++ s
  | _ => none

/-- Characters as pieces. -/
def quotedChars (cs : List Char) : Word := cs.map fun c => .char c true

/-- Whether a piece is the row of all arguments. -/
def isArguments : Piece → Bool
  | .parameter "@" .value _ => true
  | _ => false

/-- What stands between double quotes: it is a word even if it is empty, unless it is made of rows
of arguments only. -/
def betweenQuotes (ps : Word) : Word := if ps ≠ [] ∧ ps.all isArguments then ps else .quotes :: ps

end BuildPilot.Shell
