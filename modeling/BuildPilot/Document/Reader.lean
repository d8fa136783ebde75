import BuildPilot.Document.Value

/-!
# Reading documents

A reader takes characters from the front of a document and may fail. What a failed reader has seen
does not matter; only the cause of the failure does.
-/

namespace BuildPilot.Document

/-- The notations of configuration documents. -/
inductive Format where
  | toml
  | json
  | yaml
deriving DecidableEq, Repr

/-- Why a document could not be read. -/
inductive ReadError where
  /-- The file is not UTF-8. -/
  | notUtf8
  /-- The document does not follow the notation. -/
  | badSyntax (format : Format)
  /-- A value has the right form and no meaning, such as a day that the calendar does not have. -/
  | badValue
  /-- A timestamp tag stands on a text of another form. -/
  | untimely
  /-- A whole-number tag stands on a text without digits. -/
  | noDigits
  /-- A truth-value tag stands on another word. -/
  | notTruth (word : String)
  /-- A timestamp tag stands on a mapping. -/
  | stampOnMapping
  /-- The code of an escape is too wide for any character. -/
  | wideCode
  /-- A power of sixty is beyond the floating-point numbers. -/
  | beyondFloat
  /-- The document is nested too deep, or without end; `inside` names the last collection. -/
  | tooDeep (inside : Option String)
deriving DecidableEq, Repr

/-- A reader of characters. -/
abbrev Reader := StateT (List Char) (Except ReadError)

namespace Reader

/-- The next character, if there is one; it is not taken. -/
def peek? : Reader (Option Char) := return (← get).head?

/-- Drops the next character. -/
def drop : Reader Unit := modify List.tail

/-- Takes the next character, if there is one. -/
def next? : Reader (Option Char) := do
  let c ← peek?
  drop
  return c

/-- Takes the characters for which `p` holds. -/
def takeWhile (p : Char → Bool) : Reader (List Char) := do
  let s ← get
  set (s.dropWhile p)
  return s.takeWhile p

/-- Drops the characters for which `p` holds. -/
def skipWhile (p : Char → Bool) : Reader Unit := modify fun s => s.dropWhile p

/-- Whether the rest starts with a word. -/
def sees (word : String) : Reader Bool := return word.toList.isPrefixOf (← get)

/-- Drops `n` characters. -/
def dropMany (n : Nat) : Reader Unit := modify fun s => s.drop n

/-- Drops a word if the rest starts with it; says whether it did. -/
def skip (word : String) : Reader Bool := do
  if ← sees word then
    dropMany word.length
    return true
  else return false

end Reader

/-- The character of a code, if there is one. -/
def charOf? (code : Nat) : Option Char :=
  if h : code.isValidChar then some (Char.ofNatAux code h) else none

end BuildPilot.Document
