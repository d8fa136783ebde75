/-!
# Commands as text

A command is a list of words. Its text quotes each word for the shell, so that the shell would
read the same list back.
-/

namespace BuildPilot.Command

/-- Whether a character needs no quoting in a shell word. -/
def isPlain (c : Char) : Bool :=
  c.isAlphanum || "_@%+=:,./-".toList.contains c

/-- A character inside single quotes: a single quote closes them, stands between double quotes,
and opens them again. -/
def quoteChar (c : Char) : List Char :=
  if c = '\'' then ['\'', '"', '\'', '"', '\''] else [c]

/-- A word as the shell reads it. -/
def quoteChars (w : List Char) : List Char :=
  if w ≠ [] ∧ w.all isPlain then w else '\'' :: w.flatMap quoteChar ++ ['\'']

/-- A word as the shell reads it. -/
def quoteWord (w : String) : String := String.ofList (quoteChars w.toList)

/-- The text of a command. -/
def format (words : List String) : String := " ".intercalate (words.map quoteWord)

end BuildPilot.Command
