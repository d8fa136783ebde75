/-!
# Line ends

A line ends with a line feed, a carriage return, or both. `unifyNewlines` writes every line end as
a line feed, and `splitLines` cuts a text behind each of them.
-/

namespace BuildPilot.Text

/-- Writes every line end as one line feed. -/
def unifyNewlines : List Char → List Char
  | [] => []
  | '\r' :: '\n' :: s => '\n' :: unifyNewlines s
  | c :: s => (if c == '\r' then '\n' else c) :: unifyNewlines s

/-- Writes each pair of carriage return and line feed as one line feed, and leaves a carriage
return that stands alone. -/
def unifyPairs : List Char → List Char
  | [] => []
  | '\r' :: '\n' :: s => '\n' :: unifyPairs s
  | c :: s => c :: unifyPairs s

/-- The lines of a text, each with its line feed; only the last one may lack it. -/
def splitLines : List Char → List (List Char)
  | [] => []
  | c :: s =>
    if c == '\n' then ['\n'] :: splitLines s
    else match splitLines s with
      | [] => [[c]]
      | l :: ls => (c :: l) :: ls

end BuildPilot.Text
