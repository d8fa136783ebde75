import BuildPilot.Text.Newline
import BuildPilot.Text.Utf8

/-!
# A stream of lines

The output of a running command arrives in pieces of octets, cut anywhere. `LineStream.feed` takes
a piece and gives the lines that it completes; `LineStream.finish` gives what is left at the end.
Characters and line ends may be spread over several pieces.
-/

namespace BuildPilot.Text

/-- What has arrived and is not handed on yet: an unfinished character, whether the last character
was a carriage return (its line is complete, and a line feed behind it belongs to it), and the
characters of the current line, last one first. -/
structure LineStream where
  unfinished : Option Unfinished := none
  afterReturn : Bool := false
  line : List Char := []
deriving DecidableEq, Repr

/-- A line from its characters, last one first. -/
def lineOf (cs : List Char) : String := String.ofList cs.reverse

/-- Takes one character; gives the line that it completes. -/
def LineStream.put (s : LineStream) (c : Char) : LineStream × List String :=
  if c == '\n' && s.afterReturn then ({ s with afterReturn := false }, [])
  else if c == '\n' then ({ s with line := [] }, [lineOf ('\n' :: s.line)])
  else if c == '\r' then
    ({ s with afterReturn := true, line := [] }, [lineOf ('\n' :: s.line)])
  else ({ s with afterReturn := false, line := c :: s.line }, [])

/-- Takes several characters. -/
def LineStream.putAll (s : LineStream) : List Char → LineStream × List String
  | [] => (s, [])
  | c :: cs =>
    let (s, first) := s.put c
    let (s, rest) := s.putAll cs
    (s, first ++ rest)

/-- Takes one octet. -/
def LineStream.putOctet (s : LineStream) (b : UInt8) : LineStream × List String :=
  let (unfinished, cs) := readOctet s.unfinished b
  { s with unfinished }.putAll cs

/-- Takes a piece of the output. -/
def LineStream.feed (s : LineStream) : List UInt8 → LineStream × List String
  | [] => (s, [])
  | b :: bs =>
    let (s, first) := s.putOctet b
    let (s, rest) := s.feed bs
    (s, first ++ rest)

/-- The last lines, once the output has ended. -/
def LineStream.finish (s : LineStream) : List String :=
  let (s, lines) := s.putAll (endOfOctets s.unfinished)
  lines ++ if s.line.isEmpty then [] else [lineOf s.line]

/-- The lines that arrive in a list of pieces, from a given state on. -/
def LineStream.linesFrom (s : LineStream) : List (List UInt8) → List String
  | [] => s.finish
  | piece :: pieces =>
    let (s, lines) := s.feed piece
    lines ++ s.linesFrom pieces

/-- The lines of an output that arrives in the given pieces. -/
def streamedLines (pieces : List (List UInt8)) : List String := LineStream.linesFrom {} pieces

end BuildPilot.Text
