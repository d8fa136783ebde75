import BuildPilot.Text.CodePoint

/-!
# White space

`isBlank` is the White_Space property of Unicode together with the four information separators
U+001C to U+001F. `trim` cuts blank characters from both ends of a text, and a text is blank when
nothing is left of it.
-/

namespace BuildPilot.Text

/-- The blank code points. -/
def blankRanges : Ranges :=
  [(0x9, 0xD), (0x1C, 0x20), (0x85, 0x85), (0xA0, 0xA0), (0x1680, 0x1680), (0x2000, 0x200A),
   (0x2028, 0x2029), (0x202F, 0x202F), (0x205F, 0x205F), (0x3000, 0x3000)]

/-- Whether a character counts as white space. -/
def isBlank (c : Char) : Bool := blankRanges.contains c.toNat

/-- A list of characters without the blanks at its start. -/
def trimStart (s : List Char) : List Char := s.dropWhile isBlank

/-- A list of characters without the blanks at its end. -/
def trimEnd (s : List Char) : List Char := (s.reverse.dropWhile isBlank).reverse

/-- A list of characters without the blanks at either end. -/
def trimChars (s : List Char) : List Char := trimEnd (trimStart s)

/-- A text without the blanks at either end. -/
def trim (s : String) : String := String.ofList (trimChars s.toList)

/-- Whether every character of a text is blank. -/
def isBlankText (s : String) : Bool := s.toList.all isBlank

theorem blankRanges_wellFormed : blankRanges.WellFormed = true := by decide

example : isBlank '\u200b' = false ∧ isBlank '\ufeff' = false := by decide

end BuildPilot.Text
