import BuildPilot.Text.Blank
import BuildPilot.Text.Split

/-!
# Test filters

Test names are given in several values, each a list separated by semicolons. The filter holds the
names without surrounding blanks, each once, in order of first occurrence.
-/

namespace BuildPilot.TestFilter

open Text

/-- The names in one value, without blanks around them and without empty ones. -/
def namesIn (value : String) : List String :=
  ((pieces ';' value).map trim).filter fun name => !name.isEmpty

/-- Adds a name behind the others unless it is there already. -/
def addName (names : List String) (name : String) : List String :=
  if name ∈ names then names else names ++ [name]

/-- The names in all values, each once. -/
def parse (values : List String) : List String := (values.flatMap namesIn).foldl addName []

/-- The pattern that matches any name of the filter; an empty filter has none. -/
def pattern? (names : List String) : Option String :=
  if names.isEmpty then none else some ("|".intercalate names)

end BuildPilot.TestFilter
