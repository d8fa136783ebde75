/-!
# Environments

The environment variables of a run, as pairs of name and value.
-/

namespace BuildPilot

/-- Environment variables. -/
structure Environment where
  bindings : List (String × String)
deriving DecidableEq, Repr

namespace Environment

/-- The value of a variable, if it is set. -/
def get? (env : Environment) (name : String) : Option String := env.bindings.lookup name

/-- The value of a variable, or the empty text. -/
def getD (env : Environment) (name : String) : String := (env.get? name).getD ""

end Environment

end BuildPilot
