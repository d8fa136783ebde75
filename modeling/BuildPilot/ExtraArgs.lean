import BuildPilot.Text.Blank
import BuildPilot.Text.LetterCase
import BuildPilot.Text.Split

/-!
# Extra arguments

Additional arguments for the generator, the build tool and the native tool. They are given as
switch values: `config,ARG`, `build,ARG` and `native,ARG` go to one tool, and any other value goes
to the generator and the build tool. A value may hold several arguments, separated by commas.
-/

namespace BuildPilot

open Text

/-- The tool that a switch value names. -/
inductive Scope where
  | config
  | build
  | native
deriving DecidableEq, Repr

namespace Scope

/-- The word that names a scope. -/
def name : Scope → String
  | config => "config"
  | build => "build"
  | native => "native"

/-- The scope that a word names, in any letter case and with blanks around it. -/
def ofWord? (word : String) : Option Scope :=
  [config, build, native].find? fun s => s.name = lower (trim word)

end Scope

/-- Arguments for the generator, the build tool and the native tool. -/
structure ExtraArgs where
  config : List String := []
  build : List String := []
  native : List String := []
deriving DecidableEq, Repr

namespace ExtraArgs

/-- Both lists of arguments for each tool, one behind the other. -/
def append (a b : ExtraArgs) : ExtraArgs :=
  ⟨a.config ++ b.config, a.build ++ b.build, a.native ++ b.native⟩

instance : Append ExtraArgs := ⟨append⟩

/-- The extra arguments with more arguments for the build tool. -/
def extended (e : ExtraArgs) (build : List String) : ExtraArgs :=
  { e with build := e.build ++ build }

/-- The arguments of a payload: its pieces between commas, without blanks around them and without
blank ones. -/
def argumentsIn (payload : String) : List String :=
  ((pieces ',' payload).map trim).filter fun arg => !arg.isEmpty

/-- Arguments for the tool of a scope, or for the generator and the build tool. -/
def inScope (scope : Option Scope) (args : List String) : ExtraArgs :=
  match scope with
  | some .config => { config := args }
  | some .build => { build := args }
  | some .native => { native := args }
  | none => { config := args, build := args }

/-- The scope and the payload of a trimmed switch value. A scope counts only if something follows
its comma. -/
def scopeAndPayload (text : String) : Option Scope × String :=
  match cutAtFirst ',' text.toList with
  | some (word, rest) =>
    match Scope.ofWord? (String.ofList word) with
    | some scope => if rest.isEmpty then (none, text) else (some scope, String.ofList rest)
    | none => (none, text)
  | none => (none, text)

/-- The arguments of one switch value. -/
def ofSwitch (value : String) : ExtraArgs :=
  let (scope, payload) := scopeAndPayload (trim value)
  inScope scope (argumentsIn payload)

/-- The arguments of several switch values; a missing value adds nothing. -/
def ofSwitches (values : List (Option String)) : ExtraArgs :=
  values.foldl (fun e value => e ++ (value.map ofSwitch).getD {}) {}

end ExtraArgs

end BuildPilot
