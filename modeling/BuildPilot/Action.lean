/-!
# Build actions

What the user may ask for, by name. A request with an unknown name is rejected as a whole, and a
request without names asks for a build.
-/

namespace BuildPilot

/-- A build action. -/
inductive Action where
  | build
  | rebuild
  | clean
  | cleanall
  | test
  | retest
  | analyze
deriving DecidableEq, Repr

/-- The names in a request that no action has. -/
structure UnknownActions where
  names : List String
deriving DecidableEq, Repr

namespace Action

/-- All actions, in the order in which they are offered. -/
def all : List Action := [build, rebuild, clean, cleanall, test, retest, analyze]

/-- The name of an action. -/
def name : Action → String
  | build => "build"
  | rebuild => "rebuild"
  | clean => "clean"
  | cleanall => "cleanall"
  | test => "test"
  | retest => "retest"
  | analyze => "analyze"

/-- What an action does, in one line. -/
def summary : Action → String
  | build => "generate build files and build (default)"
  | rebuild => "build with the build tool cleaning first"
  | clean => "run the build tool's clean target"
  | cleanall => "delete the whole output directory for every toolchain and build type"
  | test => "build, then run the test suite"
  | retest => "re-run only the tests that failed last time, without rebuilding"
  | analyze => "build, then run clang-tidy over the compile-command database"

/-- The action of a name. -/
def ofName? (s : String) : Option Action := all.find? fun a => a.name = s

@[simp] theorem ofName?_name (a : Action) : ofName? a.name = some a := by cases a <;> decide

/-- The actions that a request names. -/
def validate (names : List String) : Except UnknownActions (List Action) :=
  if names.isEmpty then .ok [build]
  else
    let unknown := names.filter fun s => (ofName? s).isNone
    if unknown.isEmpty then .ok (names.filterMap ofName?) else .error ⟨unknown⟩

end Action

/-- The message about unknown names. -/
def UnknownActions.message (u : UnknownActions) : String :=
  "Unknown build command(s): " ++ ", ".intercalate (u.names.map fun s => s!"'{s}'")
    ++ ". Possible actions: " ++ ", ".intercalate (Action.all.map Action.name)

end BuildPilot
