/-!
# Build types

The four build types of the generator, each with one spelling.
-/

namespace BuildPilot

/-- How a project is compiled. -/
inductive BuildType where
  | debug
  | release
  | relWithDebInfo
  | minSizeRel
deriving DecidableEq, Repr

namespace BuildType

/-- The spelling of a build type. -/
def name : BuildType → String
  | debug => "Debug"
  | release => "Release"
  | relWithDebInfo => "RelWithDebInfo"
  | minSizeRel => "MinSizeRel"

/-- All build types, in the order in which they are offered. -/
def all : List BuildType := [debug, release, relWithDebInfo, minSizeRel]

/-- The build type with exactly this spelling. -/
def ofName? (s : String) : Option BuildType := all.find? fun b => b.name = s

theorem mem_all (b : BuildType) : b ∈ all := by cases b <;> simp [all]

@[simp] theorem ofName?_name (b : BuildType) : ofName? b.name = some b := by cases b <;> decide

/-- A spelling is accepted exactly when it is the spelling of the answer. -/
theorem ofName?_eq_some_iff {s : String} {b : BuildType} : ofName? s = some b ↔ b.name = s := by
  constructor
  · intro h
    have := List.find?_some h
    simpa using this
  · rintro rfl
    exact ofName?_name b

end BuildType

end BuildPilot
