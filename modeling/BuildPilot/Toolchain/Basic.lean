import BuildPilot.Document.Value
import BuildPilot.Environment
import BuildPilot.Path

/-!
# Toolchains

A toolchain names a compiler and linker and says which switches select them for the generator.
The variables of a cross build are copied from the environment into switches as they are; one that
is unset or empty is also reported as missing. A definition whose value holds a number with too many
digits to be written has no switch, and its toolchain no arguments.
-/

namespace BuildPilot

open Document

/-- A compiler and linker combination and the switches that select it. -/
structure Toolchain where
  name : String
  description : String
  cc : String
  cxx : String
  linker : String
  /-- Further definitions for the generator, in order. -/
  definitions : List (String × Value) := []
  /-- The toolchain file of the generator, relative to the project. -/
  file : Option String := none
  /-- The environment variables of a cross build. -/
  crossEnvironment : List String := []
  /-- The patterns of the built files that have to be made executable. -/
  executablePatterns : List String := []

namespace Toolchain

/-- The switch that defines `key` as a text. -/
def define (key value : String) : String := "-D" ++ key ++ "=" ++ value

/-- The text of a value in a definition: truth values are switched on or off. -/
def definitionText : Value → String
  | .bool b => if b then "ON" else "OFF"
  | v => v.display

/-- The switches that name the compilers and the linker. -/
def compilerSwitches (t : Toolchain) : List String :=
  [define "CMAKE_C_COMPILER" t.cc, define "CMAKE_CXX_COMPILER" t.cxx,
    define "CMAKE_LINKER" t.linker]

/-- The switches of the further definitions. -/
def definitionSwitches (t : Toolchain) : List String :=
  t.definitions.map fun d => define d.1 (definitionText d.2)

/-- The switch that names the toolchain file, if there is one. -/
def fileSwitches (t : Toolchain) (projectDir : Path) : List String :=
  match t.file with
  | none => []
  | some f =>
    if f.isEmpty then []
    else [define "CMAKE_TOOLCHAIN_FILE" (projectDir / Path.ofString f).toString]

/-- The switches that hand on the variables of a cross build. -/
def crossSwitches (t : Toolchain) (env : Environment) : List String :=
  t.crossEnvironment.map fun name => define name (env.getD name)

/-- The switches of the toolchain for the generator's command, however long their numbers are. -/
def arguments (t : Toolchain) (projectDir : Path) (env : Environment) : List String :=
  t.compilerSwitches ++ t.definitionSwitches ++ t.fileSwitches projectDir ++ t.crossSwitches env

/-- Whether all numbers in the definitions have few enough digits to be written. -/
def isWritable (t : Toolchain) : Bool := t.definitions.all fun d => d.2.isWritable

/-- The arguments that the toolchain adds to the generator's command, if its definitions can be
written. -/
def arguments? (t : Toolchain) (projectDir : Path) (env : Environment) : Option (List String) :=
  if t.isWritable then some (t.arguments projectDir env) else none

/-- The variables of a cross build that are unset or empty. -/
def missingEnvironment (t : Toolchain) (env : Environment) : List String :=
  t.crossEnvironment.filter fun name => (env.getD name).isEmpty

/-- Whether the built files have to be made executable. -/
def needsPermissionFix (t : Toolchain) : Bool := !t.executablePatterns.isEmpty

end Toolchain

end BuildPilot
