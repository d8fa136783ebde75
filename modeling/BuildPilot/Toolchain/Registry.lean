import BuildPilot.Text.Blank
import BuildPilot.Text.LetterCase
import BuildPilot.Toolchain.Basic

/-!
# The toolchains to choose from

A registry offers toolchains by name, in their order. The toolchain for a
host is inferred from the name of its operating system.
-/

namespace BuildPilot

open Text

/-- The toolchains of a run, each with the name that it is offered by. -/
structure Registry where
  entries : List (String × Toolchain)

namespace Registry

/-- The toolchain that is offered by a name. -/
def get? (r : Registry) (name : String) : Option Toolchain := r.entries.lookup name

/-- The names that toolchains are offered by. -/
def names (r : Registry) : List String := r.entries.map Prod.fst

/-- The toolchains that are offered. -/
def toolchains (r : Registry) : List Toolchain := r.entries.map Prod.snd

/-- Offers a toolchain by its own name, in place of any that was offered by this name. -/
def insert (t : Toolchain) : List (String × Toolchain) → List (String × Toolchain)
  | [] => [(t.name, t)]
  | (name, u) :: rest => if name = t.name then (name, t) :: rest else (name, u) :: insert t rest

/-- The registry of a list of toolchains, in which the last one of a name counts. -/
def ofList (ts : List Toolchain) : Registry := ⟨ts.foldl (fun us t => insert t us) []⟩

/-- The Microsoft compiler. -/
def msvc : Toolchain where
  name := "msvc"
  description := "Microsoft Visual C++"
  cc := "cl.exe"
  cxx := "cl.exe"
  linker := "link.exe"

/-- The GNU compilers. -/
def gcc : Toolchain where
  name := "gcc"
  description := "GNU Compiler Collection"
  cc := "gcc"
  cxx := "g++"
  linker := "ld"

/-- The LLVM compilers. -/
def clang : Toolchain where
  name := "clang"
  description := "LLVM Clang toolchain"
  cc := "clang"
  cxx := "clang++"
  linker := "ld.lld"

/-- The LLVM compiler with the Microsoft calling conventions. -/
def clangCl : Toolchain where
  name := "clang_cl"
  description := "LLVM clang-cl with the MSVC ABI"
  cc := "clang-cl.exe"
  cxx := "clang-cl.exe"
  linker := "lld-link.exe"

/-- The cross build for Windows from a Linux subsystem. -/
def msvcWsl : Toolchain where
  name := "msvc_wsl"
  description := "clang-cl cross build for Windows from a WSL shell"
  cc := "clang-cl"
  cxx := "clang-cl"
  linker := "lld-link"
  file := some "cmake/WinMsvc.cmake"
  crossEnvironment :=
    ["HOST_ARCH", "LLVM_NATIVE_TOOLCHAIN", "MSVC_BASE", "WINSDK_BASE", "WINSDK_VER"]
  executablePatterns := ["*.exe", "*.dll"]

/-- The toolchains that every run knows. -/
def builtin : Registry := ofList [msvc, gcc, clang, clangCl, msvcWsl]

theorem toolchains_builtin : builtin.toolchains = [msvc, gcc, clang, clangCl, msvcWsl] := rfl

/-- Whether an operating system belongs to the Windows family. -/
def isWindowsFamily (os : String) : Bool :=
  os == "windows" || ["cygwin", "msys", "mingw"].any fun p => p.toList.isPrefixOf os.toList

/-- The name of the toolchain for a host, from the name of its operating system. -/
def defaultForHost? (os : String) : Option String :=
  let os := lower (trim os)
  if isWindowsFamily os then some "msvc"
  else if os == "linux" then some "gcc"
  else none

end Registry

end BuildPilot
