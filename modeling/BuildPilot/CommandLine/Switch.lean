import BuildPilot.Action
import BuildPilot.Toolchain.Registry
import BuildPilot.BuildType

/-!
# Switches of the command line

The switches, their spellings, and the page that explains them.
-/

namespace BuildPilot.CommandLine

/-- A switch of the command line. -/
inductive Switch where
  | help
  | buildType
  | debug
  | release
  | toolchain
  | noTests
  | testNames
  | jobs
  | projectDir
  | config
  | dryRun
  | verbose
  | extra
deriving DecidableEq, Repr

namespace Switch

/-- All switches, in the order in which they are explained. -/
def all : List Switch :=
  [help, buildType, debug, release, toolchain, noTests, testNames, jobs, projectDir, config,
    dryRun, verbose, extra]

/-- The spellings of a switch, a short one first. -/
def spellings : Switch → List String
  | help => ["-h", "--help"]
  | buildType => ["--build-type"]
  | debug => ["--debug"]
  | release => ["--release"]
  | toolchain => ["--toolchain"]
  | noTests => ["--notests"]
  | testNames => ["--testnames"]
  | jobs => ["-j", "--jobs"]
  | projectDir => ["--project-dir"]
  | config => ["--config"]
  | dryRun => ["--dry-run"]
  | verbose => ["-v", "--verbose"]
  | extra => ["-X"]

/-- What the value of a switch is called, if it takes one. -/
def valueName? : Switch → Option String
  | buildType => some "BUILD_TYPE"
  | toolchain => some "TOOLCHAIN"
  | testNames => some "NAME1;NAME2"
  | jobs => some "JOBS"
  | projectDir => some "PROJECT_DIR"
  | config => some "CONFIG_FILE"
  | extra => some "SCOPE,ARG"
  | _ => none

/-- Whether a switch takes a value. -/
def takesValue (s : Switch) : Bool := s.valueName?.isSome

/-- The switches of which only one may be given: they all say how to build. -/
def exclusive : List Switch := [buildType, debug, release]

/-- The name of a switch in messages. -/
def label (s : Switch) : String := "/".intercalate s.spellings

/-- What a switch is for. -/
def purpose : Switch → String
  | help => "show this help message and exit"
  | buildType =>
    "Specify the CMake build type [" ++ "|".intercalate (BuildType.all.map BuildType.name) ++ "]"
  | debug => "Shorthand for --build-type Debug"
  | release => "Shorthand for --build-type Release"
  | toolchain =>
    "Specify the toolchain [" ++ "|".intercalate Registry.builtin.names
      ++ "]; inferred from the host OS if omitted"
  | noTests => "Do not build test targets"
  | testNames => "Only run tests matching these names (semicolon separated, may be repeated)"
  | jobs => "Parallel job count for the build tool and tests"
  | projectDir => "Project root (default: current directory)"
  | config => "Project defaults file"
  | dryRun => "Print commands without executing them"
  | verbose => "Print extra info for all actions"
  | extra =>
    "Extra arguments (-Xconfig,<arg>, -Xbuild,<arg> or -Xnative,<arg>; "
      ++ "omit scope for config and build)"

/-- All spellings with their switches. -/
def table : List (String × Switch) := all.flatMap fun s => s.spellings.map fun name => (name, s)

/-- The switch of a spelling. -/
def ofSpelling? (name : String) : Option Switch := table.lookup name

end Switch

/-! ## The explaining page -/

/-- The name of the program. -/
def programName : String := "buildfront"

/-- How the program is called. -/
def usageLine : String := "usage: " ++ programName ++ " [options] [actions ...]\n"

/-- Words put into lines of at most `width` characters, behind the line begun in `line`. -/
def fillFrom (width : Nat) (line : String) : List String → List String
  | [] => [line]
  | w :: ws =>
    if line.length + 1 + w.length ≤ width then fillFrom width (line ++ " " ++ w) ws
    else line :: fillFrom width w ws

/-- A text in lines of at most `width` characters. -/
def fill (width : Nat) (s : String) : List String :=
  match (Text.pieces ' ' s).filter fun w => !w.isEmpty with
  | [] => []
  | w :: ws => fillFrom width w ws

/-- A text filled up with blanks. -/
def padTo (width : Nat) (s : String) : String :=
  s ++ String.ofList (List.replicate (width - s.length) ' ')

/-- The column at which explanations start. -/
def helpColumn : Nat := 24

/-- The width of the page. -/
def pageWidth : Nat := 78

/-- An entry of the page: what it is about, and the explanation beside or below it. -/
def entry (subject explanation : String) : String :=
  let lines := fill (pageWidth - helpColumn) explanation
  let indent := padTo helpColumn ""
  let below := fun ls : List String => String.join (ls.map fun l => indent ++ l ++ "\n")
  if subject.length + 4 ≤ helpColumn then
    match lines with
    | [] => "  " ++ subject ++ "\n"
    | l :: ls => padTo helpColumn ("  " ++ subject) ++ l ++ "\n" ++ below ls
  else "  " ++ subject ++ "\n" ++ below lines

/-- How a switch is written. -/
def Switch.written (s : Switch) : String :=
  let value := (s.valueName?.map (" " ++ ·)).getD ""
  ", ".intercalate (s.spellings.map (· ++ value))

/-- A table of two columns. -/
def columns (rows : List (String × String)) : String :=
  let width := (rows.map (·.1.length)).foldl max 0
  String.join (rows.map fun (name, text) => "  " ++ padTo width name ++ "  " ++ text ++ "\n")

/-- The page that explains the program. -/
def helpPage : String :=
  usageLine
    ++ "\nWrapper around the CMake configure/build/test cycle\n"
    ++ "\npositional arguments:\n" ++ entry "action" "Actions to run in order"
    ++ "\noptions:\n" ++ String.join (Switch.all.map fun s => entry s.written s.purpose)
    ++ "\nPossible actions:\n" ++ columns (Action.all.map fun a => (a.name, a.summary))
    ++ "\nThe 'build' action is performed if no actions are given.\n"
    ++ "\nToolchains:\n"
    ++ columns (Registry.builtin.toolchains.map fun t => (t.name, t.description))

end BuildPilot.CommandLine
