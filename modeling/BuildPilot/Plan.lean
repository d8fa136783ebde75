import BuildPilot.Action
import BuildPilot.Configuration.Basic
import BuildPilot.ExtraArgs

/-!
# Plans

An action is carried out by commands and by changes of files between them. The plan of an action is
the list of both, and it depends on the configuration and the extra arguments only.
-/

namespace BuildPilot

/-- A command of a plan. -/
structure Step where
  command : List String
  cwd : Path
  description : String
deriving DecidableEq, Repr

/-- One part of a plan. -/
inductive Task where
  /-- Run a command. -/
  | run (step : Step)
  /-- Make the built files executable. -/
  | fixPermissions
  /-- Publish the database of compile commands. -/
  | publish
  /-- Remove the output directory. -/
  | removeOutput
  /-- Give up: a number in the next commands has too many digits to be written. -/
  | giveUp
deriving DecidableEq, Repr

namespace Configuration

/-! ## Commands -/

/-- The command that generates the build files. -/
def configureCommand (c : Configuration) (extra : ExtraArgs) : List String :=
  ["cmake", "-S", c.projectDir.toString, "-B", c.buildDir.toString, "-G", c.generator,
    "-DCMAKE_BUILD_TYPE=" ++ c.buildType.name, "-DCMAKE_EXPORT_COMPILE_COMMANDS=ON",
    "-DBUILD_TESTING=" ++ (if c.skipTests then "OFF" else "ON")]
    ++ c.toolchainArgs ++ extra.config

/-- The arguments for the native tool. -/
def nativeArguments (c : Configuration) (extra : ExtraArgs) : List String :=
  (if c.verbose then ["-v"] else []) ++ extra.native

/-- The job count as an argument; a count of zero is none. -/
def jobArguments (c : Configuration) : List String :=
  match c.jobs with
  | none => []
  | some n => if n = 0 then [] else [toString n]

/-- The command that builds the project. -/
def buildCommand (c : Configuration) (extra : ExtraArgs) : List String :=
  let native := c.nativeArguments extra
  ["cmake", "--build", c.buildDir.toString, "-j"] ++ c.jobArguments ++ extra.build
    ++ (if native.isEmpty then [] else "--" :: native)

/-- The number of tests that run side by side: the job count, or else the number of processors. -/
def testJobs (c : Configuration) (processors : Option Nat) : Int :=
  match c.jobs with
  | some n => if n = 0 then max 1 (processors.getD 1) else n
  | none => max 1 (processors.getD 1)

/-- The command that runs the tests. -/
def testCommand (c : Configuration) (processors : Option Nat) : List String :=
  ["ctest", "-j", toString (c.testJobs processors), "--schedule-random", "--repeat-until-fail",
    toString c.repeatUntilFail, "--output-on-failure"]
    ++ (if c.verbose then ["-V"] else [])
    ++ (match c.testPattern? with
      | some p => if p.isEmpty then [] else ["-R", p]
      | none => [])

/-- The command that runs the failed tests again. -/
def retestCommand (c : Configuration) : List String :=
  ["ctest", "--rerun-failed", "--output-on-failure"] ++ (if c.verbose then ["-V"] else [])

/-- The command that analyses the code. -/
def analyzeCommand (c : Configuration) : List String :=
  ["run-clang-tidy", "-p", c.buildDir.toString, "-header-filter=" ++ c.headerFilter]
    ++ (if c.verbose then [] else ["-quiet"])

/-! ## Steps -/

/-- Generating the build files and building. -/
def buildSteps (c : Configuration) (extra : ExtraArgs) : List Step :=
  [⟨c.configureCommand extra, c.projectDir, "Generate build files"⟩,
    ⟨c.buildCommand extra, c.projectDir, "Build project"⟩]

/-- Building, the build tool cleaning first. -/
def rebuildSteps (c : Configuration) (extra : ExtraArgs) : List Step :=
  c.buildSteps (extra.extended ["--clean-first"])

/-- The clean target of the build tool. -/
def cleanSteps (c : Configuration) (extra : ExtraArgs) : List Step :=
  c.buildSteps (extra.extended ["--target", "clean"])

/-- Running the tests. -/
def testSteps (c : Configuration) (processors : Option Nat) : List Step :=
  [⟨c.testCommand processors, c.buildDir, "Run tests"⟩]

/-- Running the failed tests again. -/
def retestSteps (c : Configuration) : List Step :=
  [⟨c.retestCommand, c.buildDir, "Re-run failed tests"⟩]

/-- Analysing the code. -/
def analyzeSteps (c : Configuration) : List Step :=
  [⟨c.analyzeCommand, c.buildDir, "Run static analysis"⟩]

/-- The commands of an action by itself, without those of the build before it. -/
def ownSteps (c : Configuration) (extra : ExtraArgs) (processors : Option Nat) :
    Action → List Step
  | .build => c.buildSteps extra
  | .rebuild => c.rebuildSteps extra
  | .clean => c.cleanSteps extra
  | .cleanall => []
  | .test => c.testSteps processors
  | .retest => c.retestSteps
  | .analyze => c.analyzeSteps

/-- The numbers in the commands of an action by itself. -/
def ownNumbers (c : Configuration) (processors : Option Nat) : Action → List Int
  | .build => c.jobs.toList
  | .rebuild => c.jobs.toList
  | .clean => c.jobs.toList
  | .test => [c.testJobs processors, c.repeatUntilFail]
  | _ => []

/-- The commands of an action by itself, unless a number in them has too many digits to be
written. -/
def ownSteps? (c : Configuration) (extra : ExtraArgs) (processors : Option Nat) (a : Action) :
    Option (List Step) :=
  if (c.ownNumbers processors a).all Numeric.isWritable then some (c.ownSteps extra processors a)
  else none

/-! ## Plans -/

/-- The tasks of an action by itself: its commands, if the numbers in them can be written. -/
def ownTasks (c : Configuration) (extra : ExtraArgs) (processors : Option Nat) (a : Action) :
    List Task :=
  match c.ownSteps? extra processors a with
  | some steps => steps.map .run
  | none => [.giveUp]

/-- What is done with the results of a build. -/
def afterBuild (c : Configuration) : List Task :=
  (if c.toolchain.needsPermissionFix then [.fixPermissions] else []) ++ [.publish]

/-- The plan of an action. A test and an analysis begin with a build and what belongs to it. -/
def plan (c : Configuration) (extra : ExtraArgs) (processors : Option Nat) (a : Action) :
    List Task :=
  let own := c.ownTasks extra processors
  match a with
  | .build => own .build ++ c.afterBuild
  | .rebuild => own .rebuild ++ c.afterBuild
  | .clean => own .clean
  | .cleanall => [.removeOutput]
  | .test => own .build ++ c.afterBuild ++ own .test
  | .retest => own .retest
  | .analyze => own .build ++ c.afterBuild ++ own .analyze

end Configuration

end BuildPilot
