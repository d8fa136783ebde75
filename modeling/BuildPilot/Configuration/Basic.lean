import BuildPilot.BuildType
import BuildPilot.TestFilter
import BuildPilot.Toolchain.Registry

/-!
# Configurations

What a run is asked to do, and the configuration that it is resolved to. Nothing in a configuration
depends on the working directory any more.
-/

namespace BuildPilot

/-- What a run is asked to do; whatever is left open comes from the defaults of the project. -/
structure Options where
  buildType : Option String := none
  toolchain : Option String := none
  skipTests : Bool := false
  testNames : List String := []
  verbose : Bool := false
  jobs : Option Int := none
  projectDir : Option Path := none
  configFile : Option Path := none

/-- A resolved run. -/
structure Configuration where
  buildType : BuildType
  toolchain : Toolchain
  /-- The arguments that the toolchain adds to the generator's command. -/
  toolchainArgs : List String
  projectDir : Path
  outputRoot : Path
  buildDir : Path
  skipTests : Bool
  testFilter : List String
  verbose : Bool
  jobs : Option Int
  generator : String
  repeatUntilFail : Int
  headerFilter : String
  /-- The variables that the toolchain needs and the environment lacks. -/
  missingEnvironment : List String

/-- The name of the database of compile commands. -/
def databaseName : String := "compile_commands.json"

/-- The build directory of a toolchain and build type. -/
def buildDirectory (outputRoot : Path) (toolchain : String) (buildType : BuildType) : Path :=
  outputRoot / Path.ofString toolchain / Path.ofString buildType.name

namespace Configuration

/-- The pattern that selects the tests to run, if there is one. -/
def testPattern? (c : Configuration) : Option String := TestFilter.pattern? c.testFilter

/-- The database of compile commands in the build directory. -/
def database (c : Configuration) : Path := c.buildDir.child databaseName

/-- Where the database is published. -/
def publishedDatabase (c : Configuration) : Path := c.projectDir.child databaseName

/-- The facts of a configuration that are shown to the user, in order. -/
def facts (c : Configuration) : List (String × String) :=
  [("project_dir", c.projectDir.toString), ("build_type", c.buildType.name),
    ("toolchain", c.toolchain.name), ("build_dir", c.buildDir.toString),
    ("generator", c.generator), ("jobs", (c.jobs.map toString).getD "auto"),
    ("tests", if c.skipTests then "off" else "on"), ("test_filter", c.testPattern?.getD "<all>")]

/-- The facts of a configuration, unless its number of jobs has too many digits to be written. -/
def describe? (c : Configuration) : Option (List (String × String)) :=
  if c.jobs.all Numeric.isWritable then some c.facts else none

end Configuration

end BuildPilot
