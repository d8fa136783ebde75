import BuildPilot.Configuration.Basic
import BuildPilot.Defaults
import BuildPilot.FileSystem.RealPath

/-!
# Resolving a run

`resolve` turns options into a configuration: options win over the defaults of the project, and
those over the host. The build type is settled first, then the toolchain, the output directory, the
number of jobs and the arguments of the toolchain; the first that is wrong is the error. Nothing on
disk changes.
-/

namespace BuildPilot

open FileSystem Text

/-- Why a run cannot be configured. -/
inductive ConfigFault where
  /-- No build type has this name. -/
  | buildType (name : String)
  /-- None of the available toolchains has this name. -/
  | toolchain (name : String) (available : List String)
  /-- No toolchain is known for this operating system. -/
  | host (os : String)
  /-- The defaults are wrong. -/
  | defaults (fault : DefaultsFault) (source : Option String)
  /-- The number of jobs is not positive. -/
  | jobs (n : Int)
deriving DecidableEq, Repr

/-- The text of a fault. -/
def ConfigFault.message : ConfigFault → String
  | buildType name =>
    s!"Unknown build type '{name}'. Expected one of: "
      ++ "|".intercalate (BuildType.all.map BuildType.name)
  | toolchain name available =>
    s!"Unknown toolchain '{name}'. Expected one of: " ++ "|".intercalate available
  | host os =>
    let os := if os.isEmpty then "<unknown>" else os
    s!"Cannot infer a toolchain for host OS '{os}'; pass --toolchain explicitly"
  | defaults fault source =>
    match source with
    | none => fault.message
    | some s => if s.isEmpty then fault.message else s!"[{s}] " ++ fault.message
  | jobs n => s!"Job count must be a positive integer, got {n}"

/-- Why a run cannot be resolved. -/
inductive ResolveFault where
  | config (fault : ConfigFault)
  /-- A look at a file failed. -/
  | file (e : FileError)
  /-- A defaults file cannot be read, and is not blamed for it. -/
  | document (e : Document.ReadError)
  /-- A directory has no real path. -/
  | path (fault : PathFault)
  /-- A number has too many digits to be written. -/
  | longNumber
deriving DecidableEq, Repr

/-- The fault of defaults that cannot be loaded. -/
def ResolveFault.ofLoad : LoadFault → ResolveFault
  | .rejected fault source => .config (.defaults fault source)
  | .file e => .file e
  | .escaped e => .document e
  | .longNumber => .longNumber

/-- The first text, unless it is missing or empty, or else the second one. -/
def orElseText (a b : Option String) : Option String :=
  match a with
  | some s => if s.isEmpty then b else some s
  | none => b

/-- The toolchain of a name, or that of the host. -/
def Registry.resolve (r : Registry) (name : Option String) (os : String) :
    Except ConfigFault Toolchain :=
  match name.or (Registry.defaultForHost? os) with
  | none => .error (.host os)
  | some name =>
    match r.get? name with
    | some t => .ok t
    | none => .error (.toolchain name r.names)

/-- The build type of a name. -/
def BuildType.parse (name : String) : Except ConfigFault BuildType :=
  match BuildType.ofName? name with
  | some b => .ok b
  | none => .error (.buildType name)

/-- Where a run takes place. -/
structure Host where
  files : FileSystem
  cwd : Location
  /-- The name of the operating system. -/
  os : String
  env : Environment

/-- The project directory of a run. -/
def projectDirectory (h : Host) (o : Options) : Except PathFault Path :=
  realPath h.files h.cwd (o.projectDir.getD ⟨.root, h.cwd⟩)

/-- The output directory: real, and outside the way from the root to the project directory. -/
def outputRoot (h : Host) (d : Defaults) (projectDir : Path) : Except ResolveFault Path := do
  let root ← (realPath h.files h.cwd (projectDir / Path.ofString d.outputDir)).mapError .path
  if projectDir.isWithin root then
    throw (.config (.defaults (.coversProject d.outputDir) d.source))
  return root

/-- The number of jobs, if it is fixed. A number that is refused is shown, if it can be written. -/
def jobCount (o : Options) (d : Defaults) : Except ResolveFault (Option Int) :=
  match o.jobs.or d.jobs with
  | none => .ok none
  | some n =>
    if 1 ≤ n then .ok (some n)
    else .error (if Numeric.isWritable n then .config (.jobs n) else .longNumber)

/-- The arguments of a toolchain for the generator. -/
def toolchainArguments (h : Host) (t : Toolchain) (projectDir : Path) :
    Except ResolveFault (List String) :=
  match t.arguments? projectDir h.env with
  | some arguments => .ok arguments
  | none => .error .longNumber

/-- The configuration of a run with given defaults, in a real project directory. -/
def resolveWith (h : Host) (r : Registry) (o : Options) (d : Defaults) (projectDir : Path) :
    Except ResolveFault Configuration := do
  let buildTypeName := (orElseText o.buildType (orElseText d.buildType none)).getD
    BuildType.debug.name
  let buildType ← (BuildType.parse buildTypeName).mapError .config
  let toolchain ← (r.resolve (orElseText o.toolchain d.toolchain) (lower h.os)).mapError .config
  let root ← outputRoot h d projectDir
  let jobs ← jobCount o d
  let toolchainArgs ← toolchainArguments h toolchain projectDir
  return {
    buildType := buildType
    toolchain := toolchain
    toolchainArgs := toolchainArgs
    projectDir := projectDir
    outputRoot := root
    buildDir := buildDirectory root toolchain.name buildType
    skipTests := o.skipTests
    testFilter := TestFilter.parse o.testNames
    verbose := o.verbose
    jobs := jobs
    generator := d.generator
    repeatUntilFail := d.repeatUntilFail
    headerFilter := d.headerFilter
    missingEnvironment := toolchain.missingEnvironment h.env }

/-- The configuration of a run. Defaults that are not given are loaded from the project. -/
def resolve (h : Host) (r : Registry) (o : Options) (given : Option Defaults) :
    Except ResolveFault Configuration := do
  let projectDir ← (projectDirectory h o).mapError .path
  let defaults ← match given with
    | some d => pure d
    | none => (Defaults.load h.files h.cwd projectDir o.configFile).mapError .ofLoad
  resolveWith h r o defaults projectDir

end BuildPilot
