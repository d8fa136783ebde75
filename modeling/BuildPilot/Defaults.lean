import BuildPilot.Document.Source
import BuildPilot.Text.Blank

/-!
# Defaults of a project

A project may keep defaults in the `build` table of one configuration file. Reading the table checks
every entry, and what the table leaves out has a fixed default. `Defaults.ofDocument` reads a
document, and `Defaults.load` finds and reads the file.
-/

namespace BuildPilot

open Document FileSystem Numeric Text

/-- The defaults of a project. -/
structure Defaults where
  outputDir : String := "build"
  generator : String := "Ninja"
  jobs : Option Int := none
  buildType : Option String := none
  toolchain : Option String := none
  repeatUntilFail : Int := 3
  headerFilter : String := "include/"
  /-- The file that the defaults come from. -/
  source : Option String := none
deriving DecidableEq, Repr

/-- What is wrong with a defaults file. -/
inductive DefaultsFault where
  /-- Several files hold defaults. -/
  | several (names : List String)
  /-- The file that was asked for does not exist. -/
  | missing
  /-- The file gives no document. -/
  | unreadable (e : SourceFault)
  /-- The `build` entry is not a table. -/
  | notTable
  /-- The table has keys that mean nothing. -/
  | unknownKeys (keys : List String)
  /-- An entry is not a text, or a blank one. -/
  | notText (field : String)
  /-- An entry, written as it is here, is not a positive whole number. -/
  | notPositive (field : String) (value : String)
  /-- The output directory is the project directory or lies above it. -/
  | coversProject (outputDir : String)
  /-- A number that has to be shown has too many digits to be written. -/
  | longNumber
deriving DecidableEq, Repr

/-- The name of a defaults file without its suffix. -/
def defaultsStem : String := "buildfront"

/-- The text of a fault without the file concerned. -/
def DefaultsFault.message : DefaultsFault → String
  | several names => severalMessage defaultsStem names
  | missing => "Configuration file does not exist"
  | unreadable e => e.message
  | notTable => "'build' must be a table"
  | unknownKeys keys => "Unknown keys in 'build': " ++ ", ".intercalate keys
  | notText field => s!"'{field}' must be a non-empty string"
  | notPositive field value => s!"'{field}' must be a positive integer, got {value}"
  | coversProject dir =>
    "'output_dir' must not be the project directory or one of its parents, got " ++ quoted dir
  | longNumber => unwritableMessage

namespace Defaults

/-! ## Reading a document -/

/-- The keys of the table. -/
def keys : List String :=
  ["output_dir", "generator", "jobs", "build_type", "toolchain", "repeat_until_fail",
    "header_filter"]

/-- The table of defaults in a document: its `build` entry, or an empty table. -/
def table (doc : Document) : Except DefaultsFault (List (Value × Value)) :=
  match Value.lookup? "build" doc.entries with
  | none => .ok []
  | some v =>
    match doc.entries? v with
    | some es => .ok es
    | none => .error .notTable

/-- The keys of a table that mean nothing, each once and in order. -/
def unknownKeys (es : List (Value × Value)) : List String :=
  ((es.map (·.1.display)).filter fun k => k ∉ keys).eraseDups.mergeSort fun a b => a ≤ b

/-- An entry that is a text, without blanks around it; nothing is an absent entry. -/
def textField (field : String) (es : List (Value × Value)) :
    Except DefaultsFault (Option String) :=
  match Value.lookup? field es with
  | none => .ok none
  | some .null => .ok none
  | some (.text s) => if isBlankText s then .error (.notText field) else .ok (some (trim s))
  | some _ => .error (.notText field)

/-- The fault of an entry of a document that is not a positive whole number. -/
def notPositive (doc : Document) (field : String) (v : Value) : DefaultsFault :=
  if doc.isWritable v then .notPositive field (doc.literal v) else .longNumber

/-- An entry that is a positive whole number; nothing is an absent entry. -/
def countField (doc : Document) (field : String) (es : List (Value × Value)) :
    Except DefaultsFault (Option Int) :=
  match Value.lookup? field es with
  | none => .ok none
  | some .null => .ok none
  | some v => match v with
    | .int n => if 1 ≤ n then .ok (some n) else .error (notPositive doc field v)
    | _ => .error (notPositive doc field v)

/-- The defaults that a table in a document gives. -/
def ofTable (source : Option String) (doc : Document) (es : List (Value × Value)) :
    Except DefaultsFault Defaults := do
  if !es.all fun e => doc.isWritable e.1 then throw .longNumber
  let unknown := unknownKeys es
  if !unknown.isEmpty then throw (.unknownKeys unknown)
  let standard : Defaults := {}
  let outputDir ← textField "output_dir" es
  let generator ← textField "generator" es
  let jobs ← countField doc "jobs" es
  let buildType ← textField "build_type" es
  let toolchain ← textField "toolchain" es
  let repeatUntilFail ← countField doc "repeat_until_fail" es
  let headerFilter ← textField "header_filter" es
  return {
    outputDir := outputDir.getD standard.outputDir
    generator := generator.getD standard.generator
    jobs := jobs
    buildType := buildType
    toolchain := toolchain
    repeatUntilFail := repeatUntilFail.getD standard.repeatUntilFail
    headerFilter := headerFilter.getD standard.headerFilter
    source := source }

/-- The defaults in the document of a file. -/
def ofDocument (source : Option String) (doc : Document) : Except DefaultsFault Defaults := do
  ofTable source doc (← table doc)

end Defaults

/-! ## Finding the file -/

/-- Why a project has no defaults. -/
inductive LoadFault where
  /-- The defaults file is wrong; `source` names it if one was chosen. -/
  | rejected (fault : DefaultsFault) (source : Option String)
  /-- A look at the file failed. -/
  | file (e : FileError)
  /-- The file cannot be read, and the failure is none that a defaults file is blamed for. -/
  | escaped (e : ReadError)
  /-- A number in the file has too many digits to be written; the file is not blamed for it. -/
  | longNumber
deriving DecidableEq, Repr

/-- The fault of a document that gives no defaults. -/
def LoadFault.ofDefaults (source : Option String) : DefaultsFault → LoadFault
  | .longNumber => longNumber
  | fault => rejected fault source

/-- Whether a failure to read a document is blamed on the defaults file. -/
def Document.ReadError.isBlamed : ReadError → Bool
  | .notUtf8 => true
  | .badSyntax .toml => true
  | .badSyntax .json => true
  | .badSyntax .yaml => false
  | .badValue => true
  | .untimely => false
  | .noDigits => false
  | .notTruth _ => false
  | .stampOnMapping => true
  | .wideCode => false
  | .beyondFloat => false
  | .tooDeep _ => false

namespace Defaults

/-- The fault of a file that gives no document. -/
def unreadable (source : String) (e : SourceFault) : LoadFault :=
  match e with
  | .malformed r => if r.isBlamed then .rejected (.unreadable e) (some source) else .escaped r
  | _ => .rejected (.unreadable e) (some source)

/-- Reads the defaults file at a path. -/
def loadFile (fs : FileSystem) (cwd : Location) (path : Path) : Except LoadFault Defaults := do
  let source := path.toString
  if !(← (isFileAt fs cwd path).mapError .file) then throw (.rejected .missing (some source))
  let doc ← (readDocument fs cwd path).mapError (unreadable source)
  (ofDocument (some source) doc).mapError (.ofDefaults (some source))

/-- The path of a defaults file that is asked for, seen from the project. -/
def requestedPath (projectDir requested : Path) : Path :=
  if requested.isAbsolute then requested else projectDir / requested

/-- Loads the defaults of a project: from the file asked for, or from the only defaults file in the
project directory. Without one the fixed defaults hold. -/
def load (fs : FileSystem) (cwd : Location) (projectDir : Path) (requested : Option Path) :
    Except LoadFault Defaults := do
  match requested with
  | some path => loadFile fs cwd (requestedPath projectDir path)
  | none =>
    match ← (findDocument fs cwd projectDir defaultsStem []).mapError .file with
    | .none => return {}
    | .one path => loadFile fs cwd path
    | .several names => throw (.rejected (.several names) none)

end Defaults

end BuildPilot
