import BuildPilot.Document.Json
import BuildPilot.Document.Toml
import BuildPilot.Document.Yaml
import BuildPilot.FileSystem.Operations
import BuildPilot.Text.LetterCase

/-!
# Documents in files

A configuration document is a file whose suffix names its notation. `readDocument` gives the mapping
that it holds; `findDocument` looks for the one document of a name in a directory.
-/

namespace BuildPilot.Document

open FileSystem Text

/-- The suffixes of documents, in the order in which they are looked for. -/
def standardSuffixes : List String := [".toml", ".json", ".yaml", ".yml"]

/-- The notation that a suffix in lower case names. -/
def Format.ofSuffix? (suffix : String) : Option Format :=
  if suffix = ".toml" then some .toml
  else if suffix = ".json" then some .json
  else if suffix = ".yaml" ∨ suffix = ".yml" then some .yaml
  else none

/-- The text of octets that must be UTF-8. -/
def textOf (bs : List UInt8) : Except ReadError (List Char) :=
  match decode? bs with
  | none => .error .notUtf8
  | some s => .ok s.toList

/-- Reads a document in octets. -/
def Format.read (format : Format) (bs : List UInt8) : Except ReadError Document := do
  match format with
  | .toml => return ⟨← Toml.read (← textOf bs), []⟩
  | .json => return ⟨← Json.read (unifyNewlines (← textOf bs)), []⟩
  | .yaml => Yaml.read (← Yaml.Supply.ofOctets bs)

/-- Why a file gives no document. -/
inductive SourceFault where
  /-- The suffix names no notation. -/
  | unsupported (suffix : String)
  /-- The path holds a NUL character. -/
  | nulInPath
  /-- The file cannot be read. -/
  | unreadable (e : FileError)
  /-- The content cannot be read. -/
  | malformed (e : ReadError)
  /-- The content is not a mapping. -/
  | notMapping (path : String)
deriving DecidableEq, Repr

/-- The text of a failure to read a document. -/
def ReadError.message : ReadError → String
  | .notUtf8 => "<invalid utf-8>"
  | .badSyntax .toml => "<toml syntax error>"
  | .badSyntax .json => "<json syntax error>"
  | .badSyntax .yaml => "<yaml error>"
  | .badValue => "<invalid value>"
  | .untimely => "'NoneType' object has no attribute 'groupdict'"
  | .noDigits => "string index out of range"
  | .notTruth word => quoted word
  | .stampOnMapping => "expected string or bytes-like object, got 'list'"
  | .wideCode => "Python int too large to convert to C int"
  | .beyondFloat => "int too large to convert to float"
  | .tooDeep none => "maximum recursion depth exceeded"
  | .tooDeep (some what) =>
    s!"maximum recursion depth exceeded while decoding a JSON {what} from a unicode string"

/-- The suffixes of documents in the order in which they are listed. -/
def listedSuffixes : List String := standardSuffixes.mergeSort fun a b => a ≤ b

/-- The text of a fault. -/
def SourceFault.message : SourceFault → String
  | unsupported suffix =>
    s!"Unsupported configuration file extension: {suffix}. Supported: "
      ++ ", ".intercalate listedSuffixes
  | nulInPath => PathFault.nul.message
  | unreadable e => e.message
  | malformed e => e.message
  | notMapping path => s!"Configuration file '{path}' must contain a mapping at the root"

/-- The document as a mapping; an empty document is one without entries. -/
def asMapping (path : Path) (doc : Document) : Except SourceFault Document :=
  match doc.resolved doc.root with
  | .null => .ok { doc with root := .map [] }
  | .map _ => .ok doc
  | _ => .error (.notMapping path.toString)

/-- The document at a path; it is a mapping. -/
def readDocument (fs : FileSystem) (cwd : Location) (path : Path) :
    Except SourceFault Document :=
  let suffix := lower path.suffix
  match Format.ofSuffix? suffix with
  | none => .error (.unsupported suffix)
  | some format =>
    if hasNul path then .error .nulInPath
    else match fs.read cwd path with
      | .error cause => .error (.unreadable (.onPath cause path.toString))
      | .ok bs =>
        match format.read bs with
        | .error e => .error (.malformed e)
        | .ok doc => asMapping path doc

/-- Whether a regular file is at a path, links followed. -/
def isFileAt (fs : FileSystem) (cwd : Location) (path : Path) : Except FileError Bool := do
  match ← fs.status cwd path with
  | some (_, e) => return e.isFile
  | none => return false

/-- The paths that a document of a name may have in a directory. -/
def candidates (directory : Path) (stem : String) (suffixes : List String) : List Path :=
  (if suffixes.isEmpty then standardSuffixes else suffixes).map fun suffix =>
    directory / Path.ofString (stem ++ lower suffix)

/-- What the search for a document finds. -/
inductive Search where
  | none
  | one (path : Path)
  /-- Several documents have the name. -/
  | several (names : List String)
deriving DecidableEq, Repr

/-- The result of a search that found these paths. -/
def Search.ofPaths : List Path → Search
  | [] => none
  | [p] => one p
  | ps => several (ps.map Path.name)

/-- Looks for the document of a name in a directory. -/
def findDocument (fs : FileSystem) (cwd : Location) (directory : Path) (stem : String)
    (suffixes : List String) : Except FileError Search := do
  return Search.ofPaths (← (candidates directory stem suffixes).filterM (isFileAt fs cwd))

/-- The text of the fault that several documents have one name. -/
def severalMessage (stem : String) (names : List String) : String :=
  s!"Multiple configuration files found for '{stem}': '" ++ "', '".intercalate names
    ++ "'. Only one format per configuration entry is allowed."

end BuildPilot.Document
