import BuildPilot.FileSystem.Operations
import BuildPilot.Shell.Utility

/-!
# Programs

A file can be started if its owner may execute it and its content says how: it is the image of a
program, or a text whose first line names the program that is to read it.
-/

namespace BuildPilot.Shell

open FileSystem Text

/-- The octets that the image of a program starts with. -/
def imageMark : List UInt8 := [0x7f, 0x45, 0x4c, 0x46]

/-- The image of a program: the mark and the name. -/
def imageOf (program : String) : List UInt8 := imageMark ++ encode program

/-- The program of which a content is the image. -/
def programOf? (content : List UInt8) : Option String :=
  if imageMark.isPrefixOf content then decode? (content.drop imageMark.length) else none

/-- The program that the first line of a text names, and the argument that it is to get. -/
def interpreterOf? (content : List UInt8) : Option (String × Option String) :=
  if content.take 2 != [0x23, 0x21] then none
  else
    let isGap (b : UInt8) := b = 32 || b = 9
    let line := ((content.drop 2).takeWhile (· != 10)).dropWhile isGap
    let line := (line.reverse.dropWhile isGap).reverse
    let path := line.takeWhile (!isGap ·)
    let rest := (line.drop path.length).dropWhile isGap
    if path.isEmpty then none
    else some (decode path, if rest.isEmpty then none else some (decode rest))

/-- A program that is to be started, the name that it is called by, and its arguments. -/
structure Start where
  program : String
  name : String
  arguments : List String
deriving DecidableEq, Repr

/-- The content of the file at a path, if it may be executed. -/
def executable (fs : FileSystem) (cwd : Location) (path : String) :
    Except ErrorCause (List UInt8) :=
  match fs.findText cwd true path with
  | .entry _ (.file mode content) =>
    if ownerMayExecute mode then .ok content else .error .accessDenied
  | .entry _ _ => .error .accessDenied
  | .absent _ => .error .noEntry
  | .failed cause => .error cause

/-- What is started when the file at a path is executed under a name; texts may name further texts,
at most `depth` of them. -/
def startAt (fs : FileSystem) (cwd : Location) :
    (depth : Nat) → (path name : String) → (arguments : List String) → Except ErrorCause Start
  | 0, _, _, _ => .error .linkLoop
  | depth + 1, path, name, arguments => do
    let content ← executable fs cwd path
    match programOf? content, interpreterOf? content with
    | some program, _ => return ⟨program, name, arguments⟩
    | none, some (interpreter, argument) =>
      startAt fs cwd depth interpreter interpreter (argument.toList ++ path :: arguments)
    | none, none => throw .unknownFormat

/-- The number of texts that may name each other. -/
def maxInterpreters : Nat := 5

/-- The directories that are searched when no variable names them. -/
def usualPath : String := "/bin:/usr/bin"

/-- The paths at which a command is looked for: the name itself if it holds a slash, or else the
name in each directory of the search path. -/
def candidates (searchPath name : String) : List String :=
  if name.toList.contains '/' then [name]
  else (pieces ':' searchPath).map fun dir =>
    if dir.isEmpty then name else if dir.endsWith "/" then dir ++ name else dir ++ "/" ++ name

/-- The cause for which none of several attempts succeeded: the first one that is not the lack of
a file, or else the last one. -/
def lasting : List ErrorCause → ErrorCause
  | causes =>
    (causes.find? fun c => c != .noEntry && c != .notDirectory).getD (causes.getLast?.getD .noEntry)

/-- What is started for a command: the first of its candidates that can be executed. -/
def startOf (fs : FileSystem) (cwd : Location) (name : String) (arguments : List String)
    (paths : List String) : Except ErrorCause Start :=
  let attempts := paths.map fun path => startAt fs cwd maxInterpreters path name arguments
  match attempts.findSome? Except.toOption with
  | some start => .ok start
  | none => .error (lasting (attempts.filterMap fun
    | .error cause => some cause
    | .ok _ => none))

/-- The programs that are run as scripts of the shell. -/
def shellNames : List String := ["sh", "dash"]

/-- The names of all programs. -/
def programNames : List String := shellNames ++ "env" :: Utility.table.map (·.1)

/-- The files with all programs in a directory. -/
def install (fs : FileSystem) (dir : Location) : FileSystem :=
  programNames.foldl (fun fs name => fs.put (dir ++ [name]) (.file 0o755 (imageOf name))) fs

end BuildPilot.Shell
