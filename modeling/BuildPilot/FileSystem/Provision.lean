import BuildPilot.FileSystem.Operations
import BuildPilot.Text.Utf8

/-!
# Setting files up and taking stock

Files are set up by putting entries at paths, with all directories on the way. `listing` takes stock
of everything below a directory.
-/

namespace BuildPilot.FileSystem

open Text

/-- The directory that a name in a directory leads to, which is made if nothing is there. -/
def enter (fs : FileSystem) (above : Location) (name : String) :
    Except ErrorCause (FileSystem × Location) :=
  if name.isEmpty || name == "." then .ok (fs, above)
  else if name == ".." then .ok (fs, above.dropLast)
  else match walk fs true maxLinks above [name] with
    | .entry l .dir => .ok (fs, l)
    | .entry _ _ => .error .notDirectory
    | .absent l => .ok (fs.put l .dir, l)
    | .failed cause => .error cause

/-- The directory that names lead to, one inside the other, each of which is made if need be. -/
def enterAll (fs : FileSystem) (above : Location) :
    List String → Except ErrorCause (FileSystem × Location)
  | [] => .ok (fs, above)
  | name :: names => do
    let (fs, next) ← fs.enter above name
    enterAll fs next names

/-- What may be put at a path. -/
inductive Provided where
  | dir
  | file (content : List UInt8)
  | link (target : String)
deriving DecidableEq, Repr

/-- Puts something into a directory under a name. A file keeps its mode when it gets new content,
links to it followed. -/
def provideIn (fs : FileSystem) (above : Location) (name : String) : Provided → Change
  | .dir => (fs.enter above name).map (·.1)
  | .file content => fs.writeAt newFileMode content (walk fs true maxLinks above [name])
  | .link target =>
    match fs.get? (above ++ [name]) with
    | some .dir => .error .alreadyExists
    | _ => .ok (fs.put (above ++ [name]) (.link target))

/-- Puts something at a path below a directory, with the directories on the way. -/
def provide (fs : FileSystem) (base : Location) (path : String) (p : Provided) : Change := do
  let names := (Path.ofString path).parts
  let (fs, above) ← fs.enterAll base names.dropLast
  match names.getLast? with
  | none => return fs
  | some name => provideIn fs above name p

/-- Gives the file at a path below a directory a mode, links followed. -/
def provideMode (fs : FileSystem) (base : Location) (path : String) (mode : Nat) : Change :=
  chmodAt fs mode (walk fs true maxLinks base (Path.ofString path).parts)

/-- Removes what is at a path below a directory: a file, a link or a whole directory. -/
def withdraw (fs : FileSystem) (base : Location) (path : String) : Change :=
  match walk fs false maxLinks base (Path.ofString path).parts with
  | .entry l _ => .ok (fs.eraseTree l)
  | .absent _ => .error .noEntry
  | .failed cause => .error cause

/-- An item of a stock-taking. -/
structure Listed where
  /-- The path below the directory. -/
  path : String
  entry : Entry

/-- The entries below a directory by their paths, in order. -/
def entriesBelow (fs : FileSystem) (base : Location) : List Listed :=
  ((fs.below base).filterMap fun l =>
      (fs.get? l).map fun e => (⟨"/".intercalate (l.drop base.length), e⟩ : Listed)).mergeSort
    fun a b => a.path ≤ b.path

/-- Takes stock of everything below a directory; a file that cannot be read is an error. -/
def listing (fs : FileSystem) (base : Location) : Except FileError (List Listed) :=
  (fs.entriesBelow base).mapM fun item =>
    match item.entry with
    | .file mode _ =>
      if ownerMayRead mode then .ok item
      else .error (.onPath .accessDenied ("/" ++ "/".intercalate base ++ "/" ++ item.path))
    | _ => .ok item

/-- A mode in octal digits. -/
def modeText (mode : Nat) : String := String.ofList (Nat.toDigits 8 mode)

end BuildPilot.FileSystem
