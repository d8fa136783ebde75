import BuildPilot.FileSystem.Search

/-!
# Changing files

Reading and writing files, making and removing entries, copying, and changing modes, as the owner
of all files: a file is read or written only if its mode lets its owner do so.
-/

namespace BuildPilot.FileSystem

/-- The outcome of a change. -/
abbrev Change := Except ErrorCause FileSystem

/-- Whether a mode lets the owner read. -/
def ownerMayRead (mode : Nat) : Bool := mode.testBit 8

/-- Whether a mode lets the owner write. -/
def ownerMayWrite (mode : Nat) : Bool := mode.testBit 7

/-- Whether a mode lets the owner execute. -/
def ownerMayExecute (mode : Nat) : Bool := mode.testBit 6

/-- The mode of a new file. -/
def newFileMode : Nat := 0o644

/-- The three bits that make a file executable. -/
def executeBits : Nat := 0o111

/-- The content of the file at a sight. -/
def contentAt : Sight → Except ErrorCause (List UInt8)
  | .entry _ (.file mode content) => if ownerMayRead mode then .ok content else .error .accessDenied
  | .entry _ .dir => .error .isDirectory
  | .entry _ (.link _) => .error .linkLoop
  | .absent _ => .error .noEntry
  | .failed cause => .error cause

/-- The content of the file at a path. -/
def read (fs : FileSystem) (cwd : Location) (p : Path) : Except ErrorCause (List UInt8) :=
  contentAt (fs.find cwd true p)

/-- Writes a file at a sight: a file keeps its mode, a new one gets `mode`. -/
def writeAt (fs : FileSystem) (mode : Nat) (content : List UInt8) : Sight → Change
  | .entry l (.file old _) =>
    if ownerMayWrite old then .ok (fs.put l (.file old content)) else .error .accessDenied
  | .entry _ .dir => .error .isDirectory
  | .entry _ (.link _) => .error .linkLoop
  | .absent l => .ok (fs.put l (.file mode content))
  | .failed cause => .error cause

/-- Removes the file or link at a path. -/
def unlink (fs : FileSystem) (cwd : Location) (p : Path) : Change :=
  match fs.find cwd false p with
  | .entry _ .dir => .error .isDirectory
  | .entry l _ => .ok (fs.erase l)
  | .absent _ => .error .noEntry
  | .failed cause => .error cause

/-- Makes a link at a path. -/
def makeLink (fs : FileSystem) (cwd : Location) (p : Path) (target : String) : Change :=
  match fs.find cwd false p with
  | .entry _ _ => .error .alreadyExists
  | .absent l => .ok (fs.put l (.link target))
  | .failed cause => .error cause

/-- Gives the mode of a file a new value, links followed. -/
def chmodAt (fs : FileSystem) (mode : Nat) : Sight → Change
  | .entry l (.file _ content) => .ok (fs.put l (.file mode content))
  | .entry _ _ => .ok fs
  | .absent _ => .error .noEntry
  | .failed cause => .error cause

/-- Sets the mode of the file at a path, links followed. -/
def chmod (fs : FileSystem) (cwd : Location) (p : Path) (mode : Nat) : Change :=
  chmodAt fs mode (fs.find cwd true p)

/-- The mode of a copy: the mode of the source. -/
def copiedMode : Sight → Nat
  | .entry _ (.file mode _) => mode
  | _ => newFileMode

/-- Copies the content and the mode of a file; the error names the path that could not be used. A copy
that fails is assumed to leave no part of a file behind. -/
def copy (fs : FileSystem) (cwd : Location) (source target : Path) :
    Except FileError FileSystem :=
  let origin := fs.find cwd true source
  match contentAt origin with
  | .error cause => .error (.onPath cause source.toString)
  | .ok content =>
    let place := fs.find cwd true target
    match writeAt fs newFileMode content place with
    | .error cause => .error (.onPath cause target.toString)
    | .ok written =>
      match chmodAt written (copiedMode origin) (written.find cwd true target) with
      | .error cause => .error (.onPath cause target.toString)
      | .ok done => .ok done

/-- Removes the directory at a path with all that is in it; links in it are removed and not
followed. -/
def removeTree (fs : FileSystem) (cwd : Location) (p : Path) : Except FileError FileSystem :=
  match fs.find cwd false p with
  | .entry l .dir => .ok (fs.eraseTree l)
  | .entry _ (.file mode _) =>
    if ownerMayRead mode then .error (.system .notDirectory (.typedPath p.toString))
    else .error (.onPath .accessDenied p.toString)
  | .entry _ (.link _) =>
    match contentAt (fs.find cwd true p) with
    | .ok _ | .error .isDirectory => .error .linkedTree
    | .error cause => .error (.onPath cause p.toString)
  | .absent _ => .error (.onPath .noEntry p.toString)
  | .failed cause => .error (.onPath cause p.toString)

/-- What a removal of the directory at a path leaves if it fails on the way, when the entries that are
`gone` have been removed. A directory is removed after all that is in it, and the one at the path
comes last. -/
def removePart (fs : FileSystem) (cwd : Location) (p : Path) (gone : Location → Bool) : FileSystem :=
  match fs.find cwd false p with
  | .entry l .dir => fs.eraseSome l gone
  | _ => fs

/-- The directories that are missing on the way to a location are made; whatever else stands in
the way is an error. `above` is the part of the way that is done. -/
def makeDirectories (fs : FileSystem) (above : Location) : List String → Change
  | [] => .ok fs
  | name :: rest =>
    let next := above ++ [name]
    match fs.get? next with
    | some .dir => makeDirectories fs next rest
    | some _ => .error .notDirectory
    | none => makeDirectories (fs.put next .dir) next rest

end BuildPilot.FileSystem
