import BuildPilot.FileSystem.Basic
import BuildPilot.FileSystem.Error
import BuildPilot.Path

/-!
# Finding entries by path

A path is walked component by component from the root or the working directory. A symbolic link on
the way is followed by walking its text in place of it; one at the end is followed on demand. At
most forty links are followed.
-/

namespace BuildPilot.FileSystem

open Text

/-- What a walk comes to. -/
inductive Sight where
  /-- An entry, and where it is. -/
  | entry (loc : Location) (e : Entry)
  /-- A free name in a directory. -/
  | absent (loc : Location)
  /-- Neither. -/
  | failed (cause : ErrorCause)
deriving DecidableEq, Repr

/-- The location that a walk comes to, taken or free. -/
def Sight.location? : Sight → Option Location
  | entry loc _ => some loc
  | absent loc => some loc
  | failed _ => none

/-- The greatest number of octets in a name. -/
def maxNameOctets : Nat := 255

/-- The number of octets from which on a path is too long. -/
def maxPathOctets : Nat := 4096

/-- The greatest number of links that a walk follows. -/
def maxLinks : Nat := 40

/-- The components of the text of a link; one that ends in a slash must lead to a directory. -/
def linkComponents (target : String) : List String :=
  let names := pieces '/' target
  (names.filter fun n => !n.isEmpty) ++ (if names.getLast? = some "" then ["."] else [])

/-- Whether the text of a link starts at the root. -/
def isAbsoluteText (target : String) : Bool := target.toList.head? == some '/'

/-- Walks components from a directory; `jump` goes on behind a link that is followed. -/
def walkWith (fs : FileSystem) (follow : Bool) (jump : Location → List String → Sight) :
    Location → List String → Sight
  | loc, [] => .entry loc .dir
  | loc, name :: rest =>
    if name.isEmpty || name == "." then walkWith fs follow jump loc rest
    else if name == ".." then walkWith fs follow jump loc.dropLast rest
    else if maxNameOctets < name.utf8ByteSize then .failed .nameTooLong
    else
      let next := loc ++ [name]
      match fs.get? next with
      | none => if rest.isEmpty then .absent next else .failed .noEntry
      | some .dir => walkWith fs follow jump next rest
      | some (.file mode content) =>
        if rest.isEmpty then .entry next (.file mode content) else .failed .notDirectory
      | some (.link target) =>
        if rest.isEmpty && !follow then .entry next (.link target)
        else jump (if isAbsoluteText target then [] else loc) (linkComponents target ++ rest)

/-- Walks components from a directory and follows at most `links` links. -/
def walk (fs : FileSystem) (follow : Bool) : (links : Nat) → Location → List String → Sight
  | 0 => walkWith fs follow fun _ _ => .failed .linkLoop
  | links + 1 => walkWith fs follow (walk fs follow links)

/-- What a path leads to, seen from the working directory `cwd`. -/
def find (fs : FileSystem) (cwd : Location) (follow : Bool) (p : Path) : Sight :=
  if maxPathOctets ≤ p.toString.utf8ByteSize then .failed .nameTooLong
  else walk fs follow maxLinks (if p.isAbsolute then [] else cwd) p.parts

/-- What the text of a path leads to: the empty text to nothing, and one that ends in a slash to a
directory only. -/
def findText (fs : FileSystem) (cwd : Location) (follow : Bool) (s : String) : Sight :=
  if s.isEmpty then .failed .noEntry
  else if maxPathOctets ≤ s.utf8ByteSize then .failed .nameTooLong
  else walk fs follow maxLinks (if isAbsoluteText s then [] else cwd) (linkComponents s)

end BuildPilot.FileSystem
