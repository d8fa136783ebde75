import BuildPilot.Text.Split

/-!
# Paths

A path is an anchor and a list of components. Reading a path drops empty components and single
dots and keeps double dots; exactly two leading slashes are an anchor of their own. Joining an
absolute path replaces what stands before it.
-/

namespace BuildPilot

open Text

/-- Where a path starts. -/
inductive Anchor where
  /-- At the working directory. -/
  | here
  /-- At the root. -/
  | root
  /-- At the root, written with two slashes. -/
  | doubleRoot
deriving DecidableEq, Repr

/-- The text of an anchor. -/
def Anchor.text : Anchor → String
  | here => ""
  | root => "/"
  | doubleRoot => "//"

/-- A path: its anchor and its components, none of which is empty, a single dot, or holds a
slash. -/
structure Path where
  anchor : Anchor
  parts : List String
deriving DecidableEq, Repr

namespace Path

/-- The anchor of a path text. -/
def anchorOf : List Char → Anchor
  | '/' :: '/' :: '/' :: _ => .root
  | '/' :: '/' :: _ => .doubleRoot
  | '/' :: _ => .root
  | _ => .here

/-- The components of a path text. -/
def partsOf (s : List Char) : List String :=
  ((splitAtEach '/' s).filter fun p => p ≠ [] && p ≠ ['.']).map String.ofList

/-- Reads a path. -/
def ofString (s : String) : Path := ⟨anchorOf s.toList, partsOf s.toList⟩

/-- The text of a path; the path without anchor and components is a single dot. -/
def toString (p : Path) : String :=
  let s := p.anchor.text ++ "/".intercalate p.parts
  if s.isEmpty then "." else s

instance : ToString Path := ⟨toString⟩

/-- Whether a path does not depend on the working directory. -/
def isAbsolute (p : Path) : Bool := p.anchor != .here

/-- The path `q` seen from `p`. -/
def join (p q : Path) : Path := if q.isAbsolute then q else ⟨p.anchor, p.parts ++ q.parts⟩

instance : Div Path := ⟨join⟩

/-- The path with one more component. -/
def child (p : Path) (name : String) : Path := ⟨p.anchor, p.parts ++ [name]⟩

/-- The last component, or the empty text. -/
def name (p : Path) : String := p.parts.getLast?.getD ""

/-- The path without its last component. -/
def parent (p : Path) : Path := ⟨p.anchor, p.parts.dropLast⟩

/-- The part of a name from its last dot on, unless that dot is the first or the last
character. -/
def suffixOf (name : List Char) : List Char :=
  let tail := name.reverse.takeWhile (· != '.')
  if tail.length + 1 < name.length && !tail.isEmpty then '.' :: tail.reverse else []

/-- The suffix of the last component. -/
def suffix (p : Path) : String := String.ofList (suffixOf p.name.toList)

/-- Whether `q` is `p` or one of its ancestors. -/
def isWithin (p q : Path) : Bool := p.anchor == q.anchor && q.parts.isPrefixOf p.parts

end Path

end BuildPilot
