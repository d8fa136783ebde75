import BuildPilot.FileSystem.NamePattern
import BuildPilot.FileSystem.RealPath

/-!
# Searching a tree

A search starts at a directory and looks for paths that match a pattern anywhere below it. The
pattern is a relative path; each component is a name, a name pattern, `..`, or `**` for any depth.
Linked directories are not descended into on the way down.
-/

namespace BuildPilot.FileSystem

open Text

/-- What is at a path, links followed: a failed look that only means that nothing is there gives
no entry. -/
def status (fs : FileSystem) (cwd : Location) (p : Path) :
    Except FileError (Option (Location × Entry)) :=
  if hasNul p then .ok none
  else match fs.find cwd true p with
    | .entry l e => .ok (some (l, e))
    | .absent _ => .ok none
    | .failed cause =>
      if cause.meansAbsent then .ok none else .error (.onPath cause p.toString)

/-- The directory at a path, if there is one. -/
def directoryAt (fs : FileSystem) (cwd : Location) (p : Path) :
    Except FileError (Option Location) := do
  match ← fs.status cwd p with
  | some (l, .dir) => return some l
  | _ => return none

/-- One component of a search pattern. -/
inductive Selector where
  /-- A fixed name. -/
  | name (n : String)
  /-- Any name that matches a pattern. -/
  | wild (pattern : String)
  /-- The directory above. -/
  | parent
  /-- The directory itself and the directories at any depth below it. -/
  | anyDepth
  /-- Nothing more: what stands before it must be a directory. -/
  | here
deriving DecidableEq, Repr

/-- Why a pattern cannot be searched for. -/
inductive PatternFault where
  /-- The pattern is an absolute path. -/
  | notRelative
  /-- Two stars are only a part of a component. -/
  | strayStars
deriving DecidableEq, Repr

/-- The text of a fault. -/
def PatternFault.message : PatternFault → String
  | notRelative => "Non-relative patterns are unsupported"
  | strayStars => "Invalid pattern: '**' can only be an entire path component"

/-- Whether two stars stand side by side. -/
def hasDoubleStar : List Char → Bool
  | '*' :: '*' :: _ => true
  | _ :: s => hasDoubleStar s
  | [] => false

/-- The selector of one component. -/
def Selector.ofPart (part : String) : Except PatternFault Selector :=
  if part == "**" then .ok .anyDepth
  else if part == ".." then .ok .parent
  else if hasDoubleStar part.toList then .error .strayStars
  else if isWild part then .ok (.wild part)
  else .ok (.name part)

/-- The selectors of a pattern that is searched for at any depth. -/
def selectorsOf (pattern : String) : Except PatternFault (List Selector) := do
  let p := Path.ofString pattern
  if p.isAbsolute then throw .notRelative
  let parts ← p.parts.mapM Selector.ofPart
  let last := if pattern.toList.getLast? = some '/' then [.here] else []
  return .anyDepth :: parts ++ last

/-- Whether every location from `top` down to `l` is a directory. -/
def connected (fs : FileSystem) (top l : Location) : Bool :=
  (List.range (l.length + 1)).all fun n => n ≤ top.length || fs.get? (l.take n) == some .dir

/-- The directories below a directory, without those that are reached through links. -/
def directoriesBelow (fs : FileSystem) (top : Location) : List Location :=
  (fs.below top).filter (fs.connected top)

/-- The paths that the selectors lead to from a path. -/
def select (fs : FileSystem) (cwd : Location) :
    List Selector → Path → Except FileError (List Path)
  | [], p => .ok [p]
  | .here :: _, p => .ok [p]
  | .parent :: ss, p => select fs cwd ss (p.child "..")
  | .name n :: ss, p => do
    let there ← match ← fs.status cwd (p.child n) with
      | some (_, e) => pure (ss.isEmpty || e.isDir)
      | none => pure false
    if there then select fs cwd ss (p.child n) else return []
  | .wild pattern :: ss, p => do
    match ← fs.directoryAt cwd p with
    | none => return []
    | some l =>
      let names := (fs.namesIn l).filter (nameMatches pattern)
      let found ← names.mapM fun n => do
        let there ← if ss.isEmpty then pure true
          else pure (← fs.directoryAt cwd (p.child n)).isSome
        if there then select fs cwd ss (p.child n) else return []
      return found.flatten
  | .anyDepth :: ss, p => do
    match ← fs.directoryAt cwd p with
    | none => return []
    | some l =>
      let below := (fs.directoriesBelow l).map fun d =>
        (⟨p.anchor, p.parts ++ d.drop l.length⟩ : Path)
      let found ← (p :: below).mapM (select fs cwd ss)
      return found.flatten.eraseDups

/-- The order of found paths: component by component. -/
def pathOrder (p q : Path) : Bool := !q.parts.lex p.parts fun a b => a < b

/-- The paths below a directory that match a pattern, in order. -/
def search (fs : FileSystem) (cwd : Location) (ss : List Selector) (dir : Path) :
    Except FileError (List Path) := do
  match ← fs.directoryAt cwd dir with
  | none => return []
  | some _ => return (← fs.select cwd ss dir).mergeSort pathOrder

end BuildPilot.FileSystem
