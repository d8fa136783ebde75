import BuildPilot.FileSystem.Walk

/-!
# Resolving paths

The real path of a path is absolute, without dots and without symbolic links. Components that do
not exist are kept as they are. A path that leads into a loop of links has no real path.

Links are resolved one by one along the way. A link that was resolved before is taken from memory;
a link that is met again while it is being resolved ends the search, and what is left of the path
is joined to it unresolved. What is left may start with slashes of its own; it then is an absolute
path, and replaces what stands before it.

A link is looked at under the spelling of the trail to it. Where that is too long there is no link to
be seen, though there may be one under a shorter spelling.
-/

namespace BuildPilot.FileSystem

open Text

/-- The part of a path that is resolved already. A relative one starts at the working directory
and may climb above it by leading double dots. -/
structure Trail where
  anchor : Anchor
  parts : List String
deriving DecidableEq, Repr

namespace Trail

/-- The trail with one more name. -/
def child (t : Trail) (name : String) : Trail := { t with parts := t.parts ++ [name] }

/-- The trail one level up. -/
def up (t : Trail) : Trail :=
  match t.parts.getLast? with
  | none => if t.anchor = .here then t.child ".." else t
  | some last => if last == ".." then t.child ".." else { t with parts := t.parts.dropLast }

/-- The trail joined with the components of a text that stays unresolved. -/
def append (t : Trail) (rest : List String) : Trail :=
  match Path.anchorOf ("/".intercalate rest).toList with
  | .here => { t with parts := t.parts ++ rest }
  | anchor => ⟨anchor, rest⟩

/-- The path that is spelled like a trail. -/
def path (t : Trail) : Path := ⟨t.anchor, t.parts⟩

/-- Where the search for a trail starts. -/
def base (t : Trail) (cwd : Location) : Location := if t.anchor = .here then cwd else []

end Trail

/-- Removes dots and empty components: each double dot cancels the component before it. -/
def normalize (parts : List String) : Location :=
  parts.foldl (fun loc name =>
    if name == "" || name == "." then loc
    else if name == ".." then loc.dropLast
    else loc ++ [name]) []

/-- The links met so far; one that is still being resolved has no trail yet. -/
abbrev Seen := List (Trail × Option Trail)

/-- A search for the real path: the trail, whether it is resolved to its end, and the links met. -/
structure Search where
  trail : Trail
  resolved : Bool
  seen : Seen
deriving DecidableEq

/-- The text of the link that a sight shows. -/
def Sight.link? : Sight → Option String
  | entry _ (.link target) => some target
  | _ => none

/-- The text of the link at a trail, if one is seen there. -/
def linkAt? (fs : FileSystem) (cwd : Location) (t : Trail) : Option String :=
  (fs.find cwd false t.path).link?

/-- Resolves components behind a trail; `link?` gives the text of the link at a trail, and `inner`
resolves such a text. -/
def resolveWith (link? : Trail → Option String) (inner : Trail → String → Seen → Search) :
    Trail → List String → Seen → Search
  | t, [], seen => ⟨t, true, seen⟩
  | t, name :: rest, seen =>
    if name.isEmpty || name == "." then resolveWith link? inner t rest seen
    else if name == ".." then resolveWith link? inner t.up rest seen
    else
      let next := t.child name
      match link? next with
      | none => resolveWith link? inner next rest seen
      | some target =>
        match seen.lookup next with
        | some (some known) => resolveWith link? inner known rest seen
        | some none => ⟨next.append rest, false, seen⟩
        | none =>
          let found := inner t target ((next, none) :: seen)
          if found.resolved then
            resolveWith link? inner found.trail rest ((next, some found.trail) :: found.seen)
          else ⟨found.trail.append rest, false, found.seen⟩

/-- Resolves the text of a path behind a trail, with links nested at most `depth` deep. -/
def resolveText (link? : Trail → Option String) : (depth : Nat) → Trail → String → Seen → Search
  | 0, t, s, seen => ⟨t.append (pieces '/' s), false, seen⟩
  | depth + 1, t, s, seen =>
    resolveWith link? (resolveText link? depth) (if isAbsoluteText s then ⟨.root, []⟩ else t)
      (pieces '/' s) seen

/-- The number of links in a file system. -/
def linkCount (fs : FileSystem) : Nat :=
  fs.table.countP fun p => match p.2 with
    | .link _ => true
    | _ => false

/-- A depth that no search goes beyond. A link is spelled in one way from the root, and in one way for
each number of double dots that a spelling from the working directory begins with; these make it too
long to be looked at before there are as many spellings as octets in a path. -/
def searchDepth (fs : FileSystem) : Nat := maxPathOctets * fs.linkCount + 1

/-- The search for the real path of a path. -/
def searchReal (fs : FileSystem) (link? : Trail → Option String) (p : Path) : Search :=
  resolveText link? fs.searchDepth ⟨.here, []⟩ p.toString []

/-- The path that a path leads to when its links are resolved as far as they can be. -/
def resolved (fs : FileSystem) (cwd : Location) (p : Path) : Path :=
  let t := (fs.searchReal (fs.linkAt? cwd) p).trail
  ⟨if t.anchor = .here then .root else t.anchor, normalize (t.base cwd ++ t.parts)⟩

/-- Why a path has no real path. -/
inductive PathFault where
  /-- The path holds a NUL character. -/
  | nul
  /-- The path leads into a loop of links; the text is the path as far as it was resolved. -/
  | loop (path : String)
deriving DecidableEq, Repr

/-- The text of a fault. -/
def PathFault.message : PathFault → String
  | nul => "embedded null byte"
  | loop p => "Symlink loop from " ++ quoted p

/-- Whether a path holds a NUL character. -/
def hasNul (p : Path) : Bool := p.parts.any fun n => n.toList.contains '\x00'

/-- The real path of a path. -/
def realPath (fs : FileSystem) (cwd : Location) (p : Path) : Except PathFault Path :=
  if hasNul p then .error .nul
  else
    let real := resolved fs cwd p
    match fs.find cwd true real with
    | .failed .linkLoop => .error (.loop real.toString)
    | _ => .ok real

end BuildPilot.FileSystem
