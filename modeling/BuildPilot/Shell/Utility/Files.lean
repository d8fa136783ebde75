import BuildPilot.FileSystem.Provision
import BuildPilot.Shell.Utility.Basic

/-!
# Programs that work on files

They make, copy, move, link, remove and list files and directories, change their modes, and take
paths apart.
-/

namespace BuildPilot.Shell

open FileSystem Text

namespace Utility

/-- Makes a directory; with `parents`, also those on the way, and none that is there. -/
def makeDirectory (parents : Bool) (path : String) : Run Unit := do
  let s ← get
  let complaint (cause : ErrorCause) := s!"cannot create directory '{path}': {cause.text}"
  if parents then
    let above : Location := if isAbsoluteText path then [] else s.cwd
    match s.world.files.enterAll above ((pieces '/' path).filter (!·.isEmpty)) with
    | .ok (files, _) => modify fun s => { s with world := { s.world with files := files } }
    | .error cause =>
      let cause := if cause == .notDirectory && (← Run.sight true path) matches .entry _ _ then
        .alreadyExists else cause
      fail "mkdir" (complaint cause)
  else match ← Run.sight false path with
    | .absent loc => let _ ← Run.change fun fs => .ok (fs.put loc .dir)
    | .entry _ _ => fail "mkdir" (complaint .alreadyExists)
    | .failed cause => fail "mkdir" (complaint cause)

/-- Removes what is at a path. -/
def remove (recursive force : Bool) (path : String) : Run Unit := do
  let complaint (cause : ErrorCause) := s!"cannot remove '{path}': {cause.text}"
  match ← Run.sight false path with
  | .entry loc .dir =>
    if recursive then let _ ← Run.change fun fs => .ok (fs.eraseTree loc)
    else fail "rm" (complaint .isDirectory)
  | .entry loc _ => let _ ← Run.change fun fs => .ok (fs.erase loc)
  | .absent _ => if !force then fail "rm" (complaint .noEntry)
  | .failed cause => if !(force && cause.meansAbsent) then fail "rm" (complaint cause)

/-- Removes an empty directory. -/
def removeDirectory (path : String) : Run Unit := do
  let complaint (cause : ErrorCause) := s!"failed to remove '{path}': {cause.text}"
  let s ← get
  match ← Run.sight false path with
  | .entry loc .dir =>
    if (s.world.files.below loc).isEmpty then let _ ← Run.change fun fs => .ok (fs.erase loc)
    else fail "rmdir" (complaint .notEmpty)
  | .entry _ _ => fail "rmdir" (complaint .notDirectory)
  | .absent _ => fail "rmdir" (complaint .noEntry)
  | .failed cause => fail "rmdir" (complaint cause)

/-- Makes a file if there is none. -/
def touch (path : String) : Run Unit := do
  match ← Run.sight true path with
  | .absent loc => let _ ← Run.change fun fs => .ok (fs.put loc (.file newFileMode []))
  | .entry _ _ => return ()
  | .failed cause => fail "touch" s!"cannot touch '{path}': {cause.text}"

/-- The files with what is at and below a location also at another one. -/
def copyTree (fs : FileSystem) (source target : Location) : FileSystem :=
  (source :: fs.below source).foldl (fun acc l =>
    match fs.get? l with
    | some e => acc.put (target ++ l.drop source.length) e
    | none => acc) fs

/-- Where a file that is copied or moved goes: to a path, or under its own name into a directory. -/
def destination (source target : String) : Run Sight := do
  match ← Run.sight true target with
  | .entry _ .dir => Run.sight false (target ++ "/" ++ (Path.ofString source).name)
  | sight => return sight

/-- Copies or moves a file to a target. -/
def transfer (program : String) (moves recursive : Bool) (target source : String) : Run Unit := do
  let s ← get
  match ← Run.sight (!moves && !recursive) source with
  | .entry loc e =>
    if e.isDir && !moves && !recursive then
      fail program s!"-r not specified; omitting directory '{source}'"
    else match (← destination source target).location? with
      | none => fail program s!"cannot create regular file '{target}': {ErrorCause.noEntry.text}"
      | some place =>
        let copied := match e, s.world.files.get? place with
          | .file _ content, some (.file mode _) =>
            if moves then copyTree s.world.files loc place
            else s.world.files.put place (.file mode content)
          | _, _ => copyTree s.world.files loc place
        let files := if moves && loc != place then copied.eraseTree loc else copied
        modify fun s => { s with world := { s.world with files := files } }
  | .absent _ => fail program s!"cannot stat '{source}': {ErrorCause.noEntry.text}"
  | .failed cause => fail program s!"cannot stat '{source}': {cause.text}"

/-- Copies or moves files. -/
def transferAll (program : String) (moves recursive : Bool) (paths : List String) : Run Unit := do
  Run.setStatus 0
  let advice := s!"\nTry '{program} --help' for more information."
  match paths.getLast? with
  | none => fail program ("missing file operand" ++ advice)
  | some target =>
    if paths.length = 1 then
      fail program (s!"missing destination file operand after '{target}'" ++ advice)
    else paths.dropLast.forM (transfer program moves recursive target)

/-- Makes a link. -/
def link (force symbolic : Bool) (target path : String) : Run Unit := do
  let s ← get
  match (← destination target path).location? with
  | none => fail "ln" s!"failed to create symbolic link '{path}': {ErrorCause.noEntry.text}"
  | some loc =>
    let found? := if symbolic then some (Entry.link target)
      else match s.world.files.findText s.cwd true target with
        | .entry _ e => some e
        | _ => none
    match found?, s.world.files.get? loc with
    | none, _ => fail "ln" s!"failed to access '{target}': {ErrorCause.noEntry.text}"
    | some e, taken =>
      if taken.isSome && !force then
        fail "ln" s!"failed to create symbolic link '{path}': {ErrorCause.alreadyExists.text}"
      else let _ ← Run.change fun fs => .ok (fs.put loc e)

/-- The bits that letters of a mode stand for. -/
def modeBits (letters : List Char) : Nat :=
  (if letters.contains 'r' then 4 else 0) + (if letters.contains 'w' then 2 else 0)
    + if letters.contains 'x' then 1 else 0

/-- A mode after a change that is given in octal digits or by letters. -/
def changedMode (text : String) (mode : Nat) : Nat :=
  if text.toList.all Char.isDigit then
    Numeric.ofDigits 8 0 (text.toList.filterMap asciiDigit?)
  else
    (pieces ',' text).foldl (fun mode clause =>
      let who := clause.toList.takeWhile fun c => "ugoa".toList.contains c
      let rest := clause.toList.drop who.length
      let all := who.isEmpty || who.contains 'a'
      let bits := modeBits (rest.drop 1)
      let times := (if all || who.contains 'u' then 64 else 0)
        + (if all || who.contains 'g' then 8 else 0) + if all || who.contains 'o' then 1 else 0
      match rest.head? with
      | some '+' => mode ||| bits * times
      | some '-' => mode &&& (0o7777 ^^^ bits * times)
      | _ => (mode &&& (0o7777 ^^^ 7 * times)) ||| bits * times) mode

/-- Changes the mode of a file. -/
def chmod (mode : String) (path : String) : Run Unit := do
  let complaint (cause : ErrorCause) := s!"cannot access '{path}': {cause.text}"
  match ← Run.sight true path with
  | .entry loc (.file old content) =>
    let _ ← Run.change fun fs => .ok (fs.put loc (.file (changedMode mode old) content))
  | .entry _ _ => return ()
  | .absent _ => fail "chmod" (complaint .noEntry)
  | .failed cause => fail "chmod" (complaint cause)

/-- Lists files and directories. -/
def ls (args : List String) : Run Unit := do
  let (os, paths) := split "" args
  let paths := if paths.isEmpty then ["."] else paths.mergeSort fun a b => a ≤ b
  Run.setStatus 0
  let s ← get
  let shown (n : String) := given os "aA" || n.toList.head? != some '.'
  let seen := paths.map fun p => (p, s.world.files.findText s.cwd true p)
  let mut dirs : List (String × Location) := []
  let mut others : List String := []
  for (p, sight) in seen do
    match sight with
    | .entry loc .dir =>
      if given os "d" then others := others ++ [p] else dirs := dirs ++ [(p, loc)]
    | .entry _ _ => others := others ++ [p]
    | _ =>
      Run.mutter s!"ls: cannot access '{p}': {ErrorCause.noEntry.text}\n"
      Run.setStatus 2
  others.forM fun p => Run.say (p ++ "\n")
  let mut first := others.isEmpty
  for (p, loc) in dirs do
    if !first then Run.say "\n"
    first := false
    if 1 < paths.length then Run.say (p ++ ":\n")
    let names := ((s.world.files.namesIn loc).filter shown).mergeSort fun a b => a ≤ b
    let names := (if given os "a" then [".", ".."] else []) ++ names
    names.forM fun n => Run.say (n ++ "\n")

/-- A path without its directory, and without an ending. -/
def basename (args : List String) : String :=
  let path := args.headD ""
  let names := (pieces '/' path).filter (!·.isEmpty)
  let name := names.getLast?.getD (if path.startsWith "/" then "/" else "")
  let ending := (args.drop 1).headD ""
  if name != ending && name.endsWith ending then (name.dropEnd ending.length).toString else name

/-- The directory of a path. -/
def dirname (path : String) : String :=
  let names := (pieces '/' path).filter (!·.isEmpty)
  let front := if path.startsWith "/" then "/" else ""
  if names.length ≤ 1 then (if front.isEmpty then "." else front)
  else front ++ "/".intercalate names.dropLast

/-- Prints the target of a link. -/
def readlink (path : String) : Run Unit := do
  match ← Run.sight false path with
  | .entry _ (.link target) =>
    Run.say (target ++ "\n")
    Run.setStatus 0
  | _ => Run.setStatus 1

end Utility

end BuildPilot.Shell
