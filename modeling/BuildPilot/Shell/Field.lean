import BuildPilot.FileSystem.NamePattern
import BuildPilot.FileSystem.Walk
import BuildPilot.Text.Utf8

/-!
# Fields

The expansion of a word is a row of marks: characters, of which some are quoted and some may
separate fields, and the ends of fields. The row is cut into fields, and a field that is a pattern
becomes the names of the files that match it.
-/

namespace BuildPilot.Shell

open FileSystem Text

/-- A mark of an expanded word. -/
inductive Mark where
  /-- A character; an unquoted one that came from a value may separate fields. -/
  | char (c : Char) (quoted splits : Bool)
  /-- A field ends here. -/
  | gap
  /-- The field is there even if it is empty. -/
  | quotes
deriving DecidableEq, Repr

/-- The characters of a field, each with whether it is quoted. -/
abbrev Field := List (Char × Bool)

/-- The marks of a text. -/
def marksOf (quoted splits : Bool) (s : String) : List Mark :=
  s.toList.map fun c => .char c quoted splits

/-- The marks of a text that is a field of its own: quoted, it is one even if it is empty. -/
def marksOfArgument (quoted : Bool) (s : String) : List Mark :=
  (if quoted then [.quotes] else []) ++ marksOf quoted (!quoted) s

/-- The marks of a row of texts, each of which is a field of its own. -/
def marksOfRow (quoted : Bool) : List String → List Mark
  | [] => []
  | [s] => marksOfArgument quoted s
  | s :: ss => marksOfArgument quoted s ++ .gap :: marksOfRow quoted ss

/-- The characters of marks, for a word that is not cut into fields; the first separator stands
between the fields. -/
def charsOf (separators : String) : List Mark → Field
  | [] => []
  | .char c quoted _ :: ms => (c, quoted) :: charsOf separators ms
  | .gap :: ms => (separators.toList.take 1).map (fun c => (c, true)) ++ charsOf separators ms
  | .quotes :: ms => charsOf separators ms

/-- The text of a field. -/
def Field.text (f : Field) : String := String.ofList (f.map (·.1))

/-- A cut of marks into fields that is under way: the field at hand, last character first, and
whether the field before it ended at a blank that a separator may still follow. -/
structure Cut where
  field : Option Field
  afterBlank : Bool

/-- The field at hand, if there is one. -/
def Cut.done (c : Cut) : List Field := match c.field with
  | some f => [f.reverse]
  | none => []

/-- Cuts marks into fields at the separators. -/
def fieldsFrom (separators : List Char) (cut : Cut) : List Mark → List Field
  | [] => cut.done
  | .gap :: ms => cut.done ++ fieldsFrom separators ⟨none, false⟩ ms
  | .quotes :: ms => fieldsFrom separators ⟨some (cut.field.getD []), false⟩ ms
  | .char c quoted splits :: ms =>
    if quoted || !splits || !separators.contains c then
      fieldsFrom separators ⟨some ((c, quoted) :: cut.field.getD []), false⟩ ms
    else if c == ' ' || c == '\t' || c == '\n' then
      cut.done ++ fieldsFrom separators ⟨none, cut.afterBlank || cut.field.isSome⟩ ms
    else match cut.field with
      | some f => f.reverse :: fieldsFrom separators ⟨none, false⟩ ms
      | none =>
        (if cut.afterBlank then [] else [[]]) ++ fieldsFrom separators ⟨none, false⟩ ms

/-- The fields of marks. -/
def fieldsOf (separators : String) (ms : List Mark) : List Field :=
  fieldsFrom separators.toList ⟨none, false⟩ ms

/-! ## Patterns -/

/-- The text of the pattern that a field is; quoted characters stand for themselves. -/
def Field.pattern (f : Field) : String :=
  String.ofList (f.flatMap fun (c, quoted) =>
    if quoted && (c == '*' || c == '?' || c == '[') then ['[', c, ']'] else [c])

/-- Whether a field is a pattern. -/
def Field.isPattern (f : Field) : Bool :=
  f.any fun (c, quoted) => !quoted && (c == '*' || c == '?' || c == '[')

/-- The components of a field. -/
def Field.components : Field → List Field
  | [] => [[]]
  | (c, quoted) :: f =>
    match Field.components f with
    | [] => [[(c, quoted)]]
    | p :: ps => if c == '/' then [] :: p :: ps else ((c, quoted) :: p) :: ps

/-- A text with each of its octets as a character, since patterns know octets only. -/
def octetText (octets : List UInt8) : String :=
  String.ofList (octets.map fun b => Char.ofNat b.toNat)

/-- Whether octets match a pattern. -/
def matchesOctets (pattern : String) (octets : List UInt8) : Bool :=
  nameMatches (octetText (encode pattern)) (octetText octets)

/-- Whether a text matches a pattern. -/
def matchesText (pattern s : String) : Bool := matchesOctets pattern (encode s)

/-- The names in the directory at a path text, in order. -/
def namesAt (fs : FileSystem) (cwd : Location) (dir : String) : List String :=
  match fs.findText cwd true (if dir.isEmpty then "." else dir) with
  | .entry loc .dir => (fs.namesIn loc).mergeSort fun a b => a ≤ b
  | _ => []

/-- Whether anything is at a path text. -/
def isThere (fs : FileSystem) (cwd : Location) (path : String) : Bool :=
  match fs.findText cwd false path with
  | .entry _ _ => true
  | _ => false

/-- The paths that match components behind the start of a path. -/
def pathsFrom (fs : FileSystem) (cwd : Location) (start : String) : List Field → List String
  | [] => if isThere fs cwd start then [start] else []
  | f :: rest =>
    let slash := if rest.isEmpty then "" else "/"
    if f.isPattern then
      let hidden := (f.head?.map (·.1)) == some '.'
      let names := (namesAt fs cwd start).filter fun n =>
        (hidden || n.toList.head? != some '.') && matchesText f.pattern n
      names.flatMap fun n => pathsFrom fs cwd (start ++ n ++ slash) rest
    else pathsFrom fs cwd (start ++ f.text ++ slash) rest

/-- What a field stands for: the files that match it, or itself if there are none. -/
def Field.expand (fs : FileSystem) (cwd : Location) (f : Field) : List String :=
  if f.isPattern then
    let paths := pathsFrom fs cwd "" f.components
    if paths.isEmpty then [f.text] else paths
  else [f.text]

/-- A text without the shortest or the longest part at one of its ends that matches a pattern. -/
def trimmed (pattern : String) (atEnd longest : Bool) (s : String) : String :=
  let octets := encode s
  let cuts := List.range (octets.length + 1)
  let front (n : Nat) := matchesOctets pattern (octets.take n)
  let back (n : Nat) := matchesOctets pattern (octets.drop n)
  let found := match atEnd, longest with
    | false, false => cuts.find? front
    | false, true => cuts.reverse.find? front
    | true, false => cuts.reverse.find? back
    | true, true => cuts.find? back
  match found with
  | none => s
  | some n => decode (if atEnd then octets.take n else octets.drop n)

end BuildPilot.Shell
