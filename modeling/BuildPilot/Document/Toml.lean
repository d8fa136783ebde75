import BuildPilot.Document.Toml.Scalar
import BuildPilot.Document.Toml.Table
import BuildPilot.Text.Newline

/-!
# Documents of tables

A document is a row of statements, one a line: headers of tables and of arrays of tables, and
entries. A name is bound once, a table has one header, and arrays and tables that are written as one
value cannot grow later. Such arrays and tables may not be nested too deep.
-/

namespace BuildPilot.Document.Toml

/-- Whether a value is an array or a table. -/
def isContainer : Value → Bool
  | .list _ => true
  | .map _ => true
  | _ => false

/-- The room for arrays and tables inside each other. -/
def maxRoom : Nat := 988

/-- What an array needs and what it takes up of the room. -/
def arrayRoom : Nat × Nat := (3, 2)

/-- What a table in braces needs and what it takes up of the room. -/
def tableRoom : Nat × Nat := (5, 3)

/-- The room inside a collection. -/
def inside (room : Nat) (size : Nat × Nat) : Reader Nat :=
  if room < size.1 then throw (.tooDeep none) else return room - size.2

mutual

/-- Takes a value; `bound` limits the depth and the length of what is read, and `room` the arrays
and tables inside each other. -/
def value : (bound : Nat) → (room : Nat) → Reader Value
  | 0, _ => fail
  | bound + 1, room => do
    match ← anyText? with
    | some s => return .text s
    | none =>
      if ← Reader.skip "[" then return .list (← elements bound (← inside room arrayRoom))
      else if ← Reader.skip "\x7b" then
        let room ← inside room tableRoom
        skipSpace
        if ← Reader.skip "\x7d" then return .map []
        else return .map (← fields bound room [] .empty)
      else scalar

/-- Takes the elements of an array and its closing bracket; the last comma may be left over. -/
def elements : (bound : Nat) → (room : Nat) → Reader (List Value)
  | 0, _ => fail
  | bound + 1, room => do
    skipFill bound
    if ← Reader.skip "]" then return []
    let v ← value bound room
    skipFill bound
    if ← Reader.skip "," then return v :: (← elements bound room)
    else if ← Reader.skip "]" then return [v]
    else fail

/-- Takes the entries of a table in braces and its closing brace, behind those in `es`. -/
def fields : (bound : Nat) → (room : Nat) → Entries → Declared → Reader Entries
  | 0, _, _, _ => fail
  | bound + 1, room, es, declared => do
    let (k, v) ← pair bound room
    if declared.isClosed k then fail
    match addAt? k v es with
    | none => fail
    | some es =>
      skipSpace
      if ← Reader.skip "\x7d" then return es
      else if ← Reader.skip "," then
        skipSpace
        fields bound room es (if isContainer v then declared.close k else declared)
      else fail

/-- Takes a key, an equals sign and a value. -/
def pair : (bound : Nat) → (room : Nat) → Reader (Key × Value)
  | 0, _ => fail
  | bound + 1, room => do
    let k ← key bound
    if !(← Reader.skip "=") then fail
    skipSpace
    return (k, ← value bound room)

end

/-- The document behind the statements read so far. -/
structure Draft where
  entries : Entries
  declared : Declared
  /-- The key of the table that entries go to. -/
  current : Key

/-- The start of a document. -/
def Draft.empty : Draft := ⟨[], .empty, []⟩

/-- A header of a table, if it may stand here. -/
def Draft.openTable? (d : Draft) (k : Key) : Option Draft := do
  let declared := d.declared.settle
  if declared.isHeaded k || declared.isClosed k then none
  let es ← editAt? some k d.entries
  return ⟨es, declared.head k, k⟩

/-- A header of an array of tables, if it may stand here. -/
def Draft.openArray? (d : Draft) (k : Key) : Option Draft := do
  let declared := d.declared.settle
  if declared.isClosed k then none
  let name ← k.getLast?
  let es ← editAt? (addTable? name) k.dropLast d.entries
  return ⟨es, (declared.forget k).head k, k⟩

/-- The tables that a dotted key makes on its way, below the table `base`. -/
def tablesOnWay (base k : Key) : List Key :=
  (List.range k.length).tail.map fun n => base ++ k.take n

/-- An entry of the current table, if it may stand here. -/
def Draft.bind? (d : Draft) (k : Key) (v : Value) : Option Draft := do
  let way := tablesOnWay d.current k
  if way.any d.declared.isHeaded || d.declared.isClosed (d.current ++ k.dropLast) then none
  let es ← addAt? (d.current ++ k) v d.entries
  let declared := d.declared.dot way
  return { d with
    entries := es
    declared := if isContainer v then declared.close (d.current ++ k) else declared }

/-- A failure where nothing may stand. -/
def expect {α : Type} : Option α → Reader α
  | some a => return a
  | none => fail

/-- Takes a statement without the end of its line. -/
def statement (bound : Nat) (d : Draft) : Reader Draft := do
  skipSpace
  match ← Reader.peek? with
  | none => return d
  | some '\n' => return d
  | some '#' => return d
  | some '[' =>
    Reader.drop
    let isArray ← Reader.skip "["
    skipSpace
    let k ← key bound
    let d ← expect (if isArray then d.openArray? k else d.openTable? k)
    if ← Reader.skip (if isArray then "]]" else "]") then return d else fail
  | some _ =>
    let (k, v) ← pair bound maxRoom
    expect (d.bind? k v)

/-- Takes statements to the end of the document. -/
def statements (bound : Nat) : (lines : Nat) → Draft → Reader Draft
  | 0, d => return d
  | lines + 1, d => do
    let d ← statement bound d
    skipSpace
    skipComment
    match ← Reader.next? with
    | none => return d
    | some '\n' => statements bound lines d
    | some _ => fail

/-- The value of a document of tables. -/
def read (s : List Char) : Except ReadError Value := do
  let s := Text.unifyPairs s
  let (d, _) ← (statements (2 * s.length + 2) (s.length + 1) .empty).run s
  return .map d.entries

end BuildPilot.Document.Toml
