import BuildPilot.Document.Value

/-!
# Tables under construction

A document of tables is read from top to bottom, and each statement adds to what is there. What may
still be added is recorded as two lists of keys: tables that have had their header, and values that
are closed together with everything below them.
-/

namespace BuildPilot.Document.Toml

/-- A row of names from the outermost table inwards. -/
abbrev Key := List String

/-- The entries of a table. -/
abbrev Entries := List (Value × Value)

/-- Changes the entries of the table behind a key. Missing tables on the way are made, and of an
array of tables the last one counts; a value of another kind on the way is in the way. -/
def editAt? (edit : Entries → Option Entries) : Key → Entries → Option Entries
  | [], es => edit es
  | k :: ks, es => do
    let inner ← match Value.lookup? k es with
      | none => (editAt? edit ks []).map Value.map
      | some (.map inner) => (editAt? edit ks inner).map Value.map
      | some (.list vs) =>
        match vs.getLast? with
        | some (.map last) => (editAt? edit ks last).map fun es => .list (vs.dropLast ++ [.map es])
        | _ => none
      | some _ => none
    return Value.insertEntry (.text k) inner es

/-- Adds an entry that is not there yet. -/
def addNew? (name : String) (v : Value) (es : Entries) : Option Entries :=
  match Value.lookup? name es with
  | some _ => none
  | none => some (es ++ [(.text name, v)])

/-- Adds an empty table to an array of tables. -/
def addTable? (name : String) (es : Entries) : Option Entries :=
  match Value.lookup? name es with
  | none => some (es ++ [(.text name, .list [.map []])])
  | some (.list vs) => some (Value.insertEntry (.text name) (.list (vs ++ [.map []])) es)
  | some _ => none

/-- Adds an entry behind a key, in the table that the other names lead to. -/
def addAt? (k : Key) (v : Value) (es : Entries) : Option Entries := do
  let name ← k.getLast?
  editAt? (addNew? name v) k.dropLast es

/-- What has been declared. -/
structure Declared where
  /-- Keys of tables that may not have a header any more. -/
  headed : List Key
  /-- Keys whose values, with everything below, may not grow any more. -/
  closed : List Key
  /-- Keys of tables made by dotted keys since the last header; they become headed at the next. -/
  dotted : List Key

/-- The start of a document. -/
def Declared.empty : Declared := ⟨[], [], []⟩

/-- Whether a key leads into a closed value. -/
def Declared.isClosed (d : Declared) (k : Key) : Bool := d.closed.any (·.isPrefixOf k)

/-- Whether a table may not have a header any more. -/
def Declared.isHeaded (d : Declared) (k : Key) : Bool := d.headed.contains k

/-- Closes the value behind a key. -/
def Declared.close (d : Declared) (k : Key) : Declared := { d with closed := k :: d.closed }

/-- Records the header of a table. -/
def Declared.head (d : Declared) (k : Key) : Declared := { d with headed := k :: d.headed }

/-- Records tables that dotted keys have made. -/
def Declared.dot (d : Declared) (ks : List Key) : Declared := { d with dotted := ks ++ d.dotted }

/-- At a header the tables made by dotted keys become headed. -/
def Declared.settle (d : Declared) : Declared :=
  { d with headed := d.dotted ++ d.headed, dotted := [] }

/-- Forgets what was declared below a key: it belongs to an earlier table of the array. -/
def Declared.forget (d : Declared) (k : Key) : Declared :=
  { d with
    headed := d.headed.filter (!k.isPrefixOf ·), closed := d.closed.filter (!k.isPrefixOf ·) }

end BuildPilot.Document.Toml
