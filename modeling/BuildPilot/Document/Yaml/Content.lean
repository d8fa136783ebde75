import BuildPilot.Document.Yaml.Merge
import BuildPilot.Document.Yaml.TextValue

/-!
# What the nodes of a document mean

Each node is read once, whatever the number of places where it occurs. A collection is empty at
first and is filled later, together with all others that are as deep inside the document: so a
collection may hold itself, and of two faults the one less deep inside is reported. Keys and values
of a mapping are read in turns.
-/

namespace BuildPilot.Document.Yaml

/-- What a node means; the values inside it are given by the numbers of their nodes. -/
inductive Content where
  | scalar (v : Value)
  | list (items : List Nat)
  | pairs (entries : List (Nat × Nat))
  | set (keys : List Value)
  | map (entries : List (Value × Nat))

/-- The nodes of a document while they are read. -/
structure Reading where
  graph : Graph
  /-- What the nodes mean that are read. -/
  contents : Array (Option Content)
  /-- The collections that are not filled yet, the last one first. -/
  waiting : List Nat

/-- A step of reading nodes. -/
abbrev Interpret := StateT Reading (Except ReadError)

/-- Whether values of a type are collections. -/
def Tag.isCollection : Tag → Bool
  | .list => true
  | .orderedMap => true
  | .pairs => true
  | .set => true
  | .map => true
  | _ => false

/-- Whether values of a type are read from texts. -/
def Tag.isScalar : Tag → Bool
  | .null => true
  | .bool => true
  | .int => true
  | .float => true
  | .timestamp => true
  | .octets => true
  | .text => true
  | _ => false

namespace Interpret

/-- The node of a number. -/
def node (n : Nat) : Interpret Node := return (← get).graph.get n

/-- Notes what a node means. -/
def note (n : Nat) (c : Content) : Interpret Unit :=
  modify fun r => { r with contents := r.contents.setIfInBounds n (some c) }

/-! ## Single nodes -/

/-- The text that a node stands for, by at most `bound` nodes: its own, or that of the stand-in of a
mapping. -/
def standingTextWithin : (bound : Nat) → (n : Nat) → Interpret String
  | 0, _ => throw (.tooDeep none)
  | bound + 1, n => do
    match (← node n).shape with
    | .scalar s => return s
    | .list _ => throw malformed
    | .map es =>
      let g := (← get).graph
      match es.find? fun e => (g.get e.1).tag = .standIn with
      | some (_, v) => standingTextWithin bound v
      | none => throw malformed

/-- The text that a node stands for. One that stands for itself has none. -/
def standingText (n : Nat) : Interpret String := do
  standingTextWithin ((← get).graph.nodes.size + 1) n

/-- The value of a node whose type is read from a text. -/
def scalarValue (n : Nat) : Interpret Value := do
  let { tag, shape } ← node n
  if !tag.isScalar then throw malformed
  let text ← standingText n
  if tag = .timestamp && shape matches .map _ then throw .stampOnMapping
  textValue tag text

/-- Reads a node, if that was not done before. A collection is empty until it is filled. -/
def visit (n : Nat) : Interpret Unit := do
  let r ← get
  if (r.contents[n]?.bind id).isNone then
    if (r.graph.get n).tag.isCollection then
      note n (.list [])
      modify fun r => { r with waiting := n :: r.waiting }
    else note n (.scalar (← scalarValue n))

/-! ## Collections -/

/-- A key: its value, and for what is not a number a mark. Keys that equal nothing are one key if
they have one mark. -/
structure Key where
  value : Value
  mark : Option Nat

/-- Whether two keys are one. -/
def Key.same (a b : Key) : Bool :=
  a.value.sameKey b.value || (a.mark.isSome && a.mark == b.mark)

/-- The entries of a mapping after a key is bound: a key that is there keeps its place. -/
def insertKey {α : Type} (k : Key) (a : α) : List (Key × α) → List (Key × α)
  | [] => [(k, a)]
  | (k', a') :: es => if k'.same k then (k', a) :: es else (k', a') :: insertKey k a es

/-- The mark of a key that is not a number: nodes with the word for it share one, and any other has
a mark of its own. -/
def markOf (n : Nat) (x : Float) : Interpret (Option Nat) := do
  if !x.isNaN then return none
  let text ← standingText n
  return some (if isNoNumberWord text then 0 else n + 1)

/-- Reads a node as a key; collections are no keys. -/
def key (n : Nat) : Interpret Key := do
  visit n
  match (← get).contents[n]?.bind id with
  | some (.scalar (.float x)) => return ⟨.float x, ← markOf n x⟩
  | some (.scalar v) => return ⟨v, none⟩
  | _ => throw malformed

/-- The entries of a mapping, those under its merge keys first, each key once. -/
def mapping (n : Nat) : Interpret (List (Key × Nat)) := do
  let g ← (← get).graph.merged n
  modify fun r => { r with graph := g }
  let es ← (g.entries n).mapM fun (k, v) => do
    let k ← key k
    visit v
    return (k, v)
  return es.foldl (fun es (k, v) => insertKey k v es) []

/-- A list of mappings with one entry each, as a list of pairs. -/
def pairs (ns : List Nat) : Interpret (List (Nat × Nat)) :=
  ns.mapM fun n => do
    match (← node n).shape with
    | .map [(k, v)] =>
      visit k
      visit v
      return (k, v)
    | _ => throw malformed

/-- What a collection holds. -/
def filled (n : Nat) : Interpret Content := do
  let { tag, shape } ← node n
  match tag, shape with
  | .list, .list ns =>
    ns.forM visit
    return .list ns
  | .map, .map _ => return .map ((← mapping n).map fun (k, v) => (k.value, v))
  | .set, .map _ => return .set ((← mapping n).map fun (k, _) => k.value)
  | .orderedMap, .list ns => return .pairs (← pairs ns)
  | .pairs, .list ns => return .pairs (← pairs ns)
  | _, _ => throw malformed

/-- Fills the collections that are waiting, and then those inside them; each waits once. -/
def fillAll : (bound : Nat) → Interpret Unit
  | 0 => return
  | bound + 1 => do
    match (← get).waiting with
    | [] => return
    | ns =>
      modify fun r => { r with waiting := [] }
      ns.reverse.forM fun n => do note n (← filled n)
      fillAll bound

end Interpret

/-- What the nodes of a document mean, the node `root` being the outermost one; nodes that the
document does not need are left out. -/
def Graph.contents (g : Graph) (root : Nat) : Except ReadError (Array (Option Content)) := do
  let read : Interpret Unit := do
    Interpret.visit root
    Interpret.fillAll (g.nodes.size + 1)
  let (_, r) ← read.run ⟨g, Array.replicate g.nodes.size none, []⟩
  return r.contents

end BuildPilot.Document.Yaml
