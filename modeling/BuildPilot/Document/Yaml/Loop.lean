import BuildPilot.Document.Yaml.Content

/-!
# The value of a document

The values of nodes are put together in the order in which the nodes end: then the values inside a
node are known before its own, unless the node lies inside itself. Only a node that ends before a
node inside it can do so.
-/

namespace BuildPilot.Document.Yaml

/-- The nodes inside a content. -/
def Content.parts : Content → List Nat
  | scalar _ => []
  | list ns => ns
  | pairs es => es.flatMap fun (k, v) => [k, v]
  | set _ => []
  | map es => es.map (·.2)

/-- The value of a content, where `ref` gives the values inside it. -/
def Content.value (ref : Nat → Value) : Content → Value
  | scalar v => v
  | list ns => .list (ns.map ref)
  | pairs es => .list (es.map fun (k, v) => .tuple [ref k, ref v])
  | set ks => .set ks
  | map es => .map (es.map fun (k, n) => (k, ref n))

/-- What the nodes of a document mean, by number. -/
abbrev Contents := Array (Option Content)

namespace Contents

/-- The nodes inside a node. -/
def partsOf (cs : Contents) (n : Nat) : List Nat :=
  ((cs[n]?.bind id).map Content.parts).getD []

/-- The nodes of `todo`, those inside them and so on, marked beside those in `seen`. -/
def spread (cs : Contents) : (bound : Nat) → (seen : Array Bool) → (todo : List Nat) → Array Bool
  | 0, seen, _ => seen
  | _, seen, [] => seen
  | bound + 1, seen, n :: todo =>
    if seen.getD n true then spread cs bound seen todo
    else spread cs bound (seen.setIfInBounds n true) (cs.partsOf n ++ todo)

/-- The number of places where nodes lie inside nodes. -/
def placeCount (cs : Contents) : Nat :=
  cs.foldl (fun count c => count + ((c.map Content.parts).getD []).length) 0

/-- Whether a node lies inside itself, however deep. -/
def isLoop (cs : Contents) (n : Nat) : Bool :=
  let seen := cs.spread (2 * cs.placeCount + 1) (Array.replicate cs.size false) (cs.partsOf n)
  seen.getD n false

/-- The position of each node in the order in which the nodes end. -/
def ranks (size : Nat) (ended : Array Nat) : Array Nat :=
  (ended.foldl (fun (ranks, i) n => (ranks.setIfInBounds n i, i + 1))
    (Array.replicate size 0, 0)).1

/-- The nodes that lie inside themselves. There are none if nothing lies inside a node that ended
before it. -/
def loops (cs : Contents) (ended : Array Nat) : List Nat :=
  let ranks := ranks cs.size ended
  let late (n : Nat) : Bool := (cs.partsOf n).any fun m => ranks.getD n 0 ≤ ranks.getD m 0
  if ended.any late then ended.toList.filter cs.isLoop else []

/-- The document with the outermost node `root`, where `ended` is the order in which the nodes
end. -/
def document (cs : Contents) (ended : Array Nat) (root : Nat) : Document :=
  let loops := cs.loops ended
  let ref (values : Array Value) (n : Nat) : Value :=
    if n ∈ loops then .loop n else values.getD n .null
  let values := ended.foldl (fun values n =>
    match cs[n]?.bind id with
    | some c => values.setIfInBounds n (c.value (ref values))
    | none => values) (Array.replicate cs.size .null)
  ⟨ref values root, loops.map fun n => (n, values.getD n .null)⟩

end Contents

end BuildPilot.Document.Yaml
