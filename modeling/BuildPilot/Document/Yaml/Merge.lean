import BuildPilot.Document.Yaml.Node

/-!
# Merged mappings

A mapping may take over the entries of other mappings: they stand under a merge key, one mapping or
a list of them. `Graph.merge` puts these entries in front of the mapping's own, so that its own win,
and of several mappings in a list the first wins. A key whose type is the stand-in becomes a plain
text, wherever else its node occurs.
-/

namespace BuildPilot.Document.Yaml

/-- The entries of a node; only mappings have any. -/
def Graph.entries (g : Graph) (n : Nat) : List (Nat × Nat) :=
  match (g.get n).shape with
  | .map es => es
  | _ => []

/-- The graph with other entries at a node. -/
def Graph.setEntries (g : Graph) (n : Nat) (es : List (Nat × Nat)) : Graph :=
  g.set n { g.get n with shape := .map es }

/-- The number of entries of all nodes. -/
def Graph.entryCount (g : Graph) : Nat :=
  g.nodes.foldl (fun count node => count + match node.shape with
    | .map es => es.length
    | _ => 0) 0

/-- The graph where a key is a plain text if its type was the stand-in. -/
def Graph.settleKey (g : Graph) (k : Nat) : Graph :=
  if (g.get k).tag = .standIn then g.set k { g.get k with tag := .text } else g

/-- Puts the entries under the merge keys of a mapping in front of its own; `merged` are those found
so far. Each merge key is removed when its value is looked at, so the number of entries bounds the
depth. -/
def Graph.merge : (bound : Nat) → (n : Nat) → (merged : List (Nat × Nat)) → Graph →
    Except ReadError Graph
  | 0, _, _, _ => .error malformed
  | bound + 1, n, merged, g => do
    let es := g.entries n
    let isOwn (e : Nat × Nat) : Bool := (g.get e.1).tag ≠ .merge
    let own := es.takeWhile isOwn
    let g := own.foldl (fun g e => g.settleKey e.1) g
    match es.dropWhile isOwn with
    | [] => return if merged.isEmpty then g else g.setEntries n (merged ++ es)
    | (_, v) :: rest =>
      let g := g.setEntries n (own ++ rest)
      let sources ← match (g.get v).shape with
        | .map _ => pure [v]
        | .list ns => pure ns
        | .scalar _ => throw malformed
      let (found, g) ← sources.foldlM (fun (found, g) m => do
        let .map _ := (g.get m).shape | throw malformed
        let g ← Graph.merge bound m [] g
        return (g.entries m ++ found, g)) ([], g)
      Graph.merge bound n (merged ++ found) g

/-- The graph where the mapping `n` has its merged entries in front of its own. -/
def Graph.merged (g : Graph) (n : Nat) : Except ReadError Graph :=
  let merges := (g.entries n).any fun e => (g.get e.1).tag = .merge
  g.merge (if merges then g.entryCount + 1 else 1) n []

end BuildPilot.Document.Yaml
