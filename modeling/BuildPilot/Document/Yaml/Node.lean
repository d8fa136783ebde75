import BuildPilot.Document.Yaml.Plain
import BuildPilot.Document.Yaml.Token

/-!
# The nodes of an indented document

Tokens are put together to texts, lists and mappings, each with its type. These are the nodes of a
graph, where each node is known by its number. An alias is the number of the node at its anchor,
and since an anchor holds from the start of its node on, a node may lie inside itself. A stream
holds one document at most.
-/

namespace BuildPilot.Document.Yaml

/-- What a node is made of; the nodes inside it are given by their numbers. -/
inductive Shape where
  | scalar (text : String)
  | list (items : List Nat)
  | map (entries : List (Nat × Nat))
deriving Repr

/-- A node: its type, and what it is made of. -/
structure Node where
  tag : Tag
  shape : Shape
deriving Repr

/-- The node of an absent text. -/
def Node.absent : Node := ⟨.null, .scalar ""⟩

/-- The nodes of a document by number, and the numbers in the order in which the nodes end. -/
structure Graph where
  nodes : Array Node := #[]
  ended : Array Nat := #[]

/-- The node of a number. -/
def Graph.get (g : Graph) (n : Nat) : Node := (g.nodes[n]?).getD .absent

/-- The graph with another node at a number. -/
def Graph.set (g : Graph) (n : Nat) (node : Node) : Graph :=
  { g with nodes := g.nodes.setIfInBounds n node }

/-- What is left of the tokens, what names stand for, and the nodes so far. -/
structure Builder where
  tokens : List Token
  /-- The meanings of handles of tags. -/
  handles : List (String × String)
  /-- The numbers of the nodes at anchors. -/
  anchors : List (String × Nat)
  /-- The number of collections that are open. -/
  depth : Nat
  graph : Graph

/-- A step of putting nodes together. -/
abbrev Build := StateT Builder (Except ReadError)

namespace Build

/-- The next token. Where the document could not be cut further, nothing can be built. -/
def peek : Build Token := do
  match (← get).tokens with
  | [] => return .streamEnd
  | .failure e :: _ => throw e
  | t :: _ => return t

/-- Drops the next token. -/
def drop : Build Unit := modify fun b => { b with tokens := b.tokens.tail }

/-- Fails. -/
def fail {α : Type} : Build α := throw malformed

/-! ## Numbers of nodes -/

/-- Begins a node and gives its number. -/
def begin : Build Nat := do
  let n := (← get).graph.nodes.size
  modify fun b => { b with graph := { b.graph with nodes := b.graph.nodes.push .absent } }
  return n

/-- Ends the node of a number. -/
def finish (n : Nat) (node : Node) : Build Unit :=
  modify fun b =>
    let g := b.graph.set n node
    { b with graph := { g with ended := g.ended.push n } }

/-- Adds a node and gives its number. -/
def add (node : Node) : Build Nat := do
  let n ← begin
  finish n node
  return n

/-- Adds the node of an absent text. -/
def absent : Build Nat := add .absent

/-- How many collections may stand inside each other. -/
def maxDepth : Nat := 488

/-- Takes a collection by `entries`, unless it stands too deep inside others. -/
def nested {α : Type} (entries : Build α) : Build α := do
  let depth := (← get).depth
  if maxDepth ≤ depth then throw (.tooDeep none)
  modify fun b => { b with depth := depth + 1 }
  let a ← entries
  modify fun b => { b with depth := depth }
  return a

/-! ## Properties of a node -/

/-- The anchor and the full tag that stand before a node. -/
structure Properties where
  anchor : Option String
  tag : Option String

/-- Whether there is neither an anchor nor a tag. -/
def Properties.isEmpty (p : Properties) : Bool := p.anchor.isNone && p.tag.isNone

/-- The tag, unless it is the mark that leaves the type to the form. -/
def Properties.given? (p : Properties) : Option Tag :=
  match p.tag with
  | none => none
  | some s => if s == "!" then none else some (Tag.ofText s)

/-- Takes an anchor, if there is one. -/
def anchor? : Build (Option String) := do
  match ← peek with
  | .anchor name =>
    drop
    return some name
  | _ => return none

/-- A tag as it is written: its handle, if there is one, and its text. -/
abbrev WrittenTag := Option String × String

/-- Takes a tag, if there is one. -/
def tag? : Build (Option WrittenTag) := do
  match ← peek with
  | .tag handle text =>
    drop
    return some (handle, text)
  | _ => return none

/-- The full tag: what the handle stands for, and the text. -/
def fullTag : WrittenTag → Build String
  | (none, text) => return text
  | (some handle, text) => do
    match (← get).handles.lookup handle with
    | some meaning => return meaning ++ text
    | none => fail

/-- Takes an anchor and a tag in either order. -/
def properties : Build Properties := do
  match ← anchor? with
  | some name => return ⟨some name, ← (← tag?).mapM fullTag⟩
  | none =>
    match ← tag? with
    | some tag =>
      let anchor ← anchor?
      return ⟨anchor, some (← fullTag tag)⟩
    | none => return ⟨none, none⟩

/-- Notes the number of the node at an anchor; each anchor has one node. -/
def setAnchor (name : Option String) (n : Nat) : Build Unit := do
  match name with
  | none => return
  | some name =>
    if ((← get).anchors.lookup name).isSome then fail
    modify fun b => { b with anchors := (name, n) :: b.anchors }

/-- Whether a token ends an entry of a collection of lines. -/
def endsLineEntry : Token → Bool
  | .key => true
  | .value => true
  | .blockEnd => true
  | _ => false

/-- Whether a token ends an entry of a list in brackets. -/
def endsListEntry : Token → Bool
  | .flowEntry => true
  | .flowListEnd => true
  | _ => false

/-- Whether a token ends an entry of a mapping in braces. -/
def endsMapEntry : Token → Bool
  | .flowEntry => true
  | .flowMapEnd => true
  | _ => false

/-- Where a node stands: between brackets, among lines, or among lines as part of a mapping, where a
list needs no indentation. -/
inductive Context where
  | flow
  | lines
  | entry
deriving DecidableEq, Repr

mutual

/-- Takes a node and gives its number; `bound` limits the depth and the length of what is taken. -/
def node : (bound : Nat) → Context → Build Nat
  | 0, _ => fail
  | bound + 1, context => do
    if let .alias name ← peek then
      drop
      match (← get).anchors.lookup name with
      | some n => return n
      | none => fail
    else
      let p ← properties
      discard peek
      let n ← begin
      setAnchor p.anchor n
      finish n (← content bound context p)
      return n

/-- Takes a node behind its properties. -/
def content : (bound : Nat) → Context → Properties → Build Node
  | 0, _, _ => fail
  | bound + 1, context, p => do
    let t ← peek
    match t with
    | .scalar text plain =>
      drop
      let form := if plain || p.tag.isSome then Tag.ofPlain text else .text
      return ⟨p.given?.getD form, .scalar text⟩
    | .flowListStart =>
      drop
      return ⟨p.given?.getD .list, .list (← nested (flowItems bound true))⟩
    | .flowMapStart =>
      drop
      return ⟨p.given?.getD .map, .map (← nested (flowEntries bound true))⟩
    | _ =>
      if context == .entry && t matches .blockEntry then
        return ⟨p.given?.getD .list, .list (← nested (looseItems bound))⟩
      else if context != .flow && t matches .blockListStart then
        drop
        return ⟨p.given?.getD .list, .list (← nested (blockItems bound))⟩
      else if context != .flow && t matches .blockMapStart then
        drop
        return ⟨p.given?.getD .map, .map (← nested (blockEntries bound))⟩
      else if p.isEmpty then fail
      else return ⟨p.given?.getD .null, .scalar ""⟩

/-- Takes a node, or nothing before a token that ends the entry. -/
def nodeOr : (bound : Nat) → Context → (ends : Token → Bool) → Build Nat
  | 0, _, _ => fail
  | bound + 1, context, ends => do
    if ends (← peek) then absent else node bound context

/-- Takes the value of an entry behind its colon; without a colon it is absent. -/
def entryValue : (bound : Nat) → Context → (ends : Token → Bool) → Build Nat
  | 0, _, _ => fail
  | bound + 1, context, ends => do
    if let .value ← peek then
      drop
      nodeOr bound context ends
    else absent

/-- Takes the entries of a list of lines and its end. -/
def blockItems : (bound : Nat) → Build (List Nat)
  | 0 => fail
  | bound + 1 => do
    match ← peek with
    | .blockEntry =>
      drop
      let n ← nodeOr bound .lines fun t => t matches .blockEntry || t matches .blockEnd
      return n :: (← blockItems bound)
    | .blockEnd =>
      drop
      return []
    | _ => fail

/-- Takes the entries of a list that is not indented deeper than the mapping around it. -/
def looseItems : (bound : Nat) → Build (List Nat)
  | 0 => fail
  | bound + 1 => do
    match ← peek with
    | .blockEntry =>
      drop
      let n ← nodeOr bound .lines fun t => t matches .blockEntry || endsLineEntry t
      return n :: (← looseItems bound)
    | _ => return []

/-- Takes the entries of a mapping of lines and its end. -/
def blockEntries : (bound : Nat) → Build (List (Nat × Nat))
  | 0 => fail
  | bound + 1 => do
    match ← peek with
    | .key =>
      drop
      let k ← nodeOr bound .entry endsLineEntry
      let v ← entryValue bound .entry endsLineEntry
      return (k, v) :: (← blockEntries bound)
    | .blockEnd =>
      drop
      return []
    | _ => fail

/-- Takes the entries of a list in brackets and its end. An entry may be a mapping of one pair
without braces. -/
def flowItems : (bound : Nat) → (first : Bool) → Build (List Nat)
  | 0, _ => fail
  | bound + 1, first => do
    if let .flowListEnd ← peek then
      drop
      return []
    if !first then
      if let .flowEntry ← peek then drop else fail
    match ← peek with
    | .key =>
      drop
      let n ← begin
      let k ← nodeOr bound .flow fun t => t matches .value || endsListEntry t
      let v ← entryValue bound .flow endsListEntry
      finish n ⟨.map, .map [(k, v)]⟩
      return n :: (← flowItems bound false)
    | .flowListEnd =>
      drop
      return []
    | _ =>
      let n ← node bound .flow
      return n :: (← flowItems bound false)

/-- Takes the entries of a mapping in braces and its end. -/
def flowEntries : (bound : Nat) → (first : Bool) → Build (List (Nat × Nat))
  | 0, _ => fail
  | bound + 1, first => do
    if let .flowMapEnd ← peek then
      drop
      return []
    if !first then
      if let .flowEntry ← peek then drop else fail
    match ← peek with
    | .key =>
      drop
      let k ← nodeOr bound .flow fun t => t matches .value || endsMapEntry t
      let v ← entryValue bound .flow endsMapEntry
      return (k, v) :: (← flowEntries bound false)
    | .flowMapEnd =>
      drop
      return []
    | _ =>
      let k ← node bound .flow
      let v ← absent
      return (k, v) :: (← flowEntries bound false)

end

/-! ## Documents -/

/-- The handles that need no declaration. -/
def commonHandles : List (String × String) := [("!", "!"), ("!!", Tag.space)]

/-- Takes directives: one version at most, of the first generation, and each handle once. -/
def directives : (bound : Nat) → (versioned : Bool) → Build Unit
  | 0, _ => fail
  | bound + 1, versioned => do
    match ← peek with
    | .directive d =>
      drop
      match d with
      | .version major =>
        if versioned || major != 1 then fail
        directives bound true
      | .handle name meaning =>
        if ((← get).handles.lookup name).isSome then fail
        modify fun b => { b with handles := (name, meaning) :: b.handles }
        directives bound versioned
      | .other => directives bound versioned
    | _ => modify fun b => { b with handles := b.handles ++ commonHandles }

/-- Takes the content of a document behind its start; it may be missing. -/
def documentContent (bound : Nat) : Build Nat := do
  match ← peek with
  | .directive _ => absent
  | .documentStart => absent
  | .documentEnd => absent
  | .streamEnd => absent
  | _ => node bound .lines

/-- Takes marks of the ends of documents. -/
def documentEnds : (bound : Nat) → Build Unit
  | 0 => return
  | bound + 1 => do
    if let .documentEnd ← peek then
      drop
      documentEnds bound

/-- Takes the only document of the stream, if there is one, and gives the number of its node. -/
def stream (bound : Nat) : Build (Option Nat) := do
  let document ← match ← peek with
    | .streamEnd => pure none
    | .directive _ => some <$> explicit
    | .documentStart => some <$> explicit
    | _ => do
      modify fun b => { b with handles := commonHandles }
      some <$> node bound .lines
  documentEnds bound
  match ← peek with
  | .streamEnd => return document
  | _ =>
    head
    fail
where
  /-- Directives and the start mark of a document. -/
  head : Build Unit := do
    modify fun b => { b with handles := [] }
    directives bound false
    match ← peek with
    | .documentStart => drop
    | _ => fail
  /-- A document with its start mark. -/
  explicit : Build Nat := do
    head
    documentContent bound

end Build

/-- The nodes of a stream and the number of the outermost one, or nothing if the stream is empty. -/
def Graph.ofTokens (ts : List Token) : Except ReadError (Option (Graph × Nat)) := do
  let bound := 4 * ts.length + 4
  let (root, b) ← (Build.stream bound).run ⟨ts, [], [], 0, {}⟩
  return root.map fun n => (b.graph, n)

end BuildPilot.Document.Yaml
