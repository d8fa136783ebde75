import BuildPilot.Document.Yaml.Loop

/-!
# Indented documents

A document in lines, where indentation makes collections and brackets may stand for them. Only the
types of plain data have values; a stream holds one document at most, and an empty one is nothing.
-/

namespace BuildPilot.Document.Yaml

/-- Reads an indented document. -/
def read (s : Supply) : Except ReadError Document := do
  match ← Graph.ofTokens (tokens s) with
  | none => return ⟨.null, []⟩
  | some (graph, root) =>
    let contents : Contents ← graph.contents root
    return contents.document graph.ended root

end BuildPilot.Document.Yaml
