/-
# Reading YAML

A text with one YAML document as a node: its tokens make up a tree, and the tree's references are
followed. A text without a document is the void.
-/

import Rollout.Document.Yaml.Anchor

namespace Rollout
namespace Yaml

/-- The node of a text. -/
def read (s : String) : Option Node := do
  match ← tokens s.toList with
  | [] => return .void
  | ts =>
    let t ← Tree.ofTokens? ts
    let (t, _) ← t.number? []
    t.expand

end Yaml
end Rollout
