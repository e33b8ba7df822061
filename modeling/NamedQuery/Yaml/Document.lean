import NamedQuery.Yaml.Building

/-!
# Values of YAML documents

A document has the value of its root.  Where no node holds itself the value is a tree; otherwise it
stays in the heap of its collections.
-/

namespace NamedQuery.Yaml

/-- The value of a document; a text without a document has none. -/
def valueOf (s : String) : Except Fault Value := do
  match ← Graph.ofText (Text.normalizeLines s.toList) with
  | none => .ok .null
  | some g =>
    let (v, heap) ← g.build
    match v with
    | .link place => .ok (Value.settle heap place)
    | v => .ok v

end NamedQuery.Yaml
