import FieldOrder.Shape.Basic

namespace FieldOrder.Attributes

def tagKinds : List String := ["jsx_opening_element", "jsx_self_closing_element"]

def describe (d : Document) (a : Node) : Except DocumentError Field := do
  let name ← match a.entries.head? with
    | some n => do pure (some (← d.nodeText n))
    | none => pure none
  let (first, last) := d.nodeRows a
  return { d.fieldAt a name with
    multiline := first != last
    hasValue := a.children.any (·.kind == "=") }

def extract (d : Document) (s : Site) : Except DocumentError (Option FieldList) := do
  let attributes := s.node.namedChildren.filter (·.kind == "jsx_attribute")
  if attributes.length < 2 then return none
  return some { fields := ← attributes.mapM (describe d), owner := s.node, container := .element }

end FieldOrder.Attributes
