import FieldOrder.Shape.Basic

namespace FieldOrder.Members

def declarationKinds : List String := ["interface_declaration", "type_alias_declaration"]

def body? (n : Node) : Option Node :=
  if n.kind = "interface_declaration" then
    (n.child? "body").filter fun b => b.kind == "interface_body" || b.kind == "object_type"
  else if n.kind = "type_alias_declaration" then
    (n.child? "value").filter (·.kind == "object_type")
  else none

def describe (d : Document) (signature : Node) : Except DocumentError Field := do
  let name ← d.keyName (signature.child? "name")
  return { d.fieldAt signature name with optional := signature.children.any (·.kind == "?") }

def extract (d : Document) (s : Site) : Except DocumentError (Option FieldList) := do
  match body? s.node with
  | none => return none
  | some body =>
    let signatures := body.namedChildren.filter (·.kind == "property_signature")
    if signatures.length < 2 then return none
    let container :=
      if s.node.kind = "interface_declaration" then Container.interface else .typeAlias
    return some { fields := ← signatures.mapM (describe d), owner := s.node, container }

end FieldOrder.Members
