import FieldOrder.Shape.Basic

namespace FieldOrder

namespace Parameters

/-- Does a pattern of some kind bind what its child binds? -/
def bindsThrough (kind : String) (child : Node) : Bool :=
  if kind = "object_assignment_pattern" ∨ kind = "assignment_pattern" then
    child.info.field == some "left"
  else if kind = "pair_pattern" then child.info.field == some "value"
  else if kind = "object_pattern" ∨ kind = "array_pattern" ∨ kind = "rest_pattern" then
    child.isNamed && !child.isComment
  else false

mutual

/-- The identifiers that a pattern binds. -/
def bindings : Node → List Node
  | .mk info children =>
    if info.kind = "identifier" ∨ info.kind = "shorthand_property_identifier_pattern" then
      [.mk info children]
    else bindingsBelow info.kind children

def bindingsBelow (kind : String) : List Node → List Node
  | [] => []
  | child :: rest =>
    (if bindsThrough kind child then bindings child else []) ++ bindingsBelow kind rest

end

/-- The default value of an entry. -/
def default? (entry : Node) : Option Node :=
  if entry.kind = "object_assignment_pattern" then entry.child? "right"
  else if entry.kind = "pair_pattern" then
    (entry.child? "value").bind fun value =>
      if value.kind = "assignment_pattern" then value.child? "right" else none
  else none

/-- Does the default value of an entry contain an identifier that another entry binds? -/
def reads (d : Document) (entry other : Node) : Bool :=
  match default? entry with
  | none => false
  | some value => value.preorder.any fun n =>
    (n.kind == "identifier" || n.kind == "shorthand_property_identifier") &&
      (bindings other).any fun b =>
        match d.nodeText n, d.nodeText b with
        | .ok t, .ok u => t == u
        | _, _ => false

end Parameters

end FieldOrder
