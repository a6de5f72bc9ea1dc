import FieldOrder.Field
import FieldOrder.Syntax.Document

namespace FieldOrder

inductive Container where
  | component
  | element
  | interface
  | typeAlias
  deriving Repr, DecidableEq

def Container.word : Container → String
  | component => "component"
  | element => "element"
  | interface => "interface"
  | typeAlias => "type"

/-- A field list of at least two entries. -/
structure FieldList where
  fields : List Field
  /-- The node that a violation is reported at. -/
  owner : Node
  container : Container
  /-- Does the owner look like a component? -/
  isComponent : Bool := false
  /-- False where reordering the list would drop text between its entries. -/
  fixable : Bool := true

namespace Node

def isComment (n : Node) : Bool := n.kind == "comment" || n.kind == "html_comment"

/-- Named children that are no comments. -/
def entries (n : Node) : List Node := n.namedChildren.filter fun c => !c.isComment

end Node

namespace Document

/-- Kinds of nodes whose text is a name. -/
def nameKinds : List String :=
  ["property_identifier", "shorthand_property_identifier_pattern", "private_property_identifier",
    "identifier", "number"]

/-- The name that a key has without being evaluated: that of an identifier, or what a literal
says. Computed keys have none. -/
def keyName (d : Document) (key : Option Node) : Except DocumentError (Option String) := do
  match key with
  | none => return none
  | some n =>
    if nameKinds.contains n.kind then return some (← d.nodeText n)
    if n.kind = "string" then
      let text ← d.nodeText n
      if 2 ≤ text.length then return some (Text.slice text 1 (-1))
    return none

def fieldAt (d : Document) (n : Node) (name : Option String) : Field :=
  let (start, stop) := d.nodeRange n
  { name, start, stop }

end Document

end FieldOrder
