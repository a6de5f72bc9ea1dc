import FieldOrder.Shape.Parameters
import FieldOrder.Shape.Attributes
import FieldOrder.Shape.Members
import FieldOrder.Patch

namespace FieldOrder

inductive Shape where
  | parameters
  | attributes
  | members
  deriving Repr, DecidableEq

namespace Shape

def kinds : Shape → List String
  | parameters => Parameters.functionKinds
  | attributes => Attributes.tagKinds
  | members => Members.declarationKinds

def style : Shape → FixStyle
  | parameters => .joined
  | attributes => .positional
  | members => .positional

/-- The field list of a node, if it has one. -/
def extract : Shape → Document → Site → Except DocumentError (Option FieldList)
  | parameters => Parameters.extract
  | attributes => Attributes.extract
  | members => Members.extract

end Shape

end FieldOrder
