namespace FieldOrder

inductive FieldKind where
  | named
  | rest
  deriving Repr, DecidableEq

/-- One entry of a field list, with the part of the text it covers. -/
structure Field where
  /-- `none` for rest collectors and computed keys. -/
  name : Option String := none
  start : Int := 0
  stop : Int := 1
  kind : FieldKind := .named
  /-- Has a default value, or is declared optional. -/
  optional : Bool := false
  /-- Spans more than one line. -/
  multiline : Bool := false
  /-- False for an attribute written without a value. -/
  hasValue : Bool := true
  deriving Repr, DecidableEq

namespace Field

def isRest (f : Field) : Bool := f.kind == .rest

/-- Entries that say least: defaulted, optional or written without a value. -/
def isShorthand (f : Field) : Bool := f.optional || !f.hasValue

end Field

end FieldOrder
