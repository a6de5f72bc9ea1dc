import FieldOrder.Report.Json
import FieldOrder.Rule.Bound

namespace FieldOrder

mutual

/-- A value as JSON; keys that are no text are shown as messages show them. -/
def Value.toJson : Value → Json
  | .null => .null
  | .bool b => .bool b
  | .int n => .int n
  | .float x => .float x
  | .str s => .str s
  | .list items => .arr (Value.itemsToJson items)
  | .tuple items => .arr (Value.itemsToJson items)
  | .map entries => .obj (Value.entriesToJson entries)
  | .other v => .str v.shown

def Value.itemsToJson : List Value → List Json
  | [] => []
  | v :: rest => v.toJson :: Value.itemsToJson rest

def Value.entriesToJson : List (Value × Value) → List (String × Json)
  | [] => []
  | (k, v) :: rest => (k.plainText, v.toJson) :: Value.entriesToJson rest

end

namespace RuleKind

def toJson (k : RuleKind) : Json := .obj [
  ("name", .str k.name),
  ("description", .str k.description),
  ("fixable", .bool true),
  ("node_types", .arr ((k.shape.kinds.mergeSort fun a b => a ≤ b).map .str)),
  ("default_options", (Value.map (k.defaultOptions.map fun (o, v) => (.str o, v))).toJson)]

def listing : Json :=
  let sorted := all.mergeSort fun a b => a.name ≤ b.name
  .obj [("rules", .arr (sorted.map toJson))]

end RuleKind

end FieldOrder
