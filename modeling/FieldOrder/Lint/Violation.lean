import FieldOrder.Rule.Options
import FieldOrder.Edit.Basic

namespace FieldOrder

structure Violation where
  rule : String
  severity : Severity
  message : String
  /-- Characters of the reported node. -/
  start : Int := 0
  stop : Int := 0
  /-- Where the node starts and ends; lines and columns count from 1. -/
  line : Int
  column : Int
  endLine : Int
  endColumn : Int
  edits : List Edit := []
  deriving Repr, DecidableEq

namespace Violation

def isError (v : Violation) : Bool := v.severity == .error

/-- By line, then by column, then by rule. -/
def compare (a b : Violation) : Ordering :=
  (Ord.compare a.line b.line).then
    ((Ord.compare a.column b.column).then (Ord.compare a.rule b.rule))

/-- Violations in the order of their places; those that tie keep their order. -/
def sort (vs : List Violation) : List Violation := vs.mergeSort fun a b => a.compare b != .gt

end Violation

end FieldOrder
