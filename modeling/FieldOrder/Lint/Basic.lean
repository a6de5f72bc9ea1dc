import FieldOrder.Lint.Violation
import FieldOrder.Rule.Bound

namespace FieldOrder

inductive LintError where
  | document (e : DocumentError)
  | collation (e : LocaleError)
  | patch (e : PatchError)
  /-- The rule has no message for what it is to report. -/
  | noMessage (container : Container)
  deriving Repr, DecidableEq

/-- The analysis of a field list. It fails if a name has no collation key when the keys are
computed. -/
def Engine.inspect (e : Engine) (kept : CollationState) (text : String) (fields : List Field)
    (fixable : Bool) : Except LintError (Option (List Edit)) := do
  let ((), kept) ← ((e.policy.primeChecked fields).run kept).mapError .collation
  ((e.judgeBy e.policy.compareKept text fields fixable).run kept).1.mapError .patch

namespace BoundRule

def handles (r : BoundRule) (n : Node) : Bool := r.kind.shape.kinds.contains n.kind

/-- Is the node shown to the rule? A fix must not touch text that was not understood, so nodes with
a syntax error below them are passed over. -/
def shown (r : BoundRule) (s : Site) : Bool :=
  s.node.isNamed && !s.node.hasError && r.handles s.node

def messageFor (r : BoundRule) (c : Container) : Except LintError String :=
  match r.kind.message? c with
  | some message => .ok message
  | none => .error (.noMessage c)

def report (r : BoundRule) (d : Document) (owner : Node) (message : String) (edits : List Edit) :
    Violation :=
  let (start, stop) := d.nodeRange owner
  let (line, column) := d.lineColumn start
  let (endLine, endColumn) := d.lineColumn stop
  { rule := r.name, severity := r.severity, message, start, stop, line, column, endLine, endColumn
    edits }

/-- Checks one node; a violation if it owns a field list that is out of order. -/
def visit (r : BoundRule) (d : Document) (s : Site) : Except LintError (Option Violation) := do
  match ← (r.kind.shape.extract d s).mapError .document with
  | none => return none
  | some found =>
    match ← r.engine.inspect {} d.text found.fields found.fixable with
    | none => return none
    | some edits => return some (r.report d found.owner (← r.messageFor found.container) edits)

end BoundRule

/-- The nodes at and below a root, each with every rule that is shown it, in the order of the walk
and then in that of the rules. -/
def checks (rules : List BoundRule) (root : Node) : List (Site × BoundRule) :=
  ((root.sites none).flatMap fun s => rules.map (Prod.mk s)).filter fun c => c.2.shown c.1

/-- What the rules find at one node. -/
def lintSite (rules : List BoundRule) (d : Document) (s : Site) :
    Except LintError (List Violation) := do
  if !s.node.isNamed || s.node.hasError then return []
  return (← (rules.filter (·.handles s.node)).mapM (·.visit d s)).filterMap id

/-- The violations of a document, in the order of their places. -/
def lintDocument (rules : List BoundRule) (d : Document) : Except LintError (List Violation) := do
  if rules.isEmpty then return []
  let root ← d.root.mapError .document
  let found ← root.walk.mapM (lintSite rules d)
  return Violation.sort found.flatten

end FieldOrder
