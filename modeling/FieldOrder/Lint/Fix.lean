import FieldOrder.Lint.Basic
import FieldOrder.Edit.Session

namespace FieldOrder

/-- Parsing: the tree of a text, if there is one. -/
abbrev Parse := String → Option Node

structure FixResult where
  text : String
  /-- Fixes accepted in passes that changed the text. -/
  fixedCount : Int := 0
  passes : Nat := 0
  /-- Violations of the text as it was left. -/
  remaining : List Violation := []
  deriving Repr, DecidableEq

def FixResult.changed (r : FixResult) : Bool := 0 < r.fixedCount

inductive FixError where
  | lint (e : LintError)
  | merge (e : MergeError)
  | apply (e : ApplyError)
  deriving Repr, DecidableEq

def maxFixPasses : Nat := 10

def lintText (rules : List BoundRule) (parse : Parse) (text : String) :
    Except LintError (List Violation) :=
  lintDocument rules ⟨text, parse text⟩

/-- Adds the fixes of violations in turn; how many were accepted. -/
def acceptFixes (session : EditSession) : List Violation → Except MergeError (Nat × EditSession)
  | [] => return (0, session)
  | v :: rest => do
    let (taken, session) ← session.addFix v.edits
    let (accepted, session) ← acceptFixes session rest
    return (if taken then accepted + 1 else accepted, session)

/-- One pass over the violations found in a text: the text after it, and the number of fixes. -/
def fixPass (text : String) (fixable : List Violation) : Except FixError (String × Nat) := do
  let (accepted, session) ← (acceptFixes { text } fixable).mapError .merge
  let (fixed, _) ← session.apply.mapError .apply
  return (fixed, accepted)

/-- Passes until nothing is left to fix, a pass changes nothing, or no more passes are allowed. -/
def fixPasses (rules : List BoundRule) (parse : Parse) : Nat → FixResult →
    Except FixError FixResult
  | 0, r => do
    return { r with remaining := ← (lintText rules parse r.text).mapError .lint }
  | allowed + 1, r => do
    let violations ← (lintText rules parse r.text).mapError .lint
    match violations.filter (!·.edits.isEmpty) with
    | [] => return { r with remaining := violations }
    | fixable =>
      let (text, accepted) ← fixPass r.text fixable
      if text = r.text then
        return { r with passes := r.passes + 1, remaining := violations }
      fixPasses rules parse allowed
        { r with text, passes := r.passes + 1, fixedCount := r.fixedCount + accepted }

/-- Fixes a text. -/
def fixText (rules : List BoundRule) (parse : Parse) (text : String) :
    Except FixError FixResult :=
  fixPasses rules parse maxFixPasses { text }

end FieldOrder
