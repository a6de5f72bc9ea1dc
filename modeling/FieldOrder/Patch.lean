import FieldOrder.Order
import FieldOrder.Edit.Basic

namespace FieldOrder

inductive FixStyle where
  /-- One edit from the first entry to the last, the entries joined by a separator. -/
  | joined
  /-- One edit for each entry that moves. -/
  | positional
  deriving Repr, DecidableEq

instance : Choice FixStyle where
  name := "FixStyle"
  words := [("joined", .joined), ("positional", .positional)]
  word
    | .joined => "joined"
    | .positional => "positional"

inductive PatchError where
  /-- The order names an entry that the list does not have. -/
  | noSuchEntry
  | range (e : RangeError)
  deriving Repr, DecidableEq

def Field.textIn (text : String) (f : Field) : String := Text.slice text f.start f.stop

namespace Patch

def entry (fields : List Field) (i : Nat) : Except PatchError Field :=
  match fields[i]? with
  | some f => .ok f
  | none => .error .noSuchEntry

def moveTo (text : String) (fields : List Field) (order : List Nat) (position : Nat) :
    Except PatchError Edit := do
  let target ← entry fields position
  let source ← match order[position]? with
    | some i => entry fields i
    | none => .error .noSuchEntry
  (Edit.replace target.start target.stop (source.textIn text)).mapError .range

/-- Replaces all from the first entry to the last by the entries in order. -/
def rejoin (text : String) (fields : List Field) (order : List Nat) (separator : String) :
    Except PatchError Edit := do
  let entries ← order.mapM (entry fields)
  let body := separator.intercalate (entries.map (·.textIn text))
  match fields.head?, fields.getLast? with
  | some first, some last => (Edit.replace first.start last.stop body).mapError .range
  | _, _ => .error .noSuchEntry

end Patch

/-- The edits that put the fields of a text into the given order; none if nothing moves. -/
def synthesize (text : String) (fields : List Field) (order : List Nat) (style : FixStyle)
    (separator : String) : Except PatchError (List Edit) :=
  match movedPositions order with
  | [] => .ok []
  | moved =>
    match style with
    | .joined => (Patch.rejoin text fields order separator).map ([·])
    | .positional => moved.mapM (Patch.moveTo text fields order)

/-- A policy with the way its fixes are written. -/
structure Engine where
  policy : Policy
  style : FixStyle
  separator : String := ", "

namespace Engine

/-- What a comparison of fields makes of a field list: the edits that put it in order, empty where
it cannot be fixed; `none` if it is in order. -/
def judgeBy {m : Type → Type} [Monad m] (e : Engine) (compare : Field → Field → m Ordering)
    (text : String) (fields : List Field) (fixable : Bool) :
    m (Except PatchError (Option (List Edit))) := do
  if ← isSortedBy compare fields then return .ok none
  let order ← sortOrderBy compare fields
  if isIdentity order then return .ok none
  if !fixable then return .ok (some [])
  return (synthesize text fields order e.style e.separator).map some

/-- The edits that put a field list into canonical order. Collation keys come from and go to what
is kept. -/
def analyzeKept (e : Engine) (text : String) (fields : List Field) (fixable : Bool) :
    StateM CollationState (Except PatchError (Option (List Edit))) := do
  e.policy.prime fields
  e.judgeBy e.policy.compareKept text fields fixable

/-- The analysis with no collation keys kept before it. -/
def analyze (e : Engine) (text : String) (fields : List Field) (fixable : Bool) :
    Except PatchError (Option (List Edit)) :=
  ((e.analyzeKept text fields fixable).run {}).1

end Engine

end FieldOrder
