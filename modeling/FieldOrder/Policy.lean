import FieldOrder.Field
import FieldOrder.Classifier
import FieldOrder.Collation.Collator

namespace FieldOrder

/-- Where the fields that a criterion singles out go. -/
inductive Placement where
  | first
  | last
  | ignore
  deriving Repr, DecidableEq

instance : Choice Placement where
  name := "Placement"
  words := [("first", .first), ("last", .last), ("ignore", .ignore)]
  word
    | .first => "first"
    | .last => "last"
    | .ignore => "ignore"

/-- The criteria whose precedence is configurable. -/
inductive Stage where
  | reserved
  | shorthand
  | callbacks
  deriving Repr, DecidableEq

instance : Choice Stage where
  name := "Stage"
  words := [("reserved", .reserved), ("shorthand", .shorthand), ("callbacks", .callbacks)]
  word
    | .reserved => "reserved"
    | .shorthand => "shorthand"
    | .callbacks => "callbacks"

structure DuplicateStage where
  stages : List Stage
  deriving Repr, DecidableEq

def DuplicateStage.message (e : DuplicateStage) : String :=
  "duplicate stage in precedence: [" ++
    ", ".intercalate (e.stages.map fun s => Text.quoted (Choice.word s)) ++ "]"

namespace Stage

def defaultPrecedence : List Stage := [reserved, callbacks, shorthand]

/-- The stages given, and after them those of `fallback` that are missing. -/
def complete (stages fallback : List Stage) : Except DuplicateStage (List Stage) :=
  if stages.Nodup then .ok (stages ++ fallback.filter fun s => !stages.contains s)
  else .error ⟨stages⟩

end Stage

/-- A canonical order of fields. Rest collectors come last. Of other entries the first criterion
that tells them apart decides; a field without a name is never told apart from another. -/
structure Policy where
  classifier : Classifier := {}
  reservedFirst : Bool := true
  callbacksLast : Bool := true
  alphabetical : Bool := true
  shorthand : Placement := .ignore
  multiline : Placement := .ignore
  precedence : List Stage := Stage.defaultPrecedence
  collator : Collator := {}

/-- What can decide between two named fields. -/
inductive Criterion where
  | multiline
  | reserved
  | shorthand
  | callbacks
  | names
  deriving Repr, DecidableEq

def Criterion.word : Criterion → String
  | multiline => "multiline"
  | reserved => "reserved"
  | shorthand => "shorthand"
  | callbacks => "callbacks"
  | names => "names"

/-- Tells apart a field that is singled out from one that is not. -/
def split (a b flaggedFirst : Bool) : Ordering :=
  if a == b then .eq else if a == flaggedFirst then .lt else .gt

namespace Policy

/-- The criterion of a stage, where it is enabled. -/
def stageCriterion? (p : Policy) : Stage → Option Criterion
  | .reserved => if p.reservedFirst then some .reserved else none
  | .shorthand => if p.shorthand = .ignore then none else some .shorthand
  | .callbacks => if p.callbacksLast then some .callbacks else none

/-- The criteria in force, the one that decides first at the head. -/
def criteria (p : Policy) : List Criterion :=
  (if p.multiline = .ignore then [] else [.multiline]) ++
    p.precedence.filterMap p.stageCriterion? ++ (if p.alphabetical then [.names] else [])

variable {m : Type → Type} [Monad m]

/-- Compares two fields with the given names by one criterion; `names` compares by name. -/
def judge (p : Policy) (names : String → String → m Ordering) (a b : Field) (na nb : String) :
    Criterion → m Ordering
  | .multiline => pure (split a.multiline b.multiline (p.multiline = .first))
  | .reserved => pure (split (p.classifier.isReserved na) (p.classifier.isReserved nb) true)
  | .shorthand => pure (split a.isShorthand b.isShorthand (p.shorthand = .first))
  | .callbacks => pure (split (p.classifier.isCallback na) (p.classifier.isCallback nb) false)
  | .names => names na nb

/-- The first decision among several. -/
def firstDecision {α : Type} (judge : α → m Ordering) : List α → m Ordering
  | [] => pure .eq
  | c :: rest => do
    match ← judge c with
    | .eq => firstDecision judge rest
    | decided => pure decided

def compareWith (p : Policy) (names : String → String → m Ordering) (a b : Field) :
    m Ordering :=
  if a.isRest || b.isRest then pure (split a.isRest b.isRest false)
  else match a.name, b.name with
    | some na, some nb => firstDecision (p.judge names a b na nb) p.criteria
    | _, _ => pure .eq

def compare (p : Policy) (a b : Field) : Ordering :=
  Id.run (p.compareWith (fun na nb => pure (p.collator.compare na nb)) a b)

def compareKept (p : Policy) (a b : Field) : StateM CollationState Ordering :=
  p.compareWith p.collator.compareKept a b

/-- Compares two fields; fails where it comes to compare a name that has no collation key. -/
def compareChecked (p : Policy) (a b : Field) : Except LocaleError Ordering :=
  p.compareWith (fun na nb => do
    p.collator.check [na, nb]
    return p.collator.compare na nb) a b

/-- Fails where a name has no collation key, if names are compared at all. -/
def checkNames (p : Policy) (fields : List Field) : Except LocaleError Unit :=
  if p.alphabetical then p.collator.check (fields.filterMap (·.name)) else .ok ()

def prime (p : Policy) (fields : List Field) : StateM CollationState Unit :=
  if p.alphabetical then p.collator.prime (fields.filterMap (·.name)) else pure ()

def primeChecked (p : Policy) (fields : List Field) :
    StateT CollationState (Except LocaleError) Unit := do
  p.checkNames fields
  modify fun s => ((p.prime fields).run s).2

end Policy

end FieldOrder
