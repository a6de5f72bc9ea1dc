import FieldOrder.Edit.Basic

namespace FieldOrder

/-- Fixes collected against one text. A fix is accepted whole or not at all: one that overlaps a fix
accepted before it is rejected. -/
structure EditSession where
  text : String
  /-- The accepted fixes, merged, in order of acceptance. -/
  accepted : List Edit := []
  deriving Repr, DecidableEq

/-- A fix that reaches beyond the text; fixes count from 0. -/
inductive BoundsError where
  | negativeStart (index : Nat) (start : Int)
  | beyondText (index : Nat) (stop : Int) (size : Nat)
  deriving Repr, DecidableEq

def BoundsError.message : BoundsError → String
  | negativeStart index start =>
    "Edit " ++ toString index ++ ": start_char (" ++ toString start ++ ") is negative"
  | beyondText index stop size =>
    "Edit " ++ toString index ++ ": end_char (" ++ toString stop ++
      ") exceeds text length (" ++ toString size ++ ")"

structure ApplyError where
  bounds : List BoundsError
  deriving Repr, DecidableEq

def ApplyError.message (e : ApplyError) : String :=
  "Edit validation failed: " ++ "; ".intercalate (e.bounds.map BoundsError.message)

structure EditStats where
  applied : Nat
  removed : Int
  added : Nat
  deriving Repr, DecidableEq

namespace EditSession

/-- Adds a fix; says whether it was accepted. -/
def addFix (s : EditSession) (edits : List Edit) : Except MergeError (Bool × EditSession) := do
  let merged ← Edit.merge s.text edits
  if s.accepted.any fun e => merged.range.overlaps e.range then return (false, s)
  return (true, { s with accepted := s.accepted ++ [merged] })

def boundsOf (size : Nat) (e : Edit) (index : Nat) : List BoundsError :=
  (if e.range.start < 0 then [.negativeStart index e.range.start] else []) ++
    if (size : Int) < e.range.stop then [.beyondText index e.range.stop size] else []

def boundsErrors (s : EditSession) : List BoundsError :=
  s.accepted.zipIdx.flatMap fun (e, i) => boundsOf s.text.length e i

/-- The accepted fixes from the end of the text to its start; of those that start together the one
accepted first comes first. -/
def fromEnd (s : EditSession) : List Edit :=
  s.accepted.mergeSort fun a b => b.range.start ≤ a.range.start

def stats (s : EditSession) : EditStats where
  applied := s.accepted.length
  removed := s.accepted.foldl (fun n e => n + e.range.length) 0
  added := s.accepted.foldl (fun n e => n + e.replacement.length) 0

/-- The text with all fixes carried out, from its end to its start, so that no position drifts. -/
def apply (s : EditSession) : Except ApplyError (String × EditStats) :=
  match s.boundsErrors with
  | [] => .ok (s.fromEnd.foldl (fun text e => e.applyTo text) s.text, s.stats)
  | errors => .error ⟨errors⟩

end EditSession

end FieldOrder
