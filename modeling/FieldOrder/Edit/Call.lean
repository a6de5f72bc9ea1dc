import FieldOrder.Edit.Session

namespace FieldOrder

abbrev Call := ExceptT MergeError (StateM EditSession)

namespace Call

def runOn {α : Type} (call : Call α) (s : EditSession) : Except MergeError α × EditSession :=
  StateT.run (ExceptT.run call) s

def merge (edits : List Edit) : Call Edit := do
  let s ← get
  ExceptT.mk (pure (Edit.merge s.text edits))

def add (edits : List Edit) : Call Bool := do
  let merged ← merge edits
  let s ← get
  if s.accepted.any fun e => merged.range.overlaps e.range then return false
  set { s with accepted := s.accepted ++ [merged] }
  return true

/-- Adds fixes one after another, whatever the calls answer; the answers and the session left. -/
def addAll : List (List Edit) → EditSession → List (Except MergeError Bool) × EditSession
  | [], s => ([], s)
  | edits :: rest, s =>
    let (answer, s) := (add edits).runOn s
    let (answers, s) := addAll rest s
    (answer :: answers, s)

end Call

def EditSession.after (text : String) (fixes : List (List Edit)) : EditSession :=
  (Call.addAll fixes { text }).2

end FieldOrder
