import FieldOrder.Text.Slice

namespace FieldOrder

/-- A range of character positions. -/
structure TextRange where
  start : Int
  stop : Int
  start_le_stop : start ≤ stop
  deriving Repr, DecidableEq

/-- A range that would end before it starts. -/
structure RangeError where
  start : Int
  stop : Int
  deriving Repr, DecidableEq

def RangeError.message (e : RangeError) : String :=
  "Invalid range: start_char (" ++ toString e.start ++ ") > end_char (" ++ toString e.stop ++ ")"

namespace TextRange

def ofBounds (start stop : Int) : Except RangeError TextRange :=
  if h : start ≤ stop then .ok ⟨start, stop, h⟩ else .error ⟨start, stop⟩

def length (r : TextRange) : Int := r.stop - r.start

def overlaps (a b : TextRange) : Bool := !(a.stop ≤ b.start || b.stop ≤ a.start)

end TextRange

/-- One replacement. -/
structure Edit where
  range : TextRange
  replacement : String
  deriving Repr, DecidableEq

namespace Edit

def replace (start stop : Int) (replacement : String) : Except RangeError Edit :=
  (TextRange.ofBounds start stop).map (⟨·, replacement⟩)

def applyTo (e : Edit) (text : String) : String :=
  Text.sliceTo text e.range.start ++ e.replacement ++ Text.sliceFrom text e.range.stop

end Edit

inductive MergeError where
  | noEdits
  | overlapAt (start : Int)
  deriving Repr, DecidableEq

def MergeError.message : MergeError → String
  | noEdits => "Cannot merge an empty list of edits"
  | overlapAt start => "Overlapping edits in one fix at " ++ toString start

namespace Edit

/-- Lengthens an edit by those after it, which are in order; the text between is carried over. -/
def extend (text : String) : Edit → List Edit → Except MergeError Edit
  | e, [] => .ok e
  | e, f :: rest =>
    if h : f.range.start < e.range.stop then .error (.overlapAt f.range.start)
    else
      let range : TextRange := ⟨e.range.start, f.range.stop, by
        have he := e.range.start_le_stop
        have hf := f.range.start_le_stop
        omega⟩
      let between := Text.slice text e.range.stop f.range.start
      extend text ⟨range, e.replacement ++ between ++ f.replacement⟩ rest

/-- The edits of one fix as a single one that covers them all. -/
def merge (text : String) (edits : List Edit) : Except MergeError Edit :=
  match edits.mergeSort fun a b => a.range.start ≤ b.range.start with
  | [] => .error .noEdits
  | e :: rest => extend text e rest

end Edit

end FieldOrder
