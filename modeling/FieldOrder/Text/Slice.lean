namespace FieldOrder.Text

/-- The position in a text of `size` characters that `i` names. -/
def clip (size : Nat) (i : Int) : Nat := if i < 0 then (size + i).toNat else min i.toNat size

def slice (s : String) (start stop : Int) : String :=
  let cs := s.toList
  let first := clip cs.length start
  .ofList ((cs.drop first).take (clip cs.length stop - first))

def sliceTo (s : String) (stop : Int) : String :=
  .ofList (s.toList.take (clip s.length stop))

def sliceFrom (s : String) (start : Int) : String :=
  .ofList (s.toList.drop (clip s.length start))

@[simp] theorem toList_slice (s : String) (start stop : Int) :
    (slice s start stop).toList = (s.toList.drop (clip s.toList.length start)).take
      (clip s.toList.length stop - clip s.toList.length start) := by
  simp [slice]

end FieldOrder.Text
