import FieldOrder.Text.CodeTable
import FieldOrder.Text.Decomposition.Table

namespace FieldOrder.Text

def decompositionMap : CodeMap := .ofRows decompositionRows

def combiningSets : List (Nat × CodeSet) :=
  combiningRows.map fun (cls, row) => (cls, .ofRows [row])

/-- Combining class; 0 for letters and all else that starts anew. -/
def combiningClass (c : Char) : Nat :=
  if c.toNat < 0x300 then 0
  else ((combiningSets.find? (·.2.contains c)).map (·.1)).getD 0

/-- A Hangul syllable is its leading consonant, its vowel and, unless it is open, its tail. -/
def decomposeHangul (code : Nat) : List Char :=
  let index := code - 0xAC00
  let lead := Char.ofNat (0x1100 + index / 588)
  let vowel := Char.ofNat (0x1161 + index % 588 / 28)
  if index % 28 = 0 then [lead, vowel] else [lead, vowel, Char.ofNat (0x11A7 + index % 28)]

def decomposeChar (c : Char) : List Char :=
  if c.toNat < 128 then [c]
  else if 0xAC00 ≤ c.toNat && c.toNat ≤ 0xD7A3 then decomposeHangul c.toNat
  else decompositionMap.apply c

/-- Puts a mark before marks in order, past those of a lower class. -/
def insertMark (c : Char) : List Char → List Char
  | [] => [c]
  | d :: rest =>
    if 0 < combiningClass d && combiningClass d < combiningClass c then d :: insertMark c rest
    else c :: d :: rest

/-- Orders every run of marks by combining class; marks of one class keep their order. -/
def orderMarks : List Char → List Char
  | [] => []
  | c :: rest => insertMark c (orderMarks rest)

def decompose (s : String) : String := .ofList (orderMarks (s.toList.flatMap decomposeChar))

def withoutMarks (s : String) : String :=
  .ofList (s.toList.filter fun c => combiningClass c == 0)

end FieldOrder.Text
