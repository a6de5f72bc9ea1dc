/-!
Tables of code points, packed into rows of words of six hexadecimal digits: the first digit is a
tag, the other five a code point.

In a table of sets two words make a range; tag 1 on its second word restricts the range to every
second code point. In a table of mappings tag 1 opens an entry at its code point, tag 2 extends the
entry to a last code point, tag 3 to every second code point up to it, and words of tag 0 are the
image: the code points of a range go in step to the first of them and what follows it.
-/

namespace FieldOrder.Text

/-- The words of a row, first word first; that word is not 0. -/
def rowWords (row : Nat) : List Nat :=
  go 24 row []
where
  go : Nat → Nat → List Nat → List Nat
    | 0, _, words => words
    | fuel + 1, n, words =>
      if n = 0 then words else go fuel (n / 0x1000000) (n % 0x1000000 :: words)

def wordTag (word : Nat) : Nat := word / 0x100000

def wordCode (word : Nat) : Nat := word % 0x100000

/-- Code points `first`, `first + step`, … up to `last`. -/
structure CodeRange where
  first : Nat
  last : Nat
  step : Nat
  deriving Repr, DecidableEq

def CodeRange.contains (r : CodeRange) (code : Nat) : Bool :=
  Nat.ble r.first code && Nat.ble code r.last && Nat.beq ((code - r.first) % r.step) 0

structure CodeSet where
  ranges : List CodeRange

namespace CodeSet

def readRanges : List Nat → List CodeRange
  | first :: last :: words =>
    ⟨wordCode first, wordCode last, wordTag last + 1⟩ :: readRanges words
  | _ => []

def ofRows (rows : List Nat) : CodeSet := ⟨rows.flatMap fun row => readRanges (rowWords row)⟩

def contains (s : CodeSet) (c : Char) : Bool := s.ranges.any (·.contains c.toNat)

end CodeSet

structure CodeMapping where
  domain : CodeRange
  target : Nat
  more : List Nat
  deriving Repr, DecidableEq

def CodeMapping.image (m : CodeMapping) (code : Nat) : List Char :=
  Char.ofNat (m.target + (code - m.domain.first)) :: m.more.map Char.ofNat

/-- A map from characters to texts; its domain is what its entries name. -/
structure CodeMap where
  mappings : List CodeMapping

namespace CodeMap

/-- Reads a row from its end: the words of an image, the end of its range, the word that opens the
entry. -/
def readMappings (words : List Nat) : List CodeMapping :=
  (words.foldr step ([], none, [])).2.2
where
  step (word : Nat) : List Nat × Option CodeRange × List CodeMapping →
      List Nat × Option CodeRange × List CodeMapping
    | (image, range, entries) =>
      let code := wordCode word
      match wordTag word, image with
      | 0, _ => (code :: image, range, entries)
      | 1, target :: more =>
        let domain := match range with
          | some r => { r with first := code }
          | none => ⟨code, code, 1⟩
        ([], none, ⟨domain, target, more⟩ :: entries)
      | 1, [] => ([], none, entries)
      | tag, _ => (image, some ⟨code, code, tag - 1⟩, entries)

def ofRows (rows : List Nat) : CodeMap := ⟨rows.flatMap fun row => readMappings (rowWords row)⟩

def find? (m : CodeMap) (c : Char) : Option (List Char) :=
  (m.mappings.find? (·.domain.contains c.toNat)).map (·.image c.toNat)

/-- The image of a character, itself where the table is silent. -/
def apply (m : CodeMap) (c : Char) : List Char := (m.find? c).getD [c]

end CodeMap

end FieldOrder.Text
