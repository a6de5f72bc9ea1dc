namespace FieldOrder.Yaml

/-- What can be wrong with a YAML text. -/
inductive Fault where
  /-- The text does not have the form of one document. -/
  | malformed
  /-- A numeric escape that is no character. -/
  | noCharacter
  /-- A text that is to be a whole number in a base and is none. -/
  | notWhole (base : Nat) (text : String)
  | notFloat (text : String)
  /-- A decimal number of too many digits. -/
  | tooLong (digits : Nat)
  /-- A number without a character. -/
  | emptyNumber
  /-- A text that is to be a truth value and is none. -/
  | notTruth
  /-- A date that is not in the calendar, and why. -/
  | noDate (cause : String)
  /-- A key with a list or a mapping inside a list. -/
  | notAKey
  deriving Repr, DecidableEq

/-- May the character stand in a text? Controls other than tabs and line ends may not. -/
def isPrintable (c : Char) : Bool :=
  let n := c.toNat
  n == 9 || n == 10 || n == 13 || (0x20 ≤ n && n ≤ 0x7E) || n == 0x85 ||
    (0xA0 ≤ n && n ≤ 0xFFFD) || 0x10000 ≤ n

def isBreak (c : Char) : Bool :=
  c == '\n' || c.toNat == 0x85 || c.toNat == 0x2028 || c.toNat == 0x2029

/-- What a line break reads as: separators stay as they are. -/
def breakText (c : Char) : Char := if c.toNat == 0x85 then '\n' else c

def isSpace (c : Char) : Bool := c == ' ' || c == '\t'

def isFlowIndicator (c : Char) : Bool := [',', '[', ']', '\x7b', '\x7d'].contains c

def endsLine : Option Char → Bool
  | none => true
  | some c => c == '\n' || c.toNat == 0x85

def isGap (c? : Option Char) : Bool := endsLine c? || c?.any isSpace

/-- A place: what follows it, the number of characters before it, its line and its column. -/
structure Place where
  rest : List Char
  index : Nat := 0
  line : Nat := 0
  column : Nat := 0
  deriving Repr, DecidableEq

namespace Place

def next? (p : Place) : Option Char := p.rest.head?

/-- The place after the next character; a byte order mark has no width. -/
def advance (p : Place) : Place :=
  match p.rest with
  | [] => p
  | c :: rest =>
    if isBreak c then ⟨rest, p.index + 1, p.line + 1, 0⟩
    else ⟨rest, p.index + 1, p.line, if c.toNat = 0xFEFF then p.column else p.column + 1⟩

def skip (p : Place) : Nat → Place
  | 0 => p
  | n + 1 => p.advance.skip n

def span (p : Place) (test : Char → Bool) : List Char × Place :=
  let taken := p.rest.takeWhile test
  (taken, p.skip taken.length)

/-- The place at the end of a part of the text that leaves `rest`. -/
def upTo (p : Place) (rest : List Char) : Place := p.skip (p.rest.length - rest.length)

def endOfLine (p : Place) : Place := (p.span fun c => !endsLine (some c)).2

end Place

/-- Does a text start with one of the markers around documents, three hyphens or three points? -/
def isMarker (marker : Char) (cs : List Char) : Bool :=
  cs.take 3 == [marker, marker, marker] && isGap cs[3]?

def startsMarker (cs : List Char) : Bool := isMarker '-' cs || isMarker '.' cs

end FieldOrder.Yaml
