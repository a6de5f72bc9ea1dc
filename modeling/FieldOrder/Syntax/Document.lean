import FieldOrder.Syntax.Cursor
import FieldOrder.Text.Utf8
import FieldOrder.Text.Case
import FieldOrder.Text.Slice

namespace FieldOrder

/-- The grammars that texts are parsed with. -/
inductive Grammar where
  | typeScript
  | tsx
  | javaScript
  deriving Repr, DecidableEq

namespace Grammar

def normalizeExtension (ext : String) : String :=
  .ofList ((Text.lower ext).toList.dropWhile (· == '.'))

/-- The grammar for an extension; TSX where none is known. -/
def ofExtension (ext : String) : Grammar :=
  let known := [("ts", typeScript), ("mts", typeScript), ("cts", typeScript), ("tsx", tsx),
    ("js", javaScript), ("jsx", javaScript), ("mjs", javaScript), ("cjs", javaScript)]
  (known.lookup (normalizeExtension ext)).getD tsx

end Grammar

/-- A text and its tree; without a tree it was not parsed. -/
structure Document where
  text : String
  tree : Option Node

inductive DocumentError where
  | notParsed
  | notText (e : Text.Utf8Error)
  deriving Repr, DecidableEq

def DocumentError.message : DocumentError → String
  | notParsed => "Document not parsed"
  | notText e => e.message

namespace Document

def chars (d : Document) : List Char := d.text.toList

def bytes (d : Document) : List UInt8 := Text.encode d.chars

def root (d : Document) : Except DocumentError Node :=
  match d.tree with
  | some node => .ok node
  | none => .error .notParsed

/-- A document that was not parsed counts as erroneous. -/
def hasError (d : Document) : Bool := (d.tree.map (·.hasError)).getD true

/-- For each byte the index of the character it belongs to. -/
def charTable : Nat → List Char → List Nat
  | _, [] => []
  | i, c :: rest => List.replicate (Text.utf8Width c) i ++ charTable (i + 1) rest

/-- The character position of a byte position: inside a character that before it, beyond either end
the end itself. -/
def charOfByte (d : Document) (p : Int) : Nat :=
  if p ≤ 0 then 0
  else if d.bytes.length ≤ p then d.chars.length
  else if d.bytes.length = d.chars.length then p.toNat
  else (charTable 0 d.chars).getD p.toNat 0

/-- The text of a node; it fails where the node cuts a character in two. -/
def nodeText (d : Document) (n : Node) : Except DocumentError String :=
  match Text.decode ((d.bytes.take n.stop).drop n.start) with
  | .ok cs => .ok (.ofList cs)
  | .error e => .error (.notText e)

def nodeRange (d : Document) (n : Node) : Nat × Nat := (d.charOfByte n.start, d.charOfByte n.stop)

def rowOfByte (d : Document) (p : Nat) : Nat := (d.bytes.take p).count 10

def nodeRows (d : Document) (n : Node) : Nat × Nat := (d.rowOfByte n.start, d.rowOfByte n.stop)

def lineStarts (d : Document) : List Nat :=
  0 :: (d.chars.zipIdx.filter (·.1 == '\n')).map (·.2 + 1)

/-- The last index between `lo` and `hi` whose entry is at most `k`, `lo` if there is none; by
bisection, as the entries ascend. -/
def lastAtMost (starts : List Nat) (k : Int) (lo hi : Nat) : Nat :=
  if lo < hi then
    let middle := (lo + hi + 1) / 2
    if (starts.getD middle 0 : Int) ≤ k then lastAtMost starts k middle hi
    else lastAtMost starts k lo (middle - 1)
  else lo
termination_by hi - lo

/-- Line and column of a character position, both counted from 1. -/
def lineColumn (d : Document) (k : Int) : Int × Int :=
  let line := lastAtMost d.lineStarts k 0 (d.lineStarts.length - 1)
  (line + 1, k - d.lineStarts.getD line 0 + 1)

end Document

end FieldOrder
