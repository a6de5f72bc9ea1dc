import FieldOrder.Number.Shortest

namespace FieldOrder

inductive Json where
  | null
  | bool (b : Bool)
  | int (n : Int)
  | float (x : Float)
  | str (s : String)
  | arr (items : List Json)
  | obj (fields : List (String × Json))
  deriving Inhabited

namespace Json

def hexDigit (n : Nat) : Char := Char.ofNat (if n < 10 then 48 + n else 87 + n)

/-- A character between quotes: controls are escaped, everything else beyond ASCII stays. -/
def escape (c : Char) : List Char :=
  if c = '"' then ['\\', '"']
  else if c = '\\' then ['\\', '\\']
  else if c = '\n' then ['\\', 'n']
  else if c = '\r' then ['\\', 'r']
  else if c = '\t' then ['\\', 't']
  else if c.toNat = 8 then ['\\', 'b']
  else if c.toNat = 12 then ['\\', 'f']
  else if c.toNat < 32 then
    ['\\', 'u', '0', '0', hexDigit (c.toNat / 16), hexDigit (c.toNat % 16)]
  else [c]

def quote (s : String) : String := .ofList ('"' :: s.toList.flatMap escape ++ ['"'])

def floatText (x : Float) : String :=
  match Number.Binary.ofFloat x with
  | .notANumber => "NaN"
  | .infinite negative => if negative then "-Infinity" else "Infinity"
  | _ => Number.floatText x

/-- How the parts of a value are set: what separates them, and what follows a key. -/
structure Layout where
  /-- What stands before a part at a depth, and before the closing bracket at the depth above. -/
  lineBreak : Nat → String
  separator : String
  keyEnd : String

def Layout.indented : Layout where
  lineBreak depth := "\n" ++ "".pushn ' ' (2 * depth)
  separator := ","
  keyEnd := ": "

def Layout.compact : Layout where
  lineBreak _ := ""
  separator := ","
  keyEnd := ":"

/-- Parts between brackets; nothing stands between the brackets of no parts. -/
def enclose (l : Layout) (depth : Nat) (opening closing : String) (parts : List String) : String :=
  if parts.isEmpty then opening ++ closing
  else
    opening ++ l.lineBreak (depth + 1) ++
      (l.separator ++ l.lineBreak (depth + 1)).intercalate parts ++ l.lineBreak depth ++ closing

mutual

def render (l : Layout) (depth : Nat) : Json → String
  | null => "null"
  | bool b => if b then "true" else "false"
  | int n => toString n
  | float x => floatText x
  | str s => quote s
  | arr items => enclose l depth "[" "]" (renderItems l (depth + 1) items)
  | obj fields => enclose l depth "\x7b" "\x7d" (renderFields l (depth + 1) fields)

def renderItems (l : Layout) (depth : Nat) : List Json → List String
  | [] => []
  | j :: rest => render l depth j :: renderItems l depth rest

def renderFields (l : Layout) (depth : Nat) : List (String × Json) → List String
  | [] => []
  | (key, j) :: rest => (quote key ++ l.keyEnd ++ render l depth j) :: renderFields l depth rest

end

/-- The document that reports write: indented, with a line feed at its end. -/
def document (j : Json) : String := render .indented 0 j ++ "\n"

def compact (j : Json) : String := render .compact 0 j

end Json

end FieldOrder
