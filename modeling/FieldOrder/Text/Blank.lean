import FieldOrder.Text.CodeTable

namespace FieldOrder.Text

/-- White space of every kind, the separator controls included. -/
def isBlank (c : Char) : Bool :=
  let n := c.toNat
  (9 ≤ n && n ≤ 13) || (28 ≤ n && n ≤ 32) || n == 0x85 || n == 0xA0 || n == 0x1680 ||
    (0x2000 ≤ n && n ≤ 0x200A) || n == 0x2028 || n == 0x2029 || n == 0x202F || n == 0x205F ||
    n == 0x3000

def trimLeft (s : String) : String := .ofList (s.toList.dropWhile isBlank)

def trimRight (s : String) : String := .ofList (s.toList.reverse.dropWhile isBlank).reverse

def trim (s : String) : String := trimRight (trimLeft s)

def isLineEnd (c : Char) : Bool :=
  let n := c.toNat
  (10 ≤ n && n ≤ 13) || (28 ≤ n && n ≤ 30) || n == 0x85 || n == 0x2028 || n == 0x2029

/-- The lines of a text without their ends; a carriage return and the line feed after it are one
end, and an end that closes the text opens no further line. -/
def lines : List Char → List (List Char)
  | [] => []
  | c :: rest =>
    if isLineEnd c then
      if c = '\r' && rest.head? = some '\n' then
        match lines rest with
        | [] => [[]]
        | _ :: more => [] :: more
      else [] :: lines rest
    else match lines rest, rest with
      | _, [] => [[c]]
      | [], _ => [[c]]
      | line :: more, _ => (c :: line) :: more

/-- Every line end of the forms `\r\n` and `\r` becomes `\n`. -/
def unifyLineEnds : List Char → List Char
  | [] => []
  | '\r' :: '\n' :: rest => '\n' :: unifyLineEnds rest
  | c :: rest => (if c = '\r' then '\n' else c) :: unifyLineEnds rest

end FieldOrder.Text
