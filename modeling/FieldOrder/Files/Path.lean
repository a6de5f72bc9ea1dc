namespace FieldOrder

structure Path where
  /-- Does the path start at the root of all files? -/
  absolute : Bool := false
  names : List String
  deriving Repr, DecidableEq

namespace Path

def splitSlashes : List Char → List (List Char)
  | [] => [[]]
  | c :: rest =>
    if c = '/' then [] :: splitSlashes rest
    else match splitSlashes rest with
      | [] => [[c]]
      | part :: more => (c :: part) :: more

def ofText (s : String) : Path where
  absolute := s.toList.head? == some '/'
  names := ((splitSlashes s.toList).map String.ofList).filter fun n => n != "" && n != "."

def joinNames (names : List String) : String := "/".intercalate names

def text (p : Path) : String :=
  if p.absolute then "/" ++ joinNames p.names
  else if p.names.isEmpty then "." else joinNames p.names

/-- The end of a name from its last point on; a point that starts or ends the name starts none. -/
def extensionOf (name : String) : String :=
  let cs := name.toList
  let after := (cs.reverse.takeWhile (· != '.')).reverse
  let before := cs.length - after.length - 1
  if after.isEmpty || before = 0 || !cs.contains '.' then "" else .ofList ('.' :: after)

end Path

end FieldOrder
