import FieldOrder.Text.CodeTable
import FieldOrder.Text.Case.Table

namespace FieldOrder.Text

def uppercaseSet : CodeSet := .ofRows uppercaseRows
def lowercaseSet : CodeSet := .ofRows lowercaseRows
def titlecaseSet : CodeSet := .ofRows titlecaseRows
def caseIgnorableSet : CodeSet := .ofRows caseIgnorableRows
def toLowerMap : CodeMap := .ofRows toLowerRows
def toUpperMap : CodeMap := .ofRows toUpperRows
def caseFoldMap : CodeMap := .ofRows caseFoldRows

def isUpper (c : Char) : Bool := if c.toNat < 128 then c.isUpper else uppercaseSet.contains c

def isLower (c : Char) : Bool := if c.toNat < 128 then c.isLower else lowercaseSet.contains c

def isCased (c : Char) : Bool := isUpper c || isLower c || titlecaseSet.contains c

def isCaseIgnorable (c : Char) : Bool := caseIgnorableSet.contains c

def lowerChar (c : Char) : List Char :=
  if c.toNat < 128 then [c.toLower] else toLowerMap.apply c

def upperChar (c : Char) : List Char :=
  if c.toNat < 128 then [c.toUpper] else toUpperMap.apply c

def foldChar (c : Char) : List Char :=
  if c.toNat < 128 then [c.toLower] else (caseFoldMap.find? c).getD (lowerChar c)

/-- Does the nearest character that counts for casing have case? -/
def startsCased (cs : List Char) : Bool :=
  match cs.dropWhile isCaseIgnorable with
  | [] => false
  | c :: _ => isCased c

/-- Lowercase of a character between what stands before it, nearest first, and after it: a capital
sigma that ends a word becomes the final sigma. -/
def lowerAt (before : List Char) (c : Char) (after : List Char) : List Char :=
  if c = '\u03a3' then
    [if startsCased before && !startsCased after then '\u03c2' else '\u03c3']
  else lowerChar c

def swapCaseAt (before : List Char) (c : Char) (after : List Char) : List Char :=
  if isUpper c then lowerAt before c after
  else if isLower c then upperChar c
  else [c]

def mapInContext (f : List Char → Char → List Char → List Char) :
    List Char → List Char → List Char
  | _, [] => []
  | before, c :: after => f before c after ++ mapInContext f (c :: before) after

def lower (s : String) : String := .ofList (mapInContext lowerAt [] s.toList)

def swapCase (s : String) : String := .ofList (mapInContext swapCaseAt [] s.toList)

def caseFold (s : String) : String := .ofList (s.toList.flatMap foldChar)

end FieldOrder.Text
