import FieldOrder.Choice
import FieldOrder.Pattern.Parser

namespace FieldOrder

inductive CallbackMode where
  | prefixes
  | patterns
  deriving Repr, DecidableEq

instance : Choice CallbackMode where
  name := "CallbackMode"
  words := [("prefixes", .prefixes), ("patterns", .patterns)]
  word
    | .prefixes => "prefixes"
    | .patterns => "patterns"

inductive CallbackRule where
  | prefixes (words : List String)
  | patterns (patterns : List Pattern)

def CallbackRule.mode : CallbackRule → CallbackMode
  | prefixes _ => .prefixes
  | patterns _ => .patterns

structure Classifier where
  reserved : List String := []
  callbacks : CallbackRule := .prefixes []

inductive ClassifierError where
  | patternsGivenToPrefixes
  | prefixesGivenToPatterns
  | pattern (e : Pattern.Error)
  deriving Repr, DecidableEq

def ClassifierError.message : ClassifierError → String
  | patternsGivenToPrefixes => "callback patterns given to a prefix-mode classifier"
  | prefixesGivenToPatterns => "callback prefixes given to a pattern-mode classifier"
  | pattern e => e.message

def capitalFollows : List Char → List Char → Bool
  | [], c :: _ => Text.isUpper c
  | p :: ps, c :: cs => p == c && capitalFollows ps cs
  | _, [] => false

/-- Endings that make a name a callback wherever prefixes are in use. -/
def callbackSuffixes : List String := ["Callback", "Handler"]

namespace Classifier

def withPrefixes (reserved words : List String) : Classifier := ⟨reserved, .prefixes words⟩

def withPatterns (reserved sources : List String) : Except Pattern.Error Classifier := do
  return ⟨reserved, .patterns (← sources.mapM Pattern.ofString)⟩

/-- A classifier from all its parts, of which the mode admits only some. -/
def ofParts (mode : CallbackMode) (reserved words sources : List String) :
    Except ClassifierError Classifier := do
  let patterns ← (sources.mapM Pattern.ofString).mapError .pattern
  match mode with
  | .prefixes =>
    if !patterns.isEmpty then throw .patternsGivenToPrefixes
    return ⟨reserved, .prefixes words⟩
  | .patterns =>
    if !words.isEmpty then throw .prefixesGivenToPatterns
    return ⟨reserved, .patterns patterns⟩

def isReserved (c : Classifier) (name : String) : Bool := c.reserved.contains name

def isCallback (c : Classifier) (name : String) : Bool :=
  match c.callbacks with
  | .patterns patterns => patterns.any (·.foundIn name)
  | .prefixes words =>
    words.any (fun w => capitalFollows w.toList name.toList) ||
      callbackSuffixes.any fun s => s.toList.isSuffixOf name.toList

end Classifier

end FieldOrder
