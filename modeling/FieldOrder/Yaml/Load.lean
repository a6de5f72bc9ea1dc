import FieldOrder.Yaml.Node
import FieldOrder.Yaml.Plain
import FieldOrder.Yaml.Token.Lexer

namespace FieldOrder.Yaml

def Fault.message : Fault → String
  | malformed => "malformed"
  | noCharacter => "chr() arg not in range(0x110000)"
  | notWhole base text =>
    "invalid literal for int() with base " ++ toString base ++ ": " ++ Text.quoted text
  | notFloat text => "could not convert string to float: " ++ Text.quoted text
  | tooLong digits =>
    "Exceeds the limit (" ++ toString Value.digitLimit ++ " digits) for integer string " ++
      "conversion: value has " ++ toString digits ++ " digits; use sys.set_int_max_str_digits() " ++
      "to increase the limit"
  | emptyNumber => "string index out of range"
  | notTruth => "no truth value"
  | noDate cause => cause
  | notAKey => "not a key"

/-- The values of the names that were given so far, the latest first. -/
abbrev Names := List (String × Value)

abbrev Loader := StateT Names (Except Fault)

namespace Loader

def name (p : Properties) (v : Value) : Loader Unit :=
  match p.anchor with
  | some a => modify fun names => (a, v) :: names
  | none => return

def named (a : String) : Loader Value := do
  match (← get).lookup a with
  | some v => return v
  | none => throw .malformed

/-- A list that stands inside itself. -/
def recursiveList : Value := .other { kind := "list", shown := "[...]", isKey := false }

def recursiveMap : Value := .other { kind := "dict", shown := "\x7b...\x7d", isKey := false }

def isCollectionTag (tag? : Option String) (name : String) : Bool :=
  match tag? with
  | none => true
  | some t => t = "!" || t = "tag:yaml.org,2002:" ++ name

def isSetTag (tag? : Option String) : Bool := tag? = some "tag:yaml.org,2002:set"

/-- The kind of a scalar: the one its tag names, or else by its form. -/
def kind (p : Properties) (s : String) (plain : Bool) : Except Fault ScalarKind :=
  match p.tag with
  | none => .ok (if plain then plainKind s else .text)
  | some "!" => .ok (plainKind s)
  | some t =>
    match ScalarKind.ofTag? t with
    | some k => .ok k
    | none => .error .malformed

/-- A value in the place of a key: a list becomes a tuple, and what has parts that can change is
no key. -/
def asKey (v : Value) : Except Fault Value :=
  match v with
  | .list items => if (Value.tuple items).isKey then .ok (.tuple items) else .error .notAKey
  | v => if v.isKey then .ok v else .error .malformed

/-- Entries of which none has the key of another. -/
def distinct (entries : List (Value × Value)) : Except Fault (List (Value × Value)) :=
  entries.foldlM (fun done (k, v) =>
    if done.any fun (l, _) => l.same k then .error .malformed else .ok (done ++ [(k, v)])) []

/-- Entries of which the last for a key counts, in the place of the first. -/
def overridden (entries : List (Value × Value)) : List (Value × Value) :=
  entries.foldl (fun done (k, v) => putEntry Value.same k v done) []

/-- The entries that a named value gives to a mapping it is merged into: of several mappings the
first has the last word. -/
def entriesOf (v : Value) : Except Fault (List (Value × Value)) :=
  match v with
  | .map entries => .ok entries
  | .list items => do
    let parts ← items.mapM fun
      | .map entries => .ok entries
      | _ => .error .malformed
    return parts.reverse.flatten
  | _ => .error .malformed

def mappingOf (merged own : List (Value × Value)) : Except Fault (List (Value × Value)) :=
  if merged.isEmpty then distinct own else .ok (overridden (merged ++ own))

def tagged (p : Properties) (entries : List (Value × Value)) : Except Fault Value :=
  if isCollectionTag p.tag "map" then .ok (.map entries)
  else if isSetTag p.tag then
    let members := entries.map (·.1)
    .ok (.other {
      kind := "set", isEmpty := members.isEmpty, isKey := false
      shown := if members.isEmpty then "set()"
        else "\x7b" ++ ", ".intercalate (members.map (·.shown)) ++ "\x7d"
      isShowable := members.all (·.isShowable) })
  else .error .malformed

def isMerge : Node → Bool
  | .scalar p s plain => (kind p s plain).toOption == some .merge
  | _ => false

/-- The key of a default value is text where a key stands. -/
def isDefault : Node → Bool
  | .scalar p s plain => (kind p s plain).toOption == some .default
  | _ => false

mutual

def value : Node → Loader Value
  | .alias a => named a
  | .scalar p s plain => do
    let v ← (← kind p s plain).read s
    name p v
    return v
  | .sequence p items => do
    if !isCollectionTag p.tag "seq" then throw .malformed
    name p recursiveList
    let v := Value.list (← values items)
    name p v
    return v
  | .mapping p entries => do
    name p recursiveMap
    let (merged, own) ← parts entries
    let v ← tagged p (← mappingOf merged own)
    name p v
    return v

def values : List Node → Loader (List Value)
  | [] => return []
  | n :: rest => return (← value n) :: (← values rest)

def parts : List (Node × Node) → Loader (List (Value × Value) × List (Value × Value))
  | [] => return ([], [])
  | (k, v) :: rest => do
    if isMerge k then
      let found ← merging v
      let (more, own) ← parts rest
      if !found.isEmpty && rest.any fun (k, _) => isMerge k then throw .malformed
      return (found ++ more, own)
    else
      let key ← if isDefault k then pure (Value.str "=") else asKey (← value k)
      let v ← value v
      let (merged, own) ← parts rest
      return (merged, (key, v) :: own)

def merging : Node → Loader (List (Value × Value))
  | .mapping p entries => do
    let (merged, own) ← parts entries
    name p (.map (overridden (merged ++ own)))
    return merged ++ own
  | .sequence p items => do
    let found ← mergingEach items
    name p (.list (found.map fun entries => .map (overridden entries)))
    return found.reverse.flatten
  | .alias a => do entriesOf (← named a)
  | .scalar .. => throw .malformed

def mergingEach : List Node → Loader (List (List (Value × Value)))
  | [] => return []
  | .sequence .. :: _ => throw .malformed
  | .alias a :: rest => do
    match ← named a with
    | .map entries => return entries :: (← mergingEach rest)
    | _ => throw .malformed
  | n :: rest => return (← merging n) :: (← mergingEach rest)

end

end Loader

/-- The value of a text; null if it holds none. -/
def load (text : List Char) : Except Fault Value := do
  match Node.ofTokens? (← Token.ofText text) with
  | none => throw .malformed
  | some none => return .null
  | some (some root) => (Loader.value root).run' []

end FieldOrder.Yaml
