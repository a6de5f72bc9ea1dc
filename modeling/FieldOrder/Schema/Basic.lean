import FieldOrder.Schema.Error

namespace FieldOrder

inductive Loaded where
  | plain (v : Value)
  | list (items : List Loaded)
  | tuple (items : List Loaded)
  /-- No two members are equal. -/
  | set (members : List Loaded)
  /-- Entries in order; no two keys are equal. -/
  | dict (entries : List (Loaded × Loaded))
  | member (choice name : String) (value : Value)
  | record (name : String) (fields : List (String × Loaded))
  deriving Inhabited

namespace Loaded

def null : Loaded := plain .null

def bool (b : Bool) : Loaded := plain (.bool b)

def str (s : String) : Loaded := plain (.str s)

mutual

/-- Are two keys or members of a set the same? -/
def same : Loaded → Loaded → Bool
  | plain a, plain b => a.same b
  | tuple as, tuple bs => sameItems as bs
  | member c a _, member d b _ => c == d && a == b
  | _, _ => false

def sameItems : List Loaded → List Loaded → Bool
  | [], [] => true
  | a :: as, b :: bs => same a b && sameItems as bs
  | _, _ => false

end

mutual

/-- Can the value be a key or a member of a set? -/
def isKey : Loaded → Bool
  | plain v => v.isKey
  | member .. => true
  | tuple items => areKeys items
  | _ => false

def areKeys : List Loaded → Bool
  | [] => true
  | v :: rest => isKey v && areKeys rest

end

mutual

def shown : Loaded → String
  | plain v => v.shown
  | list items => "[" ++ ", ".intercalate (shownItems items) ++ "]"
  | tuple [v] => "(" ++ shown v ++ ",)"
  | tuple items => "(" ++ ", ".intercalate (shownItems items) ++ ")"
  | set [] => "set()"
  | set members => "\x7b" ++ ", ".intercalate (shownItems members) ++ "\x7d"
  | dict entries => "\x7b" ++ ", ".intercalate (shownEntries entries) ++ "\x7d"
  | member choice name value => "<" ++ choice ++ "." ++ name ++ ": " ++ value.shown ++ ">"
  | record name fields => name ++ "(" ++ ", ".intercalate (shownFields fields) ++ ")"

def shownItems : List Loaded → List String
  | [] => []
  | v :: rest => shown v :: shownItems rest

def shownEntries : List (Loaded × Loaded) → List String
  | [] => []
  | (k, v) :: rest => (shown k ++ ": " ++ shown v) :: shownEntries rest

def shownFields : List (String × Loaded) → List String
  | [] => []
  | (name, v) :: rest => (name ++ "=" ++ shown v) :: shownFields rest

end

def pathText : Loaded → String
  | plain v => v.plainText
  | member choice name _ => choice ++ "." ++ name
  | v => v.shown

mutual

/-- Can the value be shown? -/
def isShowable : Loaded → Bool
  | plain v => v.isShowable
  | list items => areShowable items
  | tuple items => areShowable items
  | set members => areShowable members
  | dict entries => entriesShowable entries
  | member _ _ value => value.isShowable
  | record _ fields => fieldsShowable fields

def areShowable : List Loaded → Bool
  | [] => true
  | v :: rest => isShowable v && areShowable rest

def entriesShowable : List (Loaded × Loaded) → Bool
  | [] => true
  | (k, v) :: rest => isShowable k && isShowable v && entriesShowable rest

def fieldsShowable : List (String × Loaded) → Bool
  | [] => true
  | (_, v) :: rest => isShowable v && fieldsShowable rest

end

/-- Can the value, as a key, be part of a path? Members are, by their names. -/
def fitsPath : Loaded → Bool
  | member .. => true
  | v => v.isShowable

end Loaded

mutual

inductive Schema where
  /-- Anything, as it is. -/
  | any
  | null
  | str
  | int
  | float
  | bool
  /-- Something that no value is loaded for. -/
  | unsupported (shown : String)
  | literal (allowed : List Value)
  /-- The first of the variants that accepts the value. -/
  | union (variants : List Schema)
  | list (item : Schema)
  | set (member : Schema)
  | tuple (item : Schema)
  /-- A tuple with a schema for each place. -/
  | fixedTuple (items : List Schema)
  | dict (key value : Schema)
  /-- A finite choice; members with equal values are one, under the first name. -/
  | choice (name : String) (members : List (String × Value))
  /-- A record, which may refuse the values of its fields. -/
  | record (name : String) (fields : List SchemaField)
    (check : List (String × Loaded) → Except LoadFailure Unit := fun _ => .ok ())
  /-- A schema with a remark. -/
  | annotated (schema : Schema)

/-- A field of a record; one that is not settable has its default, or no value. -/
inductive SchemaField where
  | mk (name : String) (schema : Schema) (default? : Option Loaded) (settable : Bool)

end

instance : Inhabited Schema := ⟨.any⟩

namespace SchemaField

def name : SchemaField → String
  | mk name .. => name

def default? : SchemaField → Option Loaded
  | mk _ _ default? _ => default?

def settable : SchemaField → Bool
  | mk _ _ _ settable => settable

end SchemaField

/-- Are two values of one kind and equal, as the values of a literal are told apart? -/
def Value.identical (a b : Value) : Bool := a.kind == b.kind && a.same b

namespace Schema

/-- A literal; values listed twice count once, unless one of them could not be a key. -/
def literalOf (allowed : List Value) : Schema :=
  if allowed.all Value.isKey then
    literal (allowed.foldl (fun seen v => if seen.any v.identical then seen else seen ++ [v]) [])
  else literal allowed

mutual

/-- Are two schemas told to be equal as variants of a union? Records and choices never are. -/
def equal : Schema → Schema → Bool
  | any, any | null, null | str, str | int, int | float, float | bool, bool => true
  | unsupported a, unsupported b => a == b
  | literal as, literal bs =>
    (as.all fun a => bs.any a.identical) && bs.all fun b => as.any b.identical
  | union as, union bs => equalEach as bs
  | list a, list b | set a, set b | tuple a, tuple b | annotated a, annotated b => equal a b
  | fixedTuple as, fixedTuple bs => equalEach as bs
  | dict k v, dict l w => equal k l && equal v w
  | _, _ => false

def equalEach : List Schema → List Schema → Bool
  | [], [] => true
  | a :: as, b :: bs => equal a b && equalEach as bs
  | _, _ => false

end

/-- The variants of a union, those of unions among them in their place. -/
def flatten : List Schema → List Schema
  | [] => []
  | union variants :: rest => variants ++ flatten rest
  | s :: rest => s :: flatten rest

/-- A union without repeated variants; of one variant it is that variant. -/
def unionOf (variants : List Schema) : Schema :=
  let distinct := (flatten variants).foldl
    (fun seen s => if seen.any s.equal then seen else seen ++ [s]) []
  match distinct with
  | [s] => s
  | variants => union variants

def optional (s : Schema) : Schema := unionOf [s, null]

/-- Members of a choice under the first name for each value. -/
def distinctMembers (members : List (String × Value)) : List (String × Value) :=
  members.foldl (fun seen m => if seen.any (·.2.same m.2) then seen else seen ++ [m]) []

/-- The member that a raw value names: by its value, else by its name, which may be a second one
for the same value. -/
def findMember? (members : List (String × Value)) (v : Value) : Option (String × Value) :=
  let byValue (w : Value) := (distinctMembers members).find? (·.2.same w)
  match byValue v with
  | some m => some m
  | none =>
    match v with
    | .str name => (members.lookup name).bind byValue
    | _ => none

end Schema

end FieldOrder
