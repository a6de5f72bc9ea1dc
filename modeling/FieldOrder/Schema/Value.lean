import FieldOrder.Number.Shortest
import FieldOrder.Text.Quoted

namespace FieldOrder

/-- Kinds of values that schemas ask for by name. -/
def plainKinds : List String := ["str", "int", "float", "bool"]

/-- A value of a kind that no schema asks for. -/
structure Foreign where
  kind : String
  kind_not_plain : kind ∉ plainKinds := by decide
  shown : String
  isEmpty : Bool := false
  isKey : Bool := true
  /-- Can it be shown? -/
  isShowable : Bool := true
  /-- Its place among the values that it is compared with, which are those of one class. -/
  rank? : Option (String × List Int) := none

namespace Foreign

def same (a b : Foreign) : Bool :=
  match a.rank?, b.rank? with
  | some r, some s => r == s
  | none, none => a.kind == b.kind && a.shown == b.shown
  | _, _ => false

def less? (a b : Foreign) : Option Bool :=
  match a.rank?, b.rank? with
  | some (c, m), some (d, n) => if c = d then some (m < n) else none
  | _, _ => none

end Foreign

inductive Value where
  | null
  | bool (b : Bool)
  | int (n : Int)
  | float (x : Float)
  | str (s : String)
  | list (items : List Value)
  /-- Entries in order; no two keys are equal. -/
  | map (entries : List (Value × Value))
  /-- A list in the place of a key. -/
  | tuple (items : List Value)
  | other (v : Foreign)
  deriving Inhabited

namespace Value

def kind : Value → String
  | null => "NoneType"
  | bool _ => "bool"
  | int _ => "int"
  | float _ => "float"
  | str _ => "str"
  | list _ => "list"
  | map _ => "dict"
  | tuple _ => "tuple"
  | other v => v.kind

/-- The number that a value is, a whole one wherever that is its kind. -/
def number? : Value → Option (Int ⊕ Float)
  | bool b => some (.inl (if b then 1 else 0))
  | int n => some (.inl n)
  | float x => some (.inr x)
  | _ => none

def sameNumber : Int ⊕ Float → Int ⊕ Float → Bool
  | .inl a, .inl b => a == b
  | .inl a, .inr x => (Number.Binary.ofFloat x).compareInt? a == some .eq
  | .inr x, .inl a => (Number.Binary.ofFloat x).compareInt? a == some .eq
  | .inr x, .inr y => x == y

mutual

def same : Value → Value → Bool
  | null, null => true
  | str a, str b => a == b
  | list as, list bs => sameItems as bs
  | tuple as, tuple bs => sameItems as bs
  | map as, map bs => as.length == bs.length && sameEntries as bs
  | other a, other b => a.same b
  | a, b =>
    match a.number?, b.number? with
    | some m, some n => sameNumber m n
    | _, _ => false

def sameItems : List Value → List Value → Bool
  | [], [] => true
  | a :: as, b :: bs => same a b && sameItems as bs
  | _, _ => false

def sameEntries : List (Value × Value) → List (Value × Value) → Bool
  | [], _ => true
  | (k, v) :: rest, bs => (bs.any fun (l, w) => same k l && same v w) && sameEntries rest bs

end

mutual

def shown : Value → String
  | null => "None"
  | bool b => if b then "True" else "False"
  | int n => toString n
  | float x => Number.floatText x
  | str s => Text.quoted s
  | list items => "[" ++ ", ".intercalate (shownItems items) ++ "]"
  | map entries => "\x7b" ++ ", ".intercalate (shownEntries entries) ++ "\x7d"
  | tuple [v] => "(" ++ shown v ++ ",)"
  | tuple items => "(" ++ ", ".intercalate (shownItems items) ++ ")"
  | other v => v.shown

def shownItems : List Value → List String
  | [] => []
  | v :: rest => shown v :: shownItems rest

def shownEntries : List (Value × Value) → List String
  | [] => []
  | (k, v) :: rest => (shown k ++ ": " ++ shown v) :: shownEntries rest

end

/-- Whole numbers of more digits are not shown. -/
def digitLimit : Nat := 4300

mutual

def isShowable : Value → Bool
  -- A power of a power: a single one with so large an exponent is not evaluated in proofs.
  | int n => n.natAbs < ((10 : Nat).pow 100).pow (digitLimit / 100)
  | list items => areShowable items
  | map entries => entriesShowable entries
  | tuple items => areShowable items
  | other v => v.isShowable
  | _ => true

def areShowable : List Value → Bool
  | [] => true
  | v :: rest => isShowable v && areShowable rest

def entriesShowable : List (Value × Value) → Bool
  | [] => true
  | (k, v) :: rest => isShowable k && isShowable v && entriesShowable rest

end

def shownList (vs : List Value) : String := (list vs).shown

/-- A value as part of a path: text as it is. -/
def plainText : Value → String
  | str s => s
  | v => v.shown

mutual

def isKey : Value → Bool
  | list _ => false
  | map _ => false
  | tuple items => areKeys items
  | other v => v.isKey
  | _ => true

def areKeys : List Value → Bool
  | [] => true
  | v :: rest => isKey v && areKeys rest

end

def lessNumber : Int ⊕ Float → Int ⊕ Float → Bool
  | .inl a, .inl b => a < b
  | .inl a, .inr y => (Number.Binary.ofFloat y).compareInt? a == some .gt
  | .inr x, .inl b => (Number.Binary.ofFloat x).compareInt? b == some .lt
  | .inr x, .inr y => x < y

mutual

/-- Is one key less than another? Not all keys have an order. -/
def less? : Value → Value → Option Bool
  | str a, str b => some (a < b)
  | tuple as, tuple bs => lessItems? as bs
  | other a, other b => a.less? b
  | a, b =>
    match a.number?, b.number? with
    | some m, some n => some (lessNumber m n)
    | _, _ => none

/-- The first items that differ decide. -/
def lessItems? : List Value → List Value → Option Bool
  | _, [] => some false
  | [], _ :: _ => some true
  | a :: as, b :: bs => if same a b then lessItems? as bs else less? a b

end

def get? (v : Value) (key : String) : Option Value :=
  match v with
  | map entries => (entries.find? fun (k, _) => k.same (str key)).map (·.2)
  | _ => none

end Value

/-- Puts an entry into a list of entries: at the place of the equal key, or at the end. -/
def putEntry {α β : Type} (same : α → α → Bool) (key : α) (value : β) :
    List (α × β) → List (α × β)
  | [] => [(key, value)]
  | (k, v) :: rest =>
    if same k key then (k, value) :: rest else (k, v) :: putEntry same key value rest

end FieldOrder
