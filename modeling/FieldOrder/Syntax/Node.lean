namespace FieldOrder

structure NodeInfo where
  kind : String
  field : Option String
  start : Nat
  stop : Nat
  named : Bool
  hasError : Bool
  deriving Repr, DecidableEq

inductive Node where
  | mk (info : NodeInfo) (children : List Node)

namespace Node

def info : Node → NodeInfo
  | mk info _ => info

def children : Node → List Node
  | mk _ children => children

def kind (n : Node) : String := n.info.kind

def start (n : Node) : Nat := n.info.start

def stop (n : Node) : Nat := n.info.stop

def isNamed (n : Node) : Bool := n.info.named

def hasError (n : Node) : Bool := n.info.hasError

def namedChildren (n : Node) : List Node := n.children.filter (·.isNamed)

def child? (n : Node) (field : String) : Option Node :=
  n.children.find? fun c => c.info.field == some field

mutual

def size : Node → Nat
  | mk _ children => 1 + sizes children

def sizes : List Node → Nat
  | [] => 0
  | n :: rest => n.size + sizes rest

end

mutual

/-- A node and all its descendants, each before what is below it. -/
def preorder : Node → List Node
  | mk info children => mk info children :: preorders children

def preorders : List Node → List Node
  | [] => []
  | n :: rest => n.preorder ++ preorders rest

end

/-- Reads a tree off its nodes in preorder with their depths: a node is a child of the nearest one
before it that lies one level higher. -/
def ofPreorder? (nodes : List (Nat × NodeInfo)) : Option Node :=
  match nodes with
  | [] => none
  | (depth, info) :: rest => some (mk info (forest (depth + 1) rest.length rest).1)
where
  /-- The trees at a depth that stand at the head of the list, and what follows them. -/
  forest (depth : Nat) : Nat → List (Nat × NodeInfo) → List Node × List (Nat × NodeInfo)
    | 0, rest => ([], rest)
    | _, [] => ([], [])
    | fuel + 1, (d, info) :: rest =>
      if d < depth then ([], (d, info) :: rest)
      else
        let (below, after) := forest (depth + 1) fuel rest
        let (siblings, after) := forest depth fuel after
        (mk info below :: siblings, after)

end Node

end FieldOrder
