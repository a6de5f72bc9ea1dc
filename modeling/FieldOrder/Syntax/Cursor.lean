import FieldOrder.Syntax.Node

namespace FieldOrder

/-- A node with its parent, where it is known. -/
structure Site where
  node : Node
  parent : Option Node := none

namespace Node

mutual

/-- A node and its descendants with their parents, each before what is below it. -/
def sites (parent : Option Node) : Node → List Site
  | mk info children => ⟨mk info children, parent⟩ :: sitesBelow (mk info children) children

def sitesBelow (parent : Node) : List Node → List Site
  | [] => []
  | n :: rest => n.sites (some parent) ++ sitesBelow parent rest

end

end Node

/-- The node under the cursor, and for each node above it, nearest first, that node with the
siblings that are still to come below it. -/
structure Cursor where
  node : Node
  above : List (Node × List Node) := []

namespace Cursor

def site (c : Cursor) : Site := ⟨c.node, c.above.head?.map (·.1)⟩

def firstChild? (c : Cursor) : Option Cursor :=
  match c.node.children with
  | [] => none
  | child :: rest => some ⟨child, (c.node, rest) :: c.above⟩

def nextSibling? (c : Cursor) : Option Cursor :=
  match c.above with
  | (parent, sibling :: rest) :: above => some ⟨sibling, (parent, rest) :: above⟩
  | _ => none

def parent? (c : Cursor) : Option Cursor :=
  match c.above with
  | (parent, _) :: above => some ⟨parent, above⟩
  | [] => none

/-- Moves left on the way back up: twice each node that is still to come, and once each level. -/
def pending : List (Node × List Node) → Nat
  | [] => 0
  | (_, siblings) :: above => 2 * Node.sizes siblings + 1 + pending above

/-- Moves left before the walk ends; `descended` says that all below the node has been seen. -/
def movesLeft (c : Cursor) (descended : Bool) : Nat :=
  (if descended then 0 else 2 * c.node.size - 1) + pending c.above

theorem one_le_size (n : Node) : 1 ≤ n.size := by
  cases n
  simp only [Node.size]
  omega

theorem movesLeft_descended (c : Cursor) : c.movesLeft true < c.movesLeft false := by
  have := one_le_size c.node
  simp [movesLeft]
  omega

theorem movesLeft_firstChild {c d : Cursor} (h : c.firstChild? = some d) :
    d.movesLeft false < c.movesLeft false := by
  obtain ⟨⟨info, children⟩, above⟩ := c
  cases children with
  | nil => simp [firstChild?, Node.children] at h
  | cons child rest =>
    simp only [firstChild?, Node.children, Option.some.injEq] at h
    subst h
    have := one_le_size child
    simp only [movesLeft, pending, Node.size, Node.sizes]
    simp
    omega

theorem movesLeft_nextSibling {c d : Cursor} (h : c.nextSibling? = some d) :
    d.movesLeft false < c.movesLeft true := by
  obtain ⟨node, above⟩ := c
  match above, h with
  | (parent, sibling :: rest) :: above, h =>
    simp only [nextSibling?, Option.some.injEq] at h
    subst h
    have := one_le_size sibling
    simp only [movesLeft, pending, Node.sizes]
    simp
    omega

theorem movesLeft_parent {c d : Cursor} (h : c.parent? = some d) :
    d.movesLeft true < c.movesLeft true := by
  obtain ⟨node, above⟩ := c
  match above, h with
  | (parent, rest) :: above, h =>
    simp only [parent?, Option.some.injEq] at h
    subst h
    simp only [movesLeft, pending]
    simp

/-- The sites that a cursor visits until it is back where it started. -/
def walk (c : Cursor) (descended : Bool) : List Site :=
  match descended with
  | false =>
    c.site :: match _ : c.firstChild? with
      | some d => walk d false
      | none => walk c true
  | true =>
    match _ : c.nextSibling? with
    | some d => walk d false
    | none =>
      match _ : c.parent? with
      | some d => walk d true
      | none => []
termination_by c.movesLeft descended
decreasing_by
  · exact movesLeft_firstChild (by assumption)
  · exact movesLeft_descended c
  · exact movesLeft_nextSibling (by assumption)
  · exact movesLeft_parent (by assumption)

end Cursor

/-- The node and its descendants in the order in which a cursor started on it visits them. -/
def Node.walk (n : Node) : List Site := Cursor.walk ⟨n, []⟩ false

end FieldOrder
