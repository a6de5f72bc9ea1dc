import FieldOrder.Syntax.Cursor
import FieldOrder.Proofs.Syntax.WellFormed

namespace FieldOrder

namespace Node

theorem sites_eq (parent : Option Node) (n : Node) :
    n.sites parent = ⟨n, parent⟩ :: sitesBelow n n.children := by
  obtain ⟨info, children⟩ := n
  rw [sites, Node.children]

theorem mem_sitesBelow {s : Site} {parent : Node} {ns : List Node} :
    s ∈ sitesBelow parent ns ↔ ∃ n ∈ ns, s ∈ n.sites (some parent) := by
  induction ns with
  | nil => simp [sitesBelow]
  | cons n ns ih => simp [sitesBelow, ih]

theorem map_node_sites (parent : Option Node) (n : Node) :
    (n.sites parent).map (·.node) = n.preorder := by
  induction n using childInduction generalizing parent with
  | node n ih =>
    have below (ns : List Node) (h : ∀ c ∈ ns, c ∈ n.children) :
        (sitesBelow n ns).map (·.node) = preorders ns := by
      induction ns with
      | nil => rfl
      | cons c ns later =>
        rw [sitesBelow, List.map_append, ih c (h c List.mem_cons_self) (some n),
          later fun c hc => h c (List.mem_cons_of_mem _ hc), preorders]
    rw [sites_eq, List.map_cons, below n.children fun _ => id]
    obtain ⟨info, cs⟩ := n
    rw [preorder, children]

/-- Sites below a node have their parents there too. -/
theorem mem_preorder_of_mem_sites {s : Site} {parent : Option Node} {n : Node}
    (h : s ∈ n.sites parent) :
    s.node ∈ n.preorder ∧ (s.parent = parent ∨ ∃ p ∈ n.preorder, s.parent = some p) := by
  induction n using childInduction generalizing parent with
  | node n ih =>
    rw [sites_eq] at h
    rcases List.mem_cons.mp h with rfl | h
    · exact ⟨n.mem_preorder_self, .inl rfl⟩
    · obtain ⟨c, hc, h⟩ := mem_sitesBelow.mp h
      have below := mem_preorder_of_mem_children hc
      obtain ⟨inChild, above⟩ := ih c hc h
      refine ⟨mem_preorder_trans inChild below, .inr ?_⟩
      rcases above with above | ⟨p, hp, above⟩
      · exact ⟨n, n.mem_preorder_self, above⟩
      · exact ⟨p, mem_preorder_trans hp below, above⟩

end Node

namespace Cursor

theorem walk_false (n : Node) (above : List (Node × List Node)) :
    walk ⟨n, above⟩ false = ⟨n, above.head?.map (·.1)⟩ :: match n.children with
      | [] => walk ⟨n, above⟩ true
      | child :: rest => walk ⟨child, (n, rest) :: above⟩ false := by
  rw [walk, site]
  congr 1
  split
  · next d h =>
    cases hc : n.children with
    | nil => simp [firstChild?, hc] at h
    | cons child rest =>
      simp only [firstChild?, hc, Option.some.injEq] at h
      rw [← h]
  · next h =>
    cases hc : n.children with
    | nil => rfl
    | cons child rest => simp [firstChild?, hc] at h

theorem walk_true_sibling (n parent sibling : Node) (rest : List Node)
    (above : List (Node × List Node)) :
    walk ⟨n, (parent, sibling :: rest) :: above⟩ true =
      walk ⟨sibling, (parent, rest) :: above⟩ false := by
  conv => lhs; rw [walk]
  rfl

theorem walk_true_parent (n parent : Node) (above : List (Node × List Node)) :
    walk ⟨n, (parent, []) :: above⟩ true = walk ⟨parent, above⟩ true := by
  rw [walk]
  rfl

theorem walk_true_nil (n : Node) : walk ⟨n, []⟩ true = [] := by
  rw [walk]
  rfl

/-- A cursor visits what is below its node and then goes on from there. -/
theorem walk_eq_sites (n : Node) (above : List (Node × List Node)) :
    walk ⟨n, above⟩ false = n.sites (above.head?.map (·.1)) ++ walk ⟨n, above⟩ true := by
  induction n using Node.childInduction generalizing above with
  | node n ih =>
    -- The cursor is at a child with siblings to come; the induction is on these.
    have siblings (first : Node) (rest : List Node)
        (visited : ∀ c ∈ first :: rest, ∀ above, walk ⟨c, above⟩ false =
          c.sites (above.head?.map (·.1)) ++ walk ⟨c, above⟩ true) :
        walk ⟨first, (n, rest) :: above⟩ false =
          Node.sitesBelow n (first :: rest) ++ walk ⟨n, above⟩ true := by
      induction rest generalizing first with
      | nil =>
        rw [visited first (by simp), walk_true_parent]
        simp [Node.sitesBelow]
      | cons second rest later =>
        rw [visited first (by simp), walk_true_sibling,
          later second fun c hc => visited c (List.mem_cons_of_mem _ hc), ← List.append_assoc]
        rfl
    rw [walk_false, Node.sites_eq]
    cases hc : n.children with
    | nil => rfl
    | cons first rest =>
      change _ :: walk ⟨first, (n, rest) :: above⟩ false = _
      rw [siblings first rest (hc ▸ ih)]
      rfl

end Cursor

theorem Node.walk_eq_sites (root : Node) : root.walk = root.sites none := by
  rw [Node.walk, Cursor.walk_eq_sites, Cursor.walk_true_nil, List.append_nil]
  rfl

/-- A walk stays below the node on which it starts. -/
theorem Node.mem_preorder_of_mem_walk {root : Node} {s : Site} (h : s ∈ root.walk) :
    s.node ∈ root.preorder ∧ ∀ p ∈ s.parent, p ∈ root.preorder := by
  rw [walk_eq_sites] at h
  obtain ⟨node, parent⟩ := mem_preorder_of_mem_sites h
  refine ⟨node, fun p hp => ?_⟩
  rcases parent with none | ⟨q, hq, some⟩
  · rw [none] at hp
    cases hp
  · rw [some] at hp
    cases hp
    exact hq

end FieldOrder
