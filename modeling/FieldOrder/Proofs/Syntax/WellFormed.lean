import FieldOrder.Shape.Basic
import FieldOrder.Proofs.Syntax.Position
import Mathlib.Data.List.Pairwise

namespace FieldOrder.Node
open Text

@[elab_as_elim]
theorem childInduction {motive : Node → Prop}
    (node : ∀ n : Node, (∀ c ∈ n.children, motive c) → motive n) (n : Node) : motive n := by
  refine @Node.rec motive (fun ns => ∀ c ∈ ns, motive c) ?_ ?_ ?_ n
  · intro info children ih
    exact node (mk info children) ih
  · simp
  · intro first rest hfirst hrest c hc
    rcases List.mem_cons.mp hc with rfl | hc
    · exact hfirst
    · exact hrest c hc

theorem mem_children_of_mem_entries {e n : Node} (h : e ∈ n.entries) : e ∈ n.children :=
  (List.mem_filter.mp (List.mem_filter.mp h).1).1

theorem mem_preorders {m : Node} {ns : List Node} :
    m ∈ preorders ns ↔ ∃ n ∈ ns, m ∈ n.preorder := by
  induction ns with
  | nil => simp [preorders]
  | cons n ns ih => simp [preorders, ih]

theorem mem_preorder {m n : Node} : m ∈ n.preorder ↔ m = n ∨ ∃ c ∈ n.children, m ∈ c.preorder := by
  obtain ⟨info, children⟩ := n
  rw [preorder, List.mem_cons, mem_preorders, Node.children]

theorem mem_preorder_self (n : Node) : n ∈ n.preorder := mem_preorder.mpr (.inl rfl)

theorem mem_preorder_of_mem_children {c n : Node} (h : c ∈ n.children) : c ∈ n.preorder :=
  mem_preorder.mpr (.inr ⟨c, h, c.mem_preorder_self⟩)

theorem mem_preorder_trans {k m n : Node} (hk : k ∈ m.preorder) (hm : m ∈ n.preorder) :
    k ∈ n.preorder := by
  induction n using childInduction with
  | node n ih =>
    rcases mem_preorder.mp hm with rfl | ⟨c, hc, hm⟩
    · exact hk
    · exact mem_preorder.mpr (.inr ⟨c, hc, ih c hc hm⟩)

/-- The node covers whole characters, and its children lie in it one behind another. -/
structure Fits (cs : List Char) (n : Node) : Prop where
  start_boundary : Boundary cs n.start
  stop_boundary : Boundary cs n.stop
  start_le_stop : n.start ≤ n.stop
  nested : ∀ c ∈ n.children, n.start ≤ c.start ∧ c.stop ≤ n.stop
  in_order : n.children.Pairwise fun a b => a.stop ≤ b.start

instance (cs : List Char) (n : Node) : Decidable (n.Fits cs) :=
  decidable_of_iff (Boundary cs n.start ∧ Boundary cs n.stop ∧ n.start ≤ n.stop ∧
      (∀ c ∈ n.children, n.start ≤ c.start ∧ c.stop ≤ n.stop) ∧
      n.children.Pairwise fun a b => a.stop ≤ b.start)
    ⟨fun ⟨h₁, h₂, h₃, h₄, h₅⟩ => ⟨h₁, h₂, h₃, h₄, h₅⟩,
      fun ⟨h₁, h₂, h₃, h₄, h₅⟩ => ⟨h₁, h₂, h₃, h₄, h₅⟩⟩

/-- The tree below a node fits the text. -/
def WellFormed (cs : List Char) (root : Node) : Prop := ∀ n ∈ root.preorder, n.Fits cs

instance (cs : List Char) (root : Node) : Decidable (root.WellFormed cs) :=
  inferInstanceAs (Decidable (∀ n ∈ root.preorder, n.Fits cs))

/-- Anonymous nodes are leaves, named ones are not empty, and comments are named. -/
structure Grammatical (root : Node) : Prop where
  anonymous_leaf : ∀ n ∈ root.preorder, n.isNamed = false → n.children = []
  named_nonempty : ∀ n ∈ root.preorder, n.isNamed = true → n.start < n.stop
  comment_named : ∀ n ∈ root.preorder, n.isComment = true → n.isNamed = true

instance (root : Node) : Decidable root.Grammatical :=
  decidable_of_iff ((∀ n ∈ root.preorder, n.isNamed = false → n.children = []) ∧
      (∀ n ∈ root.preorder, n.isNamed = true → n.start < n.stop) ∧
      ∀ n ∈ root.preorder, n.isComment = true → n.isNamed = true)
    ⟨fun ⟨h, h', h''⟩ => ⟨h, h', h''⟩, fun ⟨h, h', h''⟩ => ⟨h, h', h''⟩⟩

/-- Named nodes below one that is free of syntax errors are not empty. -/
def Solid (root : Node) : Prop :=
  ∀ n ∈ root.preorder, n.hasError = false →
    ∀ c ∈ n.children, ∀ m ∈ c.preorder, m.isNamed = true → m.start < m.stop

instance (root : Node) : Decidable root.Solid :=
  inferInstanceAs (Decidable (∀ n ∈ root.preorder, n.hasError = false →
    ∀ c ∈ n.children, ∀ m ∈ c.preorder, m.isNamed = true → m.start < m.stop))

namespace WellFormed
variable {cs : List Char} {root n : Node}

theorem fits (h : root.WellFormed cs) : root.Fits cs := h root root.mem_preorder_self

theorem descendant (h : root.WellFormed cs) (hn : n ∈ root.preorder) : n.WellFormed cs :=
  fun m hm => h m (mem_preorder_trans hm hn)

theorem child (h : root.WellFormed cs) (hn : n ∈ root.children) : n.WellFormed cs :=
  h.descendant (mem_preorder_of_mem_children hn)

theorem nested (h : root.WellFormed cs) (hn : n ∈ root.preorder) :
    root.start ≤ n.start ∧ n.stop ≤ root.stop := by
  induction root using childInduction with
  | node root ih =>
    rcases mem_preorder.mp hn with rfl | ⟨c, hc, hn⟩
    · exact ⟨Nat.le_refl _, Nat.le_refl _⟩
    · have inChild := ih c hc (h.child hc) hn
      have inRoot := h.fits.nested c hc
      omega

theorem entries_in_order (h : root.WellFormed cs) :
    root.entries.Pairwise fun a b => a.stop ≤ b.start :=
  h.fits.in_order.sublist (List.filter_sublist.trans List.filter_sublist)

theorem entry (h : root.WellFormed cs) (hn : n ∈ root.entries) : n.WellFormed cs :=
  h.child (mem_children_of_mem_entries hn)

theorem entries_within (h : root.WellFormed cs) {first last : Node}
    (hfirst : root.entries.head? = some first) (hlast : root.entries.getLast? = some last)
    (hn : n ∈ root.entries) : first.start ≤ n.start ∧ n.stop ≤ last.stop := by
  have inOrder := h.entries_in_order
  constructor
  · obtain ⟨rest, eq⟩ := List.head?_eq_some_iff.mp hfirst
    have width := (h.entry (List.mem_of_head? hfirst)).fits.start_le_stop
    rw [eq] at hn inOrder
    rcases List.mem_cons.mp hn with rfl | hn
    · exact Nat.le_refl _
    · exact Nat.le_trans width (List.rel_of_pairwise_cons inOrder hn)
  · obtain ⟨rest, eq⟩ := List.getLast?_eq_some_iff.mp hlast
    have width := (h.entry (List.mem_of_getLast? hlast)).fits.start_le_stop
    rw [eq] at hn inOrder
    rcases List.mem_append.mp hn with hn | hn
    · have before := (List.pairwise_append.mp inOrder).2.2 n hn last (by simp)
      omega
    · exact Nat.le_of_eq (congrArg stop (List.mem_singleton.mp hn))

/-- Of two siblings one lies behind the other. -/
theorem apart (h : root.WellFormed cs) {a b : Node} (ha : a ∈ root.children)
    (hb : b ∈ root.children) (ne : a ≠ b) : a.stop ≤ b.start ∨ b.stop ≤ a.start := by
  let R (a b : Node) : Prop := a.stop ≤ b.start ∨ b.stop ≤ a.start
  have : Std.Symm R := ⟨fun _ _ => Or.symm⟩
  have apart : root.children.Pairwise R := h.fits.in_order.imp Or.inl
  exact apart.forall ha hb ne

/-- Of two nodes one is below the other, or one lies behind the other. -/
theorem nested_or_apart (h : root.WellFormed cs) {a b : Node} (ha : a ∈ root.preorder)
    (hb : b ∈ root.preorder) :
    a ∈ b.preorder ∨ b ∈ a.preorder ∨ a.stop ≤ b.start ∨ b.stop ≤ a.start := by
  induction root using childInduction with
  | node root ih =>
    rcases mem_preorder.mp ha with rfl | ⟨c, hc, ha'⟩
    · exact .inr (.inl hb)
    rcases mem_preorder.mp hb with rfl | ⟨c', hc', hb'⟩
    · exact .inl ha
    by_cases same : c = c'
    · subst same
      exact ih c hc (h.child hc) ha' hb'
    · have inC := (h.child hc).nested ha'
      have inC' := (h.child hc').nested hb'
      have apart := h.apart hc hc' same
      omega

end WellFormed

theorem Solid.descendant {root n : Node} (h : root.Solid) (hn : n ∈ root.preorder) : n.Solid :=
  fun m hm => h m (mem_preorder_trans hm hn)

theorem Grammatical.descendant {root n : Node} (h : root.Grammatical) (hn : n ∈ root.preorder) :
    n.Grammatical where
  anonymous_leaf m hm := h.anonymous_leaf m (mem_preorder_trans hm hn)
  named_nonempty m hm := h.named_nonempty m (mem_preorder_trans hm hn)
  comment_named m hm := h.comment_named m (mem_preorder_trans hm hn)

end FieldOrder.Node
