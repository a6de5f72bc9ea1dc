import FieldOrder.Proofs.Order.Comparison
import FieldOrder.Proofs.Order.Sort
import Mathlib.Data.Set.List

namespace FieldOrder

theorem map_some_filterMap_getElem? {α : Type} (xs : List α) {order : List Nat}
    (h : ∀ i ∈ order, i < xs.length) :
    (order.filterMap (xs[·]?)).map some = order.map (xs[·]?) := by
  induction order with
  | nil => rfl
  | cons i order ih =>
    obtain ⟨hi, ho⟩ := List.forall_mem_cons.mp h
    simpa [List.filterMap_cons, List.getElem?_eq_getElem hi] using ih ho

theorem filterMap_getElem?_range {α : Type} (xs : List α) :
    (List.range xs.length).filterMap (xs[·]?) = xs := by
  apply (List.map_inj_right fun _ _ => Option.some.inj).mp
  rw [map_some_filterMap_getElem? xs fun i hi => List.mem_range.mp hi]
  apply List.ext_getElem
  · simp
  · intro i hi hi'
    simp

theorem filterMap_getElem?_perm {α : Type} (xs : List α) {order : List Nat}
    (perm : order.Perm (List.range xs.length)) : (order.filterMap (xs[·]?)).Perm xs :=
  (perm.filterMap _).trans (.of_eq (filterMap_getElem?_range xs))

theorem movedPositions_eq_filter (order : List Nat) :
    movedPositions order = (List.range order.length).filter fun k => order[k]? ≠ some k := by
  have entries : order.zipIdx = (List.range order.length).map fun k => (order[k]?.getD 0, k) := by
    apply List.ext_getElem
    · simp
    · intro k hk hk'
      simp at hk hk'
      simp [hk]
  rw [movedPositions, entries, List.filter_map, List.map_map]
  refine Eq.trans (List.map_id' _) (List.filter_congr fun k hk => ?_)
  have hk := List.mem_range.mp hk
  rw [Function.comp_apply, List.getElem?_eq_getElem hk, Option.getD_some, Bool.eq_iff_iff]
  simp only [bne_iff_ne, ne_eq, decide_eq_true_eq, Option.some.injEq]
  exact not_congr eq_comm

theorem eq_range_of_isIdentity {order : List Nat} (h : isIdentity order = true) :
    order = List.range order.length := by
  have unmoved : movedPositions order = [] := List.isEmpty_iff.mp h
  rw [movedPositions_eq_filter, List.filter_eq_nil_iff] at unmoved
  apply List.ext_getElem
  · simp
  · intro k hk hk'
    have stays := unmoved k (List.mem_range.mpr hk)
    simpa [List.getElem?_eq_getElem hk] using stays

theorem isIdentity_range (n : Nat) : isIdentity (List.range n) = true := by
  rw [isIdentity, movedPositions_eq_filter, List.isEmpty_iff, List.filter_eq_nil_iff]
  intro k hk
  simp_all

namespace Policy

theorem isOrdered_iff_isChain (p : Policy) (fields : List Field) :
    p.isOrdered fields = true ↔ fields.IsChain fun a b => p.compare a b ≠ .gt := by
  induction fields with
  | nil => simp [isOrdered, isSortedBy]
  | cons a fields ih =>
    cases fields with
    | nil => simp [isOrdered, isSortedBy]
    | cons b rest =>
      rw [List.isChain_cons_cons, ← ih]
      cases h : p.compare a b <;> simp [isOrdered, isSortedBy, h]

/-- Among fields that have a place in the canonical order, being in order goes beyond neighbours. -/
theorem pairwise_of_isChain (p : Policy) {fields : List Field}
    (orderable : ∀ f ∈ fields, f.Orderable)
    (chain : fields.IsChain fun a b => p.compare a b ≠ .gt) :
    fields.Pairwise fun a b => p.compare a b ≠ .gt := by
  lift fields to List { f : Field // f.Orderable } using orderable
  let NotGreater (a b : { f : Field // f.Orderable }) : Prop := p.compareOrderable a b ≠ .gt
  have trans : Trans NotGreater NotGreater NotGreater := ⟨fun hab hbc => by
    simp only [NotGreater, ne_eq, Ordering.ne_gt_iff_isLE] at *
    exact Std.TransCmp.isLE_trans hab hbc⟩
  rw [List.isChain_map] at chain
  exact List.pairwise_map.mpr (List.IsChain.pairwise (R := NotGreater) chain)

/-- Sorting leaves a list in order, however the comparison fails to be transitive. -/
theorem isOrdered_sorted (p : Policy) (fields : List Field) :
    p.isOrdered (p.sorted fields) = true := by
  let inOrder (x y : Option Field) : Prop := ∀ a ∈ x, ∀ b ∈ y, p.compare a b ≠ .gt
  have chain : (p.sortOrder fields).IsChain fun i j => inOrder fields[i]? fields[j]? := by
    apply p.sortOrder_isChain
    intro i j hij hj
    simp only [inOrder, List.getElem?_eq_getElem hj, List.getElem?_eq_getElem (hij.trans hj),
      Option.mem_some_iff, forall_eq']
    have swap := p.compare_swap fields[i] fields[j]
    split
    next h => simp [h]
    next h =>
      rw [swap]
      cases hc : p.compare fields[j] fields[i] <;> simp_all
  have positions : (p.sorted fields).map some = (p.sortOrder fields).map (fields[·]?) :=
    map_some_filterMap_getElem? fields fun i hi => lt_of_mem_sortOrder hi
  rw [isOrdered_iff_isChain]
  have entries : ((p.sorted fields).map some).IsChain inOrder := by
    rw [positions, List.isChain_map]
    exact chain
  rw [List.isChain_map] at entries
  exact entries.imp fun a b h => h a rfl b rfl

/-- A sort that moves nothing was given a list in order. -/
theorem isOrdered_of_isIdentity (p : Policy) {fields : List Field}
    (h : isIdentity (p.sortOrder fields) = true) : p.isOrdered fields = true := by
  have order : p.sortOrder fields = List.range fields.length := by
    have lengths := (p.sortOrder_perm fields).length_eq
    rw [List.length_range] at lengths
    rw [eq_range_of_isIdentity h, lengths]
  have settled := p.isOrdered_sorted fields
  rw [sorted, order, filterMap_getElem?_range] at settled
  exact settled

/-- A list in order is one run, so the sort moves none of its entries. -/
theorem sortOrder_of_isOrdered (p : Policy) {fields : List Field}
    (ordered : p.isOrdered fields = true) : p.sortOrder fields = List.range fields.length := by
  have chain := (p.isOrdered_iff_isChain fields).mp ordered
  refine congrArg Id.run (sortOrderBy_of_isChain (chain.imp fun a b notGreater => ?_))
  refine ⟨p.compare b a, rfl, ?_⟩
  rw [p.compare_swap]
  cases h : p.compare a b <;> simp_all

theorem isIdentity_sortOrder (p : Policy) (fields : List Field) :
    isIdentity (p.sortOrder fields) = p.isOrdered fields := by
  rw [Bool.eq_iff_iff]
  constructor
  · exact p.isOrdered_of_isIdentity
  · intro ordered
    rw [p.sortOrder_of_isOrdered ordered]
    exact isIdentity_range _

theorem isOrdered_iff_sortOrder (p : Policy) (fields : List Field) :
    p.isOrdered fields = true ↔ p.sortOrder fields = List.range fields.length := by
  constructor
  · exact p.sortOrder_of_isOrdered
  · intro order
    rw [← isIdentity_sortOrder, order]
    exact isIdentity_range _

end Policy

end FieldOrder
