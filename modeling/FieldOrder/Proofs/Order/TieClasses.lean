import FieldOrder.Proofs.Order.Canonical
import FieldOrder.Proofs.Order.Settled
import Mathlib.Data.List.Forall2
import Mathlib.Data.List.Perm.Basic

namespace FieldOrder

section
variable {α : Type} {cmp : α → α → Ordering} {xs ys : List α} {a x y : α}

/-- The entries of a list that tie with a given one. -/
def tieClass (cmp : α → α → Ordering) (a : α) (xs : List α) : List α :=
  xs.filter fun b => cmp a b = .eq

theorem tieClass_cons_of_eq (h : cmp a x = .eq) :
    tieClass cmp a (x :: xs) = x :: tieClass cmp a xs :=
  List.filter_cons_of_pos (decide_eq_true h)

theorem tieClass_cons_of_ne (h : cmp a x ≠ .eq) :
    tieClass cmp a (x :: xs) = tieClass cmp a xs :=
  List.filter_cons_of_neg (by simpa using h)

variable [Std.TransCmp cmp]

/-- What stands first in a list in order is not greater than what ties with an entry of it. -/
theorem not_gt_of_mem_tieClass (inOrder : (x :: xs).Pairwise fun a b => cmp a b ≠ .gt) {z : α}
    (hz : z ∈ tieClass cmp y (x :: xs)) : cmp x y ≠ .gt := by
  obtain ⟨mem, tied⟩ := List.mem_filter.mp hz
  rw [Std.TransCmp.congr_right (of_decide_eq_true tied)]
  rcases List.mem_cons.mp mem with rfl | later
  · simp [Std.ReflCmp.compare_self]
  · exact (List.pairwise_cons.mp inOrder).1 z later

/-- Two lists in order whose tie classes are related entry by entry are so related themselves. -/
theorem forall₂_of_tieClass {Q : α → α → Prop} (hx : xs.Pairwise fun a b => cmp a b ≠ .gt)
    (hy : ys.Pairwise fun a b => cmp a b ≠ .gt)
    (classes : ∀ a, List.Forall₂ Q (tieClass cmp a xs) (tieClass cmp a ys)) :
    List.Forall₂ (fun a b => cmp a b = .eq ∧ Q a b) xs ys := by
  induction xs generalizing ys with
  | nil =>
    cases ys with
    | nil => exact .nil
    | cons y ys =>
      have own := classes y
      rw [tieClass_cons_of_eq Std.ReflCmp.compare_self] at own
      cases own
  | cons x xs ih =>
    have ofX := classes x
    rw [tieClass_cons_of_eq Std.ReflCmp.compare_self] at ofX
    cases ys with
    | nil => cases ofX
    | cons y ys =>
      have ofY := classes y
      rw [tieClass_cons_of_eq (x := y) Std.ReflCmp.compare_self] at ofY
      -- The first of each list ties with an entry of the other list, and is not greater than it.
      have tied : cmp x y = .eq := by
        obtain ⟨z, _, -, -, inY⟩ := List.forall₂_cons_left_iff.mp ofX
        obtain ⟨w, _, -, -, inX⟩ := List.forall₂_cons_right_iff.mp ofY
        have xy := not_gt_of_mem_tieClass hx (inX ▸ List.mem_cons_self)
        have yx := not_gt_of_mem_tieClass hy (inY ▸ List.mem_cons_self)
        exact Std.OrientedCmp.isLE_antisymm (Ordering.ne_gt_iff_isLE.mp xy)
          (Ordering.ne_gt_iff_isLE.mp yx)
      rw [tieClass_cons_of_eq tied] at ofX
      refine .cons ⟨tied, (List.forall₂_cons.mp ofX).1⟩ (ih hx.tail hy.tail fun a => ?_)
      have ofA := classes a
      have same : cmp a x = cmp a y := Std.TransCmp.congr_right tied
      by_cases eq : cmp a x = .eq
      · rw [tieClass_cons_of_eq eq, tieClass_cons_of_eq (same ▸ eq)] at ofA
        exact (List.forall₂_cons.mp ofA).2
      · rw [tieClass_cons_of_ne eq, tieClass_cons_of_ne (same ▸ eq)] at ofA
        exact ofA

/-- Rearrangements of a list that are in order tie entry by entry. -/
theorem forall₂_tied_of_perm (perm : xs.Perm ys) (hx : xs.Pairwise fun a b => cmp a b ≠ .gt)
    (hy : ys.Pairwise fun a b => cmp a b ≠ .gt) :
    List.Forall₂ (fun a b => cmp a b = .eq) xs ys := by
  have classes (a : α) :
      List.Forall₂ (fun _ _ => True) (tieClass cmp a xs) (tieClass cmp a ys) := by
    have lengths : (tieClass cmp a xs).length = (tieClass cmp a ys).length :=
      (perm.filter _).length_eq
    exact List.forall₂_iff_get.mpr ⟨lengths, fun _ _ _ => trivial⟩
  exact (forall₂_of_tieClass hx hy classes).imp fun _ _ h => h.1

end

namespace Policy

theorem sorted_perm (p : Policy) (fields : List Field) : (p.sorted fields).Perm fields :=
  filterMap_getElem?_perm fields (p.sortOrder_perm fields)

theorem sorted_pairwise (p : Policy) {fields : List Field} (orderable : ∀ f ∈ fields, f.Orderable) :
    (p.sorted fields).Pairwise fun a b => p.compare a b ≠ .gt := by
  have inOrder := (p.isOrdered_iff_isChain _).mp (p.isOrdered_sorted fields)
  exact p.pairwise_of_isChain (fun f hf => orderable f ((p.sorted_perm fields).subset hf)) inOrder

theorem forall₂_tied_sorted (p : Policy) {fields fields' : List Field} (perm : fields.Perm fields')
    (orderable : ∀ f ∈ fields, f.Orderable) :
    List.Forall₂ (fun a b => p.compare a b = .eq) (p.sorted fields) (p.sorted fields') := by
  have orderable' : ∀ f ∈ fields', f.Orderable := fun f hf => orderable f (perm.symm.subset hf)
  have sorted := p.sorted_perm fields
  have sorted' := p.sorted_perm fields'
  have inOrder := p.sorted_pairwise orderable
  have inOrder' := p.sorted_pairwise orderable'
  have same : (p.sorted fields).Perm (p.sorted fields') := sorted.trans (perm.trans sorted'.symm)
  have places : ∀ f ∈ p.sorted fields, f.Orderable := fun f hf => orderable f (sorted.subset hf)
  have places' : ∀ f ∈ p.sorted fields', f.Orderable :=
    fun f hf => orderable' f (sorted'.subset hf)
  generalize p.sorted fields = xs at *
  generalize p.sorted fields' = ys at *
  -- The comparison is transitive only on the fields that have a place in the canonical order.
  lift xs to List { f : Field // f.Orderable } using places
  lift ys to List { f : Field // f.Orderable } using places'
  rw [List.pairwise_map] at inOrder inOrder'
  rw [List.map_perm_map_iff Subtype.val_injective] at same
  rw [List.forall₂_map_left_iff, List.forall₂_map_right_iff]
  have tied : List.Forall₂ (fun a b => p.compareOrderable a b = .eq) xs ys :=
    forall₂_tied_of_perm same inOrder inOrder'
  exact tied

/-- Two lists of the same fields are sorted into lists that tie entry by entry, and into one list if
no two fields tie but those that are the same. -/
theorem sorted_rearranged (p : Policy) (fields fields' : List Field) (perm : fields.Perm fields')
    (orderable : ∀ f ∈ fields, f.Orderable) :
    (p.sorted fields).Perm fields ∧
      List.Forall₂ (fun a b => p.compare a b = .eq) (p.sorted fields) (p.sorted fields') ∧
      ((∀ a ∈ fields, ∀ b ∈ fields, p.compare a b = .eq → a = b) →
        p.sorted fields = p.sorted fields') := by
  have sorted := p.sorted_perm fields
  have sorted' := (p.sorted_perm fields').trans perm.symm
  have tied := p.forall₂_tied_sorted perm orderable
  refine ⟨sorted, tied, fun distinct => ?_⟩
  apply List.ext_get tied.length_eq
  intro k hk hk'
  have mem := sorted.subset (List.get_mem (p.sorted fields) ⟨k, hk⟩)
  have mem' := sorted'.subset (List.get_mem (p.sorted fields') ⟨k, hk'⟩)
  exact distinct _ mem _ mem' (tied.get hk hk')

theorem sorted_rearranged_ties :
    let p : Policy := { classifier := ⟨["id"], .prefixes ["on"]⟩, alphabetical := false }
    let fields : List Field :=
      [{ kind := .rest }, { name := some "b" }, { name := some "onClick" }, { name := some "a" }]
    let fields' : List Field :=
      [{ name := some "a" }, { name := some "onClick" }, { name := some "b" }, { kind := .rest }]
    fields.Perm fields' ∧ (∀ f ∈ fields, f.Orderable) ∧ p.sorted fields ≠ p.sorted fields' ∧
      List.Forall₂ (fun a b => p.compare a b = .eq) (p.sorted fields) (p.sorted fields') := by
  intro p fields fields'
  have perm : fields.Perm fields' := by decide
  have orderable : ∀ f ∈ fields, f.Orderable := by decide
  have differ : p.sorted fields ≠ p.sorted fields' := by decide +kernel
  exact ⟨perm, orderable, differ, (p.sorted_rearranged fields fields' perm orderable).2.1⟩

end Policy

end FieldOrder
