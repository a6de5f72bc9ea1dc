import FieldOrder.Lint.Violation

namespace FieldOrder.Violation

instance : Std.TransCmp compare :=
  inferInstanceAs (Std.TransCmp (compareLex (compareOn line)
    (compareLex (compareOn column) (compareOn rule))))

theorem not_gt_trans (a b c : Violation) (hab : (a.compare b != .gt) = true)
    (hbc : (b.compare c != .gt) = true) : (a.compare c != .gt) = true := by
  simp only [bne_iff_ne, ne_eq, Ordering.ne_gt_iff_isLE] at *
  exact Std.TransCmp.isLE_trans hab hbc

theorem not_gt_total (a b : Violation) :
    (a.compare b != .gt || b.compare a != .gt) = true := by
  have swap : a.compare b = (b.compare a).swap := Std.OrientedCmp.eq_swap
  rw [swap]
  cases b.compare a <;> rfl

theorem sort_perm (vs : List Violation) : (sort vs).Perm vs := List.mergeSort_perm _ _

theorem sort_pairwise (vs : List Violation) :
    (sort vs).Pairwise fun a b => a.compare b ≠ .gt := by
  refine (List.pairwise_mergeSort not_gt_trans not_gt_total vs).imp ?_
  intro a b h
  exact bne_iff_ne.mp h

theorem filter_sort {vs : List Violation} {p : Violation → Bool}
    (tied : ∀ a ∈ vs, ∀ b ∈ vs, p a = true → p b = true → a.compare b ≠ .gt) :
    (sort vs).filter p = vs.filter p := by
  have inOrder : (vs.filter p).Pairwise fun a b => (a.compare b != .gt) = true := by
    apply List.pairwise_of_forall_mem_list
    intro a ha b hb
    obtain ⟨ha, pa⟩ := List.mem_filter.mp ha
    obtain ⟨hb, pb⟩ := List.mem_filter.mp hb
    exact bne_iff_ne.mpr (tied a ha b hb pa pb)
  have kept : (vs.filter p).Sublist (sort vs) :=
    List.sublist_mergeSort not_gt_trans not_gt_total inOrder List.filter_sublist
  have both : (vs.filter p).Sublist ((sort vs).filter p) := by
    simpa [List.filter_filter] using kept.filter p
  exact (both.eq_of_length ((sort_perm vs).symm.filter p).length_eq).symm

end FieldOrder.Violation
