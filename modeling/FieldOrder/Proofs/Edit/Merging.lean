import FieldOrder.Proofs.Edit.Arranged

namespace FieldOrder

namespace Edit
variable {text : String} {e : Edit} {rest edits : List Edit}

theorem exists_extend_iff : (∃ merged, extend text e rest = .ok merged) ↔
    (e :: rest).Pairwise Before := by
  induction rest generalizing e with
  | nil => simp [extend]
  | cons f rest ih =>
    have width := f.range.start_le_stop
    rw [extend]
    split
    · next early =>
      simp only [reduceCtorEq, exists_false, false_iff]
      intro inOrder
      have gap : e.range.stop ≤ f.range.start := List.rel_of_pairwise_cons inOrder (by simp)
      omega
    · next late =>
      have gap : e.Before f := Int.not_lt.mp late
      rw [ih]
      simp only [List.pairwise_cons, List.mem_cons, forall_eq_or_imp]
      constructor
      · rintro ⟨behind, inOrder⟩
        refine ⟨⟨gap, fun g hg => ?_⟩, behind, inOrder⟩
        exact Int.le_trans gap (Int.le_trans width (behind g hg))
      · rintro ⟨-, behind, inOrder⟩
        exact ⟨behind, inOrder⟩

theorem merge_eq (text : String) (edits : List Edit) : merge text edits =
    match arranged edits with
    | [] => .error .noEdits
    | e :: rest => extend text e rest := rfl

theorem exists_merge_iff : (∃ merged, merge text edits = .ok merged) ↔
    edits ≠ [] ∧ (arranged edits).Pairwise Before := by
  have perm := arranged_perm edits
  rw [merge_eq]
  cases same : arranged edits with
  | nil =>
    rw [same] at perm
    simp [perm.nil_eq.symm]
  | cons e rest =>
    have nonempty : edits ≠ [] := by
      rintro rfl
      rw [same] at perm
      exact List.cons_ne_nil _ _ perm.eq_nil
    simp only [exists_extend_iff, nonempty, not_false_eq_true, ne_eq, true_and]

/-- Edits cannot be merged exactly if there are none, if two of them overlap, or if an insertion
comes after an edit that starts at its place. -/
theorem exists_merge_error_iff (text : String) (edits : List Edit) :
    (∃ error, merge text edits = .error error) ↔ edits = [] ∨ ∃ e f, [e, f].Sublist edits ∧
      (e.range.overlaps f.range = true ∨ f.InsertsAtStart e) := by
  have failed : (∃ error, merge text edits = .error error) ↔
      ¬ ∃ merged, merge text edits = .ok merged := by
    cases merge text edits <;> simp
  rw [failed, exists_merge_iff, arranged_before_iff, List.pairwise_iff_forall_sublist]
  constructor
  · intro conflict
    by_cases empty : edits = []
    · exact .inl empty
    · refine .inr (Classical.byContradiction fun none => conflict ⟨empty, fun {e f} pair => ?_⟩)
      rw [← Bool.not_eq_true, ← not_or]
      exact fun clash => none ⟨e, f, pair, clash⟩
  · rintro (empty | ⟨e, f, pair, clash⟩) ⟨nonempty, clear⟩
    · exact nonempty empty
    · obtain ⟨apart, steady⟩ := clear pair
      rcases clash with overlap | insertion
      · exact Bool.false_ne_true (apart.symm.trans overlap)
      · exact steady insertion

/-- An insertion can be merged with an edit that starts at its place, but not behind it. -/
theorem merge_insertion_last :
    merge "abcd" [putX, bToY] = .ok ⟨⟨1, 2, by decide⟩, "XY"⟩ ∧
      merge "abcd" [bToY, putX] = .error (.overlapAt 1) ∧
      ¬ ([bToY, putX] = [] ∨
        ∃ e f, [e, f].Sublist [bToY, putX] ∧ e.range.overlaps f.range = true) := by
  have sorted : arranged [bToY, putX] = [bToY, putX] := List.mergeSort_of_pairwise (by decide)
  refine ⟨?_, ?_, ?_⟩
  · exact (merge_eq_extend _ (by simp [Before, putX, bToY])).trans rfl
  · rw [merge_eq, sorted]
    rfl
  · rintro (empty | ⟨e, f, pair, overlap⟩)
    · exact List.cons_ne_nil _ _ empty
    · cases pair.eq_of_length rfl
      exact absurd overlap (by decide)

end Edit

end FieldOrder
