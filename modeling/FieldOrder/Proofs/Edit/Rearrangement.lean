import FieldOrder.Proofs.Edit.Substitution
import FieldOrder.Proofs.Edit.Session

namespace FieldOrder

namespace Edit

/-- The edit puts the characters of its range in another order. -/
structure Rearranges (text : String) (e : Edit) : Prop where
  start_nonneg : 0 ≤ e.range.start
  stop_le_length : e.range.stop ≤ text.length
  perm : e.replacement.toList.Perm (Text.slice text e.range.start e.range.stop).toList

variable {text : String} {e f : Edit}

theorem toList_eq_of_range (text : String) (h : 0 ≤ e.range.start) : text.toList =
    (Text.sliceTo text e.range.start).toList ++
      (Text.slice text e.range.start e.range.stop).toList ++
      (Text.sliceFrom text e.range.stop).toList := by
  rw [← String.toList_append, ← String.toList_append,
    Text.sliceTo_append_slice_append_sliceFrom text h e.range.start_le_stop]

theorem rearranges_of_applyTo_perm (start : 0 ≤ e.range.start) (stop : e.range.stop ≤ text.length)
    (h : (e.applyTo text).toList.Perm text.toList) : e.Rearranges text where
  start_nonneg := start
  stop_le_length := stop
  perm := by
    rw [toList_applyTo] at h
    conv at h => rhs; rw [toList_eq_of_range text start]
    exact (List.perm_append_left_iff _).mp ((List.perm_append_right_iff _).mp h)

namespace Rearranges

theorem applyTo_perm (h : e.Rearranges text) : (e.applyTo text).toList.Perm text.toList := by
  rw [toList_applyTo]
  conv => rhs; rw [toList_eq_of_range text h.start_nonneg]
  exact (h.perm.append_left _).append_right _

theorem length_applyTo (h : e.Rearranges text) : (e.applyTo text).length = text.length := by
  rw [← String.length_toList, ← String.length_toList]
  exact h.applyTo_perm.length_eq

theorem slice_applyTo (h : e.Rearranges text) (r : TextRange) (start : 0 ≤ r.start)
    (stop : r.stop ≤ text.length) (apart : e.range.overlaps r = false) :
    Text.slice (e.applyTo text) r.start r.stop = Text.slice text r.start r.stop := by
  have width := r.start_le_stop
  have widthE := e.range.start_le_stop
  have low := h.start_nonneg
  have high := h.stop_le_length
  have size : text.toList.length = text.length := String.length_toList
  have front : (Text.sliceTo text e.range.start).toList = text.toList.take e.range.start.toNat := by
    rw [Text.toList_sliceTo, Text.clip_of_nonneg _ low, size, Nat.min_eq_left (by omega)]
  have back : (Text.sliceFrom text e.range.stop).toList = text.toList.drop e.range.stop.toNat := by
    rw [Text.toList_sliceFrom, Text.clip_of_nonneg _ (by omega), size, Nat.min_eq_left (by omega)]
  have middle : e.replacement.toList.length = e.range.stop.toNat - e.range.start.toNat := by
    rw [h.perm.length_eq, Text.toList_slice_of_le text low widthE high, List.length_drop,
      List.length_take, size, Nat.min_eq_left (by omega)]
  apply String.toList_injective
  rw [Text.toList_slice_of_le _ start width (by rw [h.length_applyTo]; exact stop),
    Text.toList_slice_of_le _ start width stop, toList_applyTo, front, back]
  simp only [TextRange.overlaps, Bool.not_eq_false', Bool.or_eq_true, decide_eq_true_eq] at apart
  rcases apart with behind | before
  · -- The range lies behind the edit, which kept its length, so that both sides drop as much.
    have count : (text.toList.take e.range.start.toNat ++ e.replacement.toList).length =
        e.range.stop.toNat := by
      rw [List.length_append, middle, List.length_take, size]
      omega
    rw [List.drop_take, List.drop_take, List.drop_append, count,
      List.drop_of_length_le (by rw [count]; omega), List.nil_append, List.drop_drop,
      Nat.add_sub_cancel' (by omega)]
  · -- The range lies before the edit, in the part that is still the start of the text.
    have within : r.stop.toNat ≤ (text.toList.take e.range.start.toNat).length := by
      rw [List.length_take, size]
      omega
    rw [List.append_assoc, List.take_append_of_le_length within, List.take_take,
      Nat.min_eq_left (by omega)]

/-- An edit that does not overlap still rearranges its range. -/
theorem after (h : e.Rearranges text) (hf : f.Rearranges text)
    (apart : e.range.overlaps f.range = false) : f.Rearranges (e.applyTo text) where
  start_nonneg := hf.start_nonneg
  stop_le_length := h.length_applyTo ▸ hf.stop_le_length
  perm := by
    rw [h.slice_applyTo f.range hf.start_nonneg hf.stop_le_length apart]
    exact hf.perm

end Rearranges

/-- Edits that do not overlap rearrange the text, in whatever order they are carried out. -/
theorem foldl_applyTo_perm {edits : List Edit} (rearranges : ∀ e ∈ edits, e.Rearranges text)
    (apart : edits.Pairwise fun e f => e.range.overlaps f.range = false) :
    (edits.foldl (fun text e => e.applyTo text) text).toList.Perm text.toList := by
  induction edits generalizing text with
  | nil => exact .refl _
  | cons e edits ih =>
    obtain ⟨first, rest⟩ := List.forall_mem_cons.mp rearranges
    obtain ⟨apartFirst, apart⟩ := List.pairwise_cons.mp apart
    have next (f : Edit) (hf : f ∈ edits) := first.after (rest f hf) (apartFirst f hf)
    exact (ih next apart).trans first.applyTo_perm

theorem exists_merge_rearranges {edits : List Edit} (nonempty : edits ≠ [])
    (inOrder : edits.Pairwise Before)
    (inText : ∀ e ∈ edits, 0 ≤ e.range.start ∧ e.range.stop ≤ text.length)
    (perm : (substitute text edits).toList.Perm text.toList) :
    ∃ merged, merge text edits = .ok merged ∧ merged.Rearranges text := by
  obtain ⟨merged, eq, start, stop, result⟩ :=
    merge_eq_ok text nonempty inOrder fun e he => (inText e he).1
  refine ⟨merged, eq, rearranges_of_applyTo_perm ?_ ?_ (result ▸ perm)⟩
  · exact start ▸ (inText _ (List.head_mem nonempty)).1
  · exact stop ▸ (inText _ (List.getLast_mem nonempty)).2

end Edit

namespace EditSession

/-- A session of fixes that rearrange their ranges rearranges its text. -/
theorem exists_apply_perm {s : EditSession} (apart : s.Apart)
    (rearranges : ∀ e ∈ s.accepted, e.Rearranges s.text) :
    ∃ fixed stats, s.apply = .ok (fixed, stats) ∧ fixed.toList.Perm s.text.toList := by
  have inText (e : Edit) (he : e ∈ s.accepted) :=
    And.intro (rearranges e he).start_nonneg (rearranges e he).stop_le_length
  refine ⟨_, _, apply_eq_ok inText, Edit.foldl_applyTo_perm ?_ ?_⟩
  · intro e he
    exact rearranges e (List.mem_mergeSort.mp he)
  · have sorted : s.fromEnd.Perm s.accepted := List.mergeSort_perm _ _
    refine sorted.symm.pairwise apart ?_
    intro e f h
    rw [TextRange.overlaps_comm]
    exact h

end EditSession

end FieldOrder
