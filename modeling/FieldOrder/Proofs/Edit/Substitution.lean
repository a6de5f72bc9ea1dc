import FieldOrder.Edit.Session
import FieldOrder.Proofs.Text.Slice

namespace FieldOrder

namespace Edit

theorem replace_eq_ok {start stop : Int} (h : start ≤ stop) (replacement : String) :
    replace start stop replacement = .ok ⟨⟨start, stop, h⟩, replacement⟩ := by
  rw [replace, TextRange.ofBounds, dif_pos h]
  rfl

theorem toList_applyTo (text : String) (e : Edit) : (e.applyTo text).toList =
    (Text.sliceTo text e.range.start).toList ++ e.replacement.toList ++
      (Text.sliceFrom text e.range.stop).toList := by
  rw [applyTo, String.toList_append, String.toList_append]

/-- The first edit ends where the second starts, or before. -/
def Before (e f : Edit) : Prop := e.range.stop ≤ f.range.start

/-- The text from a position on, with edits carried out that lie behind it one after another. -/
def substituteFrom (text : String) (pos : Int) : List Edit → String
  | [] => Text.sliceFrom text pos
  | e :: rest =>
    Text.slice text pos e.range.start ++ e.replacement ++ substituteFrom text e.range.stop rest

/-- The text with edits carried out that lie one after another. -/
def substitute (text : String) (edits : List Edit) : String := substituteFrom text 0 edits

theorem substituteFrom_split (text : String) {pos next : Int} {edits : List Edit} (h0 : 0 ≤ pos)
    (h : pos ≤ next) (behind : ∀ e ∈ edits, next ≤ e.range.start) :
    substituteFrom text pos edits =
      Text.slice text pos next ++ substituteFrom text next edits := by
  cases edits with
  | nil => exact (Text.slice_append_sliceFrom text h0 h).symm
  | cons e rest =>
    have he := behind e (by simp)
    rw [substituteFrom, substituteFrom, ← Text.slice_append text h0 h he]
    simp only [String.append_assoc]

/-- Lengthening an edit by those behind it carries over the text between. -/
theorem extend_eq_ok (text : String) {e : Edit} {rest : List Edit}
    (inOrder : (e :: rest).Pairwise Before) (h : 0 ≤ e.range.stop) :
    ∃ merged, extend text e rest = .ok merged ∧ merged.range.start = e.range.start ∧
      merged.range.stop = ((e :: rest).getLast (List.cons_ne_nil e rest)).range.stop ∧
      merged.replacement ++ Text.sliceFrom text merged.range.stop =
        e.replacement ++ substituteFrom text e.range.stop rest := by
  induction rest generalizing e with
  | nil => exact ⟨e, rfl, rfl, rfl, rfl⟩
  | cons f rest ih =>
    obtain ⟨first, later⟩ := List.pairwise_cons.mp inOrder
    obtain ⟨second, later⟩ := List.pairwise_cons.mp later
    have gap : e.range.stop ≤ f.range.start := first f (by simp)
    have width := f.range.start_le_stop
    let joined : Edit := ⟨⟨e.range.start, f.range.stop, by
      have := e.range.start_le_stop
      omega⟩, e.replacement ++ Text.slice text e.range.stop f.range.start ++ f.replacement⟩
    have inOrder' : (joined :: rest).Pairwise Before := List.pairwise_cons.mpr ⟨second, later⟩
    obtain ⟨merged, eq, start, stop, parts⟩ := ih inOrder' (by change 0 ≤ f.range.stop; omega)
    refine ⟨merged, ?_, start, ?_, ?_⟩
    · rw [extend, dif_neg (by omega)]
      exact eq
    · rw [stop]
      cases rest <;> rfl
    · rw [parts, substituteFrom]
      simp only [joined, String.append_assoc]

theorem merge_eq_extend (text : String) {e : Edit} {rest : List Edit}
    (inOrder : (e :: rest).Pairwise Before) : merge text (e :: rest) = extend text e rest := by
  have sorted : (e :: rest).mergeSort (fun a b => a.range.start ≤ b.range.start) = e :: rest := by
    apply List.mergeSort_of_pairwise
    refine inOrder.imp ?_
    intro e f h
    have := e.range.start_le_stop
    simp only [Before] at h
    simp only [decide_eq_true_eq]
    omega
  rw [merge, sorted]

theorem merge_singleton (text : String) (e : Edit) : merge text [e] = .ok e :=
  merge_eq_extend text (List.pairwise_singleton _ _)

/-- Merging edits that lie one after another gives one that does the same. -/
theorem merge_eq_ok (text : String) {edits : List Edit} (nonempty : edits ≠ [])
    (inOrder : edits.Pairwise Before) (inText : ∀ e ∈ edits, 0 ≤ e.range.start) :
    ∃ merged, merge text edits = .ok merged ∧
      merged.range.start = (edits.head nonempty).range.start ∧
      merged.range.stop = (edits.getLast nonempty).range.stop ∧
      merged.applyTo text = substitute text edits := by
  cases edits with
  | nil => exact absurd rfl nonempty
  | cons e rest =>
    have start := inText e (by simp)
    have width := e.range.start_le_stop
    obtain ⟨merged, eq, first, last, parts⟩ := extend_eq_ok text inOrder (by omega)
    refine ⟨merged, (merge_eq_extend text inOrder).trans eq, first, last, ?_⟩
    rw [applyTo, String.append_assoc, parts, first, substitute, substituteFrom,
      Text.slice_zero, String.append_assoc]

end Edit

namespace EditSession

theorem apply_addFix (text : String) {edits : List Edit} (nonempty : edits ≠ [])
    (inOrder : edits.Pairwise Edit.Before)
    (inText : ∀ e ∈ edits, 0 ≤ e.range.start ∧ e.range.stop ≤ text.length) :
    ∃ session stats, addFix { text } edits = .ok (true, session) ∧
      session.apply = .ok (Edit.substitute text edits, stats) := by
  obtain ⟨merged, eq, start, stop, result⟩ :=
    Edit.merge_eq_ok text nonempty inOrder fun e he => (inText e he).1
  have low : 0 ≤ merged.range.start := start ▸ (inText _ (List.head_mem nonempty)).1
  have high : merged.range.stop ≤ text.length := stop ▸ (inText _ (List.getLast_mem nonempty)).2
  let session : EditSession := { text, accepted := [merged] }
  refine ⟨session, session.stats, ?_, ?_⟩
  · simp [addFix, eq]
    rfl
  · have bounds : session.boundsErrors = [] := by
      simp [session, boundsErrors, boundsOf, low, high]
    rw [apply, bounds]
    simp only [fromEnd, session, List.mergeSort_singleton, List.foldl_cons, List.foldl_nil, result]

end EditSession

end FieldOrder
