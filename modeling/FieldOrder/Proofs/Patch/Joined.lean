import FieldOrder.Proofs.Patch.Analysis
import FieldOrder.Proofs.Patch.Layout

namespace FieldOrder

namespace LaidOut
variable {text : String} {f : Field} {fields : List Field}

theorem start_le_last_stop (h : LaidOut text (f :: fields)) :
    f.start ≤ ((f :: fields).getLast (List.cons_ne_nil f fields)).stop := by
  induction fields generalizing f with
  | nil => exact h.start_le_stop f (by simp)
  | cons g fields ih =>
    have width := h.start_le_stop f (by simp)
    have next : f.stop ≤ g.start := List.rel_of_pairwise_cons h.in_order (by simp)
    have rest := ih h.tail
    rw [List.getLast_cons (List.cons_ne_nil g fields)]
    omega

end LaidOut

namespace Patch
variable {text : String} {fields : List Field}

/-- The text with the fields at the given positions joined in the place of all fields. -/
def rejoined (text : String) (fields : List Field) (order : List Nat) (separator : String) :
    String :=
  around text fields <|
    separator.intercalate ((order.filterMap (fields[·]?)).map (·.textIn text))

/-- Each field is in the result. -/
theorem textIn_infix_rejoined {order : List Nat} (perm : order.Perm (List.range fields.length))
    (separator : String) {f : Field} (hf : f ∈ fields) :
    (f.textIn text).toList <:+: (rejoined text fields order separator).toList := by
  have entry : f ∈ order.filterMap (fields[·]?) :=
    (filterMap_getElem?_perm fields perm).mem_iff.mpr hf
  cases fields with
  | nil => cases hf
  | cons g fields =>
    rw [rejoined, around_cons, String.toList_append, String.toList_append,
      String.toList_intercalate, List.map_map]
    refine List.IsInfix.trans ?_ (List.infix_append _ _ _)
    exact Text.infix_intercalate _ (List.mem_map.mpr ⟨f, entry, rfl⟩)

theorem mapM_entry (fields : List Field) {order : List Nat}
    (inList : ∀ i ∈ order, i < fields.length) :
    order.mapM (entry fields) = .ok (order.filterMap (fields[·]?)) := by
  induction order with
  | nil => rfl
  | cons i order ih =>
    obtain ⟨hi, ho⟩ := List.forall_mem_cons.mp inList
    have hs := List.getElem?_eq_getElem hi
    rw [List.mapM_cons, ih ho, entry, hs, List.filterMap_cons_some hs]
    rfl

theorem exists_rejoin {f : Field} (laidOut : LaidOut text (f :: fields)) {order : List Nat}
    (perm : order.Perm (List.range (f :: fields).length)) (separator : String) :
    ∃ e, rejoin text (f :: fields) order separator = .ok e ∧ 0 ≤ e.range.start ∧
      e.range.stop ≤ text.length ∧
      Edit.substitute text [e] = rejoined text (f :: fields) order separator := by
  have inList (i : Nat) (hi : i ∈ order) : i < (f :: fields).length :=
    List.mem_range.mp (perm.mem_iff.mp hi)
  have width := laidOut.start_le_last_stop
  have start := (laidOut.in_text f (by simp)).1
  have stop := (laidOut.in_text _ (List.getLast_mem (List.cons_ne_nil f fields))).2
  let body := separator.intercalate
    ((order.filterMap ((f :: fields)[·]?)).map (·.textIn text))
  refine ⟨⟨⟨_, _, width⟩, body⟩, ?_, start, stop, ?_⟩
  · have last := List.getLast?_eq_some_getLast (List.cons_ne_nil f fields)
    simp only [rejoin, mapM_entry _ inList, List.head?_cons, last]
    exact congrArg (Except.mapError PatchError.range) (Edit.replace_eq_ok width body)
  · rw [rejoined, around_cons, Edit.substitute, Edit.substituteFrom, Edit.substituteFrom,
      Text.slice_zero]

end Patch

namespace Engine
variable {e : Engine} {text : String} {fields : List Field}

theorem analysis_unfixable (h : e.policy.isOrdered fields = false) :
    e.analysis text fields false = .ok (some []) := by
  have moved : isIdentity (e.policy.sortOrder fields) = false := by
    cases moved : isIdentity (e.policy.sortOrder fields) with
    | false => rfl
    | true => exact absurd (e.policy.isOrdered_of_isIdentity moved) (by simp [h])
  simp [analysis, h, moved]

/-- A joined fix is offered for fixable lists only, and puts the fields in canonical order. -/
theorem analysis_joined (joined : e.style = .joined) (laidOut : LaidOut text fields)
    {fixable : Bool} {edits : List Edit} (h : e.analysis text fields fixable = .ok (some edits))
    (nonempty : edits ≠ []) :
    fixable = true ∧ ∃ session stats, EditSession.addFix { text } edits = .ok (true, session) ∧
      session.apply = .ok
        (Patch.rejoined text fields (e.policy.sortOrder fields) e.separator, stats) := by
  rw [analysis] at h
  split at h
  · cases h
  · split at h
    · cases h
    · next moved =>
      cases fixable with
      | false =>
        cases h
        exact absurd rfl nonempty
      | true =>
        refine ⟨rfl, ?_⟩
        cases fields with
        | nil => exact absurd rfl moved
        | cons f fields =>
          obtain ⟨fix, eq, start, stop, result⟩ :=
            Patch.exists_rejoin laidOut (e.policy.sortOrder_perm _) e.separator
          have single : edits = [fix] := by
            simp only [Bool.not_true, Bool.false_eq_true, if_false, joined, synthesize, eq] at h
            split at h
            · next unmoved => exact absurd (by simp [isIdentity, unmoved]) moved
            · cases h
              rfl
          subst single
          rw [← result]
          exact EditSession.apply_addFix text nonempty (List.pairwise_singleton _ _)
            fun _ h => List.mem_singleton.mp h ▸ ⟨start, stop⟩

end Engine

end FieldOrder
