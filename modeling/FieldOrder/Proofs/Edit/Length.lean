import FieldOrder.Proofs.Edit.Arranged
import Mathlib.Algebra.BigOperators.Group.List.Basic
import Mathlib.Algebra.GroupWithZero.Nat
import Mathlib.Algebra.Ring.Int.Defs

namespace FieldOrder

namespace Edit
variable {text : String} {e : Edit} {edits : List Edit}

theorem length_applyTo (start : 0 ≤ e.range.start) (text : String) : (e.applyTo text).length =
    min e.range.start.toNat text.length + e.replacement.length +
      (text.length - min e.range.stop.toNat text.length) := by
  have width := e.range.start_le_stop
  rw [← String.length_toList, ← String.length_toList, toList_applyTo]
  simp only [List.length_append, Text.toList_sliceTo, Text.toList_sliceFrom, List.length_take,
    List.length_drop, Text.clip_of_nonneg _ start, Text.clip_of_nonneg _ (Int.le_trans start width),
    String.length_toList]
  omega

theorem le_length_applyTo {pos : Int} (start : 0 ≤ e.range.start) (inText : pos ≤ text.length)
    (behind : pos ≤ e.range.start ∨ e.range.start = e.range.stop) :
    pos ≤ (e.applyTo text).length := by
  rw [length_applyTo start]
  omega

theorem le_length_foldr {pos : Int} (inText : pos ≤ text.length)
    (start : ∀ e ∈ edits, 0 ≤ e.range.start)
    (behind : ∀ e ∈ edits, pos ≤ e.range.start ∨ e.range.start = e.range.stop) :
    pos ≤ (edits.foldr (fun e text => e.applyTo text) text).length := by
  induction edits with
  | nil => exact inText
  | cons e rest ih =>
    obtain ⟨first, start⟩ := List.forall_mem_cons.mp start
    obtain ⟨behindFirst, behind⟩ := List.forall_mem_cons.mp behind
    exact le_length_applyTo first (ih start behind) behindFirst

/-- By how much an edit makes a text longer. -/
def gain (e : Edit) : Int := e.replacement.length - e.range.length

/-- Each edit finds its whole range in the text that the edits behind it left. -/
theorem length_foldr (loosely : edits.Pairwise LooselyBefore)
    (inText : ∀ e ∈ edits, 0 ≤ e.range.start ∧ e.range.stop ≤ text.length) :
    ((edits.foldr (fun e text => e.applyTo text) text).length : Int) =
      text.length + (edits.map gain).sum := by
  induction edits with
  | nil => simp
  | cons e rest ih =>
    obtain ⟨before, loosely⟩ := List.pairwise_cons.mp loosely
    obtain ⟨⟨start, stop⟩, inText⟩ := List.forall_mem_cons.mp inText
    have width := e.range.start_le_stop
    have whole : e.range.stop ≤ (rest.foldr (fun e text => e.applyTo text) text).length := by
      refine le_length_foldr stop (fun f hf => (inText f hf).1) fun f hf => ?_
      rcases before f hf with behind | ⟨at_, empty, -⟩
      · exact .inl behind
      · exact .inr (at_.trans empty.symm)
    rw [List.foldr_cons, length_applyTo start, List.map_cons, List.sum_cons, gain, TextRange.length]
    have later := ih loosely inText
    omega

theorem sum_gain (edits : List Edit) : (edits.map gain).sum =
    ((edits.map fun e => e.replacement.length).sum : Nat) -
      (edits.map fun e => e.range.length).sum := by
  induction edits with
  | nil => rfl
  | cons e rest ih =>
    simp only [List.map_cons, List.sum_cons, ih, gain]
    omega

end Edit

namespace EditSession
variable {s : EditSession}

theorem stats_gain (s : EditSession) :
    (s.stats.added : Int) - s.stats.removed = (s.accepted.map Edit.gain).sum := by
  have removed : s.stats.removed = (s.accepted.map fun e => e.range.length).sum := by
    rw [List.sum_eq_foldl, List.foldl_map]
    rfl
  have added : s.stats.added = (s.accepted.map fun e => e.replacement.length).sum := by
    rw [List.sum_eq_foldl, List.foldl_map]
    rfl
  rw [Edit.sum_gain, removed, added]

/-- A session that lies in its text makes it longer by what it adds, less what it removes. -/
theorem exists_apply_length (apart : s.Apart)
    (inText : ∀ e ∈ s.accepted, 0 ≤ e.range.start ∧ e.range.stop ≤ s.text.length) :
    ∃ fixed stats, s.apply = .ok (fixed, stats) ∧
      (fixed.length : Int) = s.text.length - stats.removed + stats.added := by
  refine ⟨_, _, apply_eq_foldr inText, ?_⟩
  have perm := s.fromStart_perm
  have longer := Edit.length_foldr (fromStart_looselyBefore_iff.mpr apart) fun e he =>
    inText e (perm.subset he)
  rw [(perm.map Edit.gain).sum_eq, ← stats_gain] at longer
  omega

end EditSession

end FieldOrder
