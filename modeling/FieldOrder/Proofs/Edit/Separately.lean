import FieldOrder.Proofs.Edit.Merging
import FieldOrder.Proofs.Edit.Simultaneous

namespace FieldOrder

namespace Edit
variable {text : String} {e f : Edit} {edits order : List Edit}

theorem merge_arranged (text : String) (edits : List Edit) :
    merge text (arranged edits) = merge text edits := by
  rw [merge_eq, merge_eq, arranged_arranged]

/-- Edits of ranges in the text that are not empty, no two of them overlapping. -/
structure Scattered (text : String) (edits : List Edit) : Prop where
  apart : edits.Pairwise fun e f => e.range.overlaps f.range = false
  filled : ∀ e ∈ edits, e.range.start < e.range.stop
  in_text : ∀ e ∈ edits, 0 ≤ e.range.start ∧ e.range.stop ≤ text.length

namespace Scattered
variable (scattered : Scattered text edits)
include scattered

theorem of_perm (perm : order.Perm edits) : Scattered text order where
  apart := by
    refine perm.symm.pairwise scattered.apart ?_
    intro e f h
    rw [TextRange.overlaps_comm]
    exact h
  filled e he := scattered.filled e (perm.subset he)
  in_text e he := scattered.in_text e (perm.subset he)

theorem arranged_before : (arranged edits).Pairwise Before := by
  rw [arranged_before_iff, List.pairwise_and_iff]
  exact ⟨scattered.apart, (pairwise_not_insertsAtStart scattered.filled).imp And.right⟩

/-- There is only one way to arrange the edits one behind another. -/
theorem eq_arranged_of_before (before : order.Pairwise Before) (perm : order.Perm edits) :
    order = arranged edits := by
  refine List.Perm.eq_of_pairwise ?_ before scattered.arranged_before
    (perm.trans (arranged_perm edits).symm)
  intro e f he hf hef hfe
  have widthE := scattered.filled e (perm.subset he)
  have widthF := f.range.start_le_stop
  simp only [Before] at hef hfe
  omega

end Scattered

end Edit

namespace EditSession
variable {text : String} {edits order : List Edit}

/-- A new session accepts the fixes one after another, and they make this of its text. -/
def Makes (text : String) (fixes : List (List Edit)) (fixed : String) : Prop :=
  ∃ session stats, Call.addAll fixes { text } = (fixes.map fun _ => .ok true, session) ∧
    session.apply = .ok (fixed, stats)

theorem makes_separately (scattered : Edit.Scattered text edits) :
    Makes text (edits.map fun e => [e]) (Edit.substitute text (Edit.arranged edits)) := by
  let session : EditSession := { text, accepted := edits }
  have steady := (Edit.pairwise_not_insertsAtStart scattered.filled).imp And.left
  have inOrder : Edit.InOrder text session.fromStart :=
    inOrder_fromStart (s := session) scattered.apart steady scattered.in_text
  have same : session.fromStart = Edit.arranged edits :=
    scattered.eq_arranged_of_before inOrder.before session.fromStart_perm
  refine ⟨session, session.stats, ?_, ?_⟩
  · refine Call.addAll_of_apart [] ?_ scattered.apart
    rw [List.forall₂_map_left_iff, List.forall₂_same]
    exact fun e _ => Edit.merge_singleton text e
  · rw [apply_eq_foldr scattered.in_text, Edit.foldr_applyTo inOrder, same]

/-- All edits as one fix. -/
theorem makes_together (nonempty : edits ≠ []) (scattered : Edit.Scattered text edits) :
    Makes text [edits] (Edit.substitute text (Edit.arranged edits)) := by
  have perm := Edit.arranged_perm edits
  have some : Edit.arranged edits ≠ [] := fun none => nonempty (none ▸ perm.symm).eq_nil
  obtain ⟨session, stats, added, applied⟩ := apply_addFix text some scattered.arranged_before
    fun e he => scattered.in_text e (perm.subset he)
  rw [addFix, Edit.merge_arranged] at added
  refine ⟨session, stats, ?_, applied⟩
  rw [Call.addAll, Call.runOn_add, addFix, added]
  rfl

/-- Edits that are not empty and do not overlap make the same of the text as one fix and as many, in
whatever order they are given. -/
theorem makes_of_scattered (scattered : Edit.Scattered text edits) (perm : order.Perm edits) :
    Makes text (order.map fun e => [e]) (Edit.substitute text (Edit.arranged edits)) ∧
      (order ≠ [] → Makes text [order] (Edit.substitute text (Edit.arranged edits))) := by
  have given := scattered.of_perm perm
  have same : Edit.arranged order = Edit.arranged edits :=
    scattered.eq_arranged_of_before given.arranged_before ((Edit.arranged_perm order).trans perm)
  rw [← same]
  exact ⟨makes_separately given, fun nonempty => makes_together nonempty given⟩

def touching : List Edit :=
  [⟨⟨0, 1, by decide⟩, ""⟩, Edit.bToY, ⟨⟨2, 3, by decide⟩, "CC"⟩]

theorem makes_of_scattered_touching :
    Edit.Scattered "abcd" touching ∧ touching.reverse.Perm touching ∧ touching.reverse ≠ [] ∧
      Makes "abcd" (touching.reverse.map fun e => [e]) "YCCd" ∧
      Makes "abcd" [touching.reverse] "YCCd" := by
  have scattered : Edit.Scattered "abcd" touching := ⟨by decide, by decide, by decide⟩
  have perm := List.reverse_perm touching
  have sorted : Edit.arranged touching = touching := List.mergeSort_of_pairwise (by decide)
  have result : Edit.substitute "abcd" (Edit.arranged touching) = "YCCd" := by
    rw [sorted]
    rfl
  obtain ⟨many, one⟩ := makes_of_scattered scattered perm
  rw [result] at many one
  exact ⟨scattered, perm, by decide, many, one (by decide)⟩

end EditSession

end FieldOrder
