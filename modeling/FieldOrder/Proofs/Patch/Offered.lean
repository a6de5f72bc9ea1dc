import FieldOrder.Proofs.Patch.Joined
import FieldOrder.Proofs.Patch.Positional

namespace FieldOrder

/-- The edit replaces all from the start of a field to the end of a field. -/
def Edit.Spans (fields : List Field) (e : Edit) : Prop :=
  (∃ f ∈ fields, e.range.start = f.start) ∧ ∃ g ∈ fields, e.range.stop = g.stop

/-- The edit takes away a whole field. -/
def Edit.Replaces (fields : List Field) (e : Edit) : Prop :=
  ∃ f ∈ fields, e.range.start ≤ f.start ∧ f.stop ≤ e.range.stop

theorem LaidOut.stop_le_last_stop {text : String} {fields : List Field} {first last : Field}
    (h : LaidOut text fields) (hfirst : fields.head? = some first)
    (hlast : fields.getLast? = some last) : first.stop ≤ last.stop := by
  obtain ⟨rest, rfl⟩ := List.head?_eq_some_iff.mp hfirst
  rcases List.mem_cons.mp (List.mem_of_getLast? hlast) with rfl | behind
  · exact Int.le_refl _
  · exact Int.le_trans (List.rel_of_pairwise_cons h.in_order behind)
      (h.start_le_stop last (List.mem_of_getLast? hlast))

namespace Patch
variable {text : String} {fields : List Field} {order : List Nat}

/-- A joined edit reaches from the start of the first field to the end of the last. -/
theorem exists_ends_of_rejoin {separator : String} {e : Edit}
    (h : rejoin text fields order separator = .ok e) :
    ∃ first last, fields.head? = some first ∧ fields.getLast? = some last ∧
      e.range.start = first.start ∧ e.range.stop = last.stop := by
  simp only [rejoin, bind, Except.bind] at h
  split at h
  · cases h
  · split at h
    · next first last hfirst hlast =>
      rw [Edit.replace, TextRange.ofBounds] at h
      split at h
      · cases h
        exact ⟨first, last, hfirst, hlast, rfl, rfl⟩
      · cases h
    · cases h

theorem rejoin_spans {separator : String} {e : Edit}
    (h : rejoin text fields order separator = .ok e) : e.Spans fields := by
  obtain ⟨first, last, hfirst, hlast, start, stop⟩ := exists_ends_of_rejoin h
  exact ⟨⟨first, List.mem_of_head? hfirst, start⟩, ⟨last, List.mem_of_getLast? hlast, stop⟩⟩

theorem rejoin_replaces (laidOut : LaidOut text fields) {separator : String} {e : Edit}
    (h : rejoin text fields order separator = .ok e) : e.Replaces fields := by
  obtain ⟨first, last, hfirst, hlast, start, stop⟩ := exists_ends_of_rejoin h
  exact ⟨first, List.mem_of_head? hfirst, Int.le_of_eq start,
    stop ▸ laidOut.stop_le_last_stop hfirst hlast⟩

theorem synthesize_replaces (laidOut : LaidOut text fields)
    (perm : order.Perm (List.range fields.length)) {style : FixStyle} {separator : String}
    {edits : List Edit} (h : synthesize text fields order style separator = .ok edits) :
    ∀ e ∈ edits, e.Replaces fields := by
  cases style with
  | positional =>
    obtain ⟨edits', eq, writes, -⟩ := exists_synthesize_positional laidOut perm separator
    rw [eq] at h
    cases h
    intro e he
    obtain ⟨f, hf, start, stop⟩ := writes.exists_field e he
    exact ⟨f, hf, Int.le_of_eq start, Int.le_of_eq stop.symm⟩
  | joined =>
    rw [synthesize] at h
    split at h
    · cases h
      simp
    · cases joined : rejoin text fields order separator with
      | error e => simp [joined, Except.map] at h
      | ok e =>
        rw [joined] at h
        cases h
        intro e' he
        rw [List.mem_singleton.mp he]
        exact rejoin_replaces laidOut joined

theorem exists_synthesize (laidOut : LaidOut text fields)
    (perm : order.Perm (List.range fields.length)) (style : FixStyle) (separator : String) :
    ∃ edits, synthesize text fields order style separator = .ok edits ∧
      edits.Pairwise Edit.Before ∧ ∀ e ∈ edits, e.Spans fields := by
  cases style with
  | positional =>
    obtain ⟨edits, eq, writes, -⟩ := exists_synthesize_positional laidOut perm separator
    refine ⟨edits, eq, writes.in_order laidOut, fun e he => ?_⟩
    obtain ⟨f, hf, start, stop⟩ := writes.exists_field e he
    exact ⟨⟨f, hf, start⟩, ⟨f, hf, stop⟩⟩
  | joined =>
    rw [synthesize]
    split
    · exact ⟨[], rfl, .nil, by simp⟩
    · next moved =>
      cases fields with
      | nil =>
        -- Nothing moves where there is nothing.
        cases perm.eq_nil
        exact absurd rfl moved
      | cons f fields =>
        obtain ⟨e, eq, -⟩ := exists_rejoin laidOut perm separator
        refine ⟨[e], by rw [eq]; rfl, List.pairwise_singleton _ _, ?_⟩
        intro e' he
        rw [List.mem_singleton.mp he]
        exact rejoin_spans eq

end Patch

namespace Engine
variable {e : Engine} {text : String} {fields : List Field}

theorem exists_analysis (e : Engine) (laidOut : LaidOut text fields) (fixable : Bool) :
    ∃ result, e.analysis text fields fixable = .ok result ∧ ∀ edits ∈ result,
      edits.Pairwise Edit.Before ∧ ∀ edit ∈ edits, edit.Spans fields := by
  obtain ⟨edits, eq, inOrder, spans⟩ :=
    Patch.exists_synthesize laidOut (e.policy.sortOrder_perm fields) e.style e.separator
  rw [analysis]
  split
  · exact ⟨none, rfl, by simp⟩
  · split
    · exact ⟨none, rfl, by simp⟩
    · split
      · exact ⟨some [], rfl, by simp⟩
      · refine ⟨some edits, by rw [eq]; rfl, ?_⟩
        rintro _ ⟨⟩
        exact ⟨inOrder, spans⟩

theorem analysis_replaces (laidOut : LaidOut text fields) {fixable : Bool} {edits : List Edit}
    (h : e.analysis text fields fixable = .ok (some edits)) :
    ∀ edit ∈ edits, edit.Replaces fields := by
  rw [analysis] at h
  split at h
  · cases h
  · split at h
    · cases h
    · split at h
      · cases h
        simp
      · cases made : synthesize text fields (e.policy.sortOrder fields) e.style e.separator with
        | error cause => simp [made, Except.map] at h
        | ok edits' =>
          rw [made] at h
          cases h
          exact Patch.synthesize_replaces laidOut (e.policy.sortOrder_perm fields) made

/-- Edits that replace fields one by one neither drop nor repeat a character. -/
theorem substitute_perm_of_positional (positional : e.style = .positional)
    (laidOut : LaidOut text fields) {fixable : Bool} {edits : List Edit}
    (h : e.analysis text fields fixable = .ok (some edits)) :
    (Edit.substitute text edits).toList.Perm text.toList := by
  have perm := e.policy.sortOrder_perm fields
  obtain ⟨edits', eq, writes, -⟩ := Patch.exists_synthesize_positional laidOut perm e.separator
  rw [analysis] at h
  split at h
  · cases h
  · split at h
    · cases h
    · split at h
      · cases h
        simp [Edit.substitute, Edit.substituteFrom]
      · rw [positional, eq] at h
        cases h
        rw [writes.substitute_eq laidOut]
        exact Patch.rearranged_perm laidOut perm

end Engine

end FieldOrder
