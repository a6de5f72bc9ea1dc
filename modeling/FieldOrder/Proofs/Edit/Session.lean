import FieldOrder.Edit.Session

namespace FieldOrder

theorem TextRange.overlaps_comm (a b : TextRange) : a.overlaps b = b.overlaps a := by
  rw [overlaps, overlaps, Bool.or_comm]

namespace EditSession

/-- No accepted fix overlaps another. -/
def Apart (s : EditSession) : Prop :=
  s.accepted.Pairwise fun e f => e.range.overlaps f.range = false

theorem apart_initial (text : String) : Apart { text } := .nil

variable {s s' s'' : EditSession} {edits : List Edit} {taken : Bool}

theorem addFix_of_merge {merged : Edit} (h : Edit.merge s.text edits = .ok merged) :
    s.addFix edits = .ok (if s.accepted.any fun e => merged.range.overlaps e.range then (false, s)
      else (true, { s with accepted := s.accepted ++ [merged] })) := by
  simp only [addFix, h, bind, Except.bind]
  split <;> rfl

theorem addFix_cases (h : s.addFix edits = .ok (taken, s')) :
    ∃ merged, Edit.merge s.text edits = .ok merged ∧
      ((taken = false ∧ s' = s ∧ ∃ e ∈ s.accepted, merged.range.overlaps e.range = true) ∨
        (taken = true ∧ s' = { s with accepted := s.accepted ++ [merged] } ∧
          ∀ e ∈ s.accepted, merged.range.overlaps e.range = false)) := by
  cases hm : Edit.merge s.text edits with
  | error e => simp [addFix, hm, bind, Except.bind] at h
  | ok merged =>
    refine ⟨merged, rfl, ?_⟩
    rw [addFix_of_merge hm] at h
    split at h
    · next conflict =>
      cases h
      exact .inl ⟨rfl, rfl, List.any_eq_true.mp conflict⟩
    · next free =>
      cases h
      exact .inr ⟨rfl, rfl, by simpa using free⟩

/-- From one session to the next some fixes were accepted, all merged from the given lists of
edits. -/
structure Extends (fixes : List (List Edit)) (n : Nat) (s s' : EditSession) : Prop where
  text_eq : s'.text = s.text
  length_eq : s'.accepted.length = s.accepted.length + n
  apart : s.Apart → s'.Apart
  merged : ∀ e ∈ s'.accepted, e ∈ s.accepted ∨ ∃ edits ∈ fixes, Edit.merge s.text edits = .ok e

namespace Extends

theorem refl (s : EditSession) : Extends [] 0 s s where
  text_eq := rfl
  length_eq := rfl
  apart := id
  merged _ := .inl

theorem addFix (h : s.addFix edits = .ok (taken, s')) :
    Extends [edits] (if taken then 1 else 0) s s' := by
  obtain ⟨merged, hm, ⟨rfl, rfl, -⟩ | ⟨rfl, rfl, free⟩⟩ := addFix_cases h
  · exact { refl s' with merged := fun _ => .inl }
  · refine ⟨rfl, by simp, fun apart => ?_, fun e he => ?_⟩
    · refine List.pairwise_append.mpr ⟨apart, List.pairwise_singleton _ _, ?_⟩
      intro e he f hf
      rw [List.mem_singleton.mp hf, TextRange.overlaps_comm]
      exact free e he
    · rcases List.mem_append.mp he with he | he
      · exact .inl he
      · exact .inr ⟨edits, by simp, List.mem_singleton.mp he ▸ hm⟩

theorem trans {fixes fixes' : List (List Edit)} {n n' : Nat} (h : Extends fixes n s s')
    (h' : Extends fixes' n' s' s'') : Extends (fixes ++ fixes') (n + n') s s'' where
  text_eq := h'.text_eq.trans h.text_eq
  length_eq := by rw [h'.length_eq, h.length_eq, Nat.add_assoc]
  apart := h'.apart ∘ h.apart
  merged e he := by
    rcases h'.merged e he with before | ⟨edits, hedits, hm⟩
    · rcases h.merged e before with first | ⟨edits, hedits, hm⟩
      · exact .inl first
      · exact .inr ⟨edits, List.mem_append_left _ hedits, hm⟩
    · exact .inr ⟨edits, List.mem_append_right _ hedits, h.text_eq ▸ hm⟩

end Extends

theorem boundsErrors_eq_nil
    (inText : ∀ e ∈ s.accepted, 0 ≤ e.range.start ∧ e.range.stop ≤ s.text.length) :
    s.boundsErrors = [] := by
  rw [boundsErrors, List.flatMap_eq_nil_iff]
  rintro ⟨e, i⟩ he
  obtain ⟨low, high⟩ := inText e (List.fst_mem_of_mem_zipIdx he)
  simp [boundsOf, low, high]

theorem apply_eq_ok
    (inText : ∀ e ∈ s.accepted, 0 ≤ e.range.start ∧ e.range.stop ≤ s.text.length) :
    s.apply = .ok (s.fromEnd.foldl (fun text e => e.applyTo text) s.text, s.stats) := by
  rw [apply, boundsErrors_eq_nil inText]

end EditSession

end FieldOrder
