import FieldOrder.Lint.Fix
import FieldOrder.Proofs.Computation
import FieldOrder.Proofs.Edit.Session

namespace FieldOrder

variable {s s' : EditSession} {n : Nat} {v : Violation} {fixable : List Violation}

theorem acceptFixes_cons_eq_ok {rest : List Violation}
    (h : acceptFixes s (v :: rest) = .ok (n, s')) : ∃ taken s₁ m,
      s.addFix v.edits = .ok (taken, s₁) ∧ acceptFixes s₁ rest = .ok (m, s') ∧
        n = if taken then m + 1 else m := by
  simp only [acceptFixes, bind_eq_ok, pure_eq_ok, Prod.mk.injEq] at h
  obtain ⟨⟨taken, s₁⟩, first, ⟨m, s₂⟩, later, rfl, rfl⟩ := h
  exact ⟨taken, s₁, m, first, later, rfl⟩

theorem acceptFixes_extends (h : acceptFixes s fixable = .ok (n, s')) :
    EditSession.Extends (fixable.map (·.edits)) n s s' := by
  induction fixable generalizing s n with
  | nil =>
    cases h
    exact .refl _
  | cons v rest ih =>
    obtain ⟨taken, s₁, m, first, later, rfl⟩ := acceptFixes_cons_eq_ok h
    have count : (if taken then m + 1 else m) = (if taken then 1 else 0) + m := by
      cases taken <;> simp [Nat.add_comm]
    rw [count]
    exact (EditSession.Extends.addFix first).trans (ih later)

theorem acceptFixes_succeeds
    (mergeable : ∀ v ∈ fixable, ∃ merged, Edit.merge s.text v.edits = .ok merged) :
    ∃ n s', acceptFixes s fixable = .ok (n, s') := by
  induction fixable generalizing s with
  | nil => exact ⟨0, s, rfl⟩
  | cons v rest ih =>
    obtain ⟨⟨merged, hm⟩, later⟩ := List.forall_mem_cons.mp mergeable
    obtain ⟨⟨taken, s₁⟩, first⟩ : ∃ result, s.addFix v.edits = .ok result :=
      ⟨_, EditSession.addFix_of_merge hm⟩
    have text := (EditSession.Extends.addFix first).text_eq
    obtain ⟨n, s', rest⟩ := ih (s := s₁) (text ▸ later)
    exact ⟨_, s', by simp only [acceptFixes, first, rest, bind, Except.bind]; rfl⟩

/-- What is true of all merged fixes is true of those that a new session accepts. -/
theorem exists_acceptFixes {text : String} {P : Edit → Prop}
    (mergeable : ∀ v ∈ fixable, ∃ merged, Edit.merge text v.edits = .ok merged ∧ P merged) :
    ∃ n s', acceptFixes { text } fixable = .ok (n, s') ∧ s'.text = text ∧ s'.Apart ∧
      ∀ e ∈ s'.accepted, P e := by
  obtain ⟨n, s', added⟩ := acceptFixes_succeeds (s := { text }) fun v hv =>
    (mergeable v hv).imp fun _ h => h.1
  have run := acceptFixes_extends added
  refine ⟨n, s', added, run.text_eq, run.apart (EditSession.apart_initial text), fun e he => ?_⟩
  rcases run.merged e he with absent | ⟨edits, hedits, eq⟩
  · -- A new session has accepted nothing before.
    cases absent
  · obtain ⟨v, hv, rfl⟩ := List.mem_map.mp hedits
    obtain ⟨merged, eq', holds⟩ := mergeable v hv
    exact Except.ok.inj (eq'.symm.trans eq) ▸ holds

/-- The first fix meets none that could stand in its way. -/
theorem one_le_of_acceptFixes {text : String} (nonempty : fixable ≠ [])
    (h : acceptFixes { text } fixable = .ok (n, s')) : 1 ≤ n := by
  obtain ⟨v, rest, rfl⟩ := List.exists_cons_of_ne_nil nonempty
  obtain ⟨taken, s₁, m, first, -, rfl⟩ := acceptFixes_cons_eq_ok h
  obtain ⟨merged, -, ⟨-, -, e, he, -⟩ | ⟨rfl, -⟩⟩ := EditSession.addFix_cases first
  · cases he
  · exact Nat.le_add_left 1 m

end FieldOrder
