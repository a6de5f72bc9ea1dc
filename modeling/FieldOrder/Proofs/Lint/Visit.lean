import FieldOrder.Lint.Basic
import FieldOrder.Proofs.Computation

namespace FieldOrder

variable {d : Document} {s : Site} {found : FieldList}

theorem Parameters.container_of_extract (h : extract d s = .ok (some found)) :
    found.container = .component := by
  simp only [extract] at h
  split at h
  · cases h
  · split at h
    · cases h
    · obtain ⟨component, -, h⟩ := bind_eq_ok.mp h
      obtain ⟨fields, -, h⟩ := bind_eq_ok.mp h
      cases h
      rfl

theorem Attributes.container_of_extract (h : extract d s = .ok (some found)) :
    found.container = .element := by
  simp only [extract] at h
  split at h
  · cases h
  · obtain ⟨fields, -, h⟩ := bind_eq_ok.mp h
    cases h
    rfl

theorem Members.container_of_extract (h : extract d s = .ok (some found)) :
    found.container = .interface ∨ found.container = .typeAlias := by
  simp only [extract] at h
  split at h
  · cases h
  · split at h
    · cases h
    · obtain ⟨fields, -, h⟩ := bind_eq_ok.mp h
      cases h
      exact ite_eq_or_eq ..

/-- A rule has a message for all that its shape finds. -/
theorem RuleKind.exists_message (k : RuleKind) (h : k.shape.extract d s = .ok (some found)) :
    ∃ message, k.message? found.container = some message := by
  cases k with
  | componentProps => exact ⟨_, by rw [Parameters.container_of_extract h]; rfl⟩
  | jsxProps => exact ⟨_, by rw [Attributes.container_of_extract h]; rfl⟩
  | typeProperties =>
    rcases Members.container_of_extract h with container | container
    · exact ⟨_, by rw [container]; rfl⟩
    · exact ⟨_, by rw [container]; rfl⟩

namespace BoundRule
variable {r : BoundRule}

theorem visit_of_extract_none (h : r.kind.shape.extract d s = .ok none) :
    r.visit d s = .ok none := by
  simp only [visit, h]
  rfl

section
variable (h : r.kind.shape.extract d s = .ok (some found))
include h

theorem exists_visit_eq : ∃ message, r.kind.message? found.container = some message ∧
    r.visit d s = (r.engine.inspect {} d.text found.fields found.fixable).map
      (Option.map (r.report d found.owner message)) := by
  obtain ⟨message, given⟩ := r.kind.exists_message h
  have extracted : (r.kind.shape.extract d s).mapError LintError.document = .ok (some found) := by
    rw [h]
    rfl
  refine ⟨message, given, ?_⟩
  simp only [visit, extracted, ok_bind, messageFor, given]
  rcases r.engine.inspect {} d.text found.fields found.fixable with e | _ | edits <;> rfl

theorem visit_eq_ok_some {v : Violation} : r.visit d s = .ok (some v) ↔
    ∃ edits message, r.engine.inspect {} d.text found.fields found.fixable = .ok (some edits) ∧
      r.kind.message? found.container = some message ∧
      v = r.report d found.owner message edits := by
  obtain ⟨message, given, visited⟩ := exists_visit_eq h
  simp only [visited, map_eq_ok, given, Option.map_eq_some_iff, Option.some_inj,
    exists_eq_left', exists_and_left]
  constructor
  · rintro ⟨_, inspected, edits, rfl, rfl⟩
    exact ⟨edits, inspected, rfl⟩
  · rintro ⟨edits, inspected, rfl⟩
    exact ⟨_, inspected, edits, rfl, rfl⟩

end

end BoundRule

end FieldOrder
