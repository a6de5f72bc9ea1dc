import FieldOrder.Proofs.Lint.Visit
import FieldOrder.Proofs.Patch.Agreement
import FieldOrder.Proofs.Computation

namespace FieldOrder

namespace BoundRule
variable {r : BoundRule} {d : Document} {s : Site}

/-- The rule orders names as a locale does. -/
structure UsesLocale (r : BoundRule) : Prop where
  kind_eq : r.kind = .jsxProps
  alphabetical : r.policy.alphabetical = true
  locale_isSome : r.policy.collator.locale.isSome = true

theorem UsesLocale.shape_eq (uses : r.UsesLocale) : r.kind.shape = .attributes := by
  rw [uses.kind_eq]
  rfl

/-- A rule with a locale is the one for attributes. -/
theorem usesLocale_of_lacksKey {fields : List Field} (h : r.policy.LacksKey fields) :
    r.UsesLocale := by
  obtain ⟨alphabetical, locale, -⟩ := h
  refine ⟨Decidable.byContradiction fun other => ?_, alphabetical, locale⟩
  rw [r.locale_eq_none other] at locale
  cases locale

theorem not_lacksKey_of_kind_ne (kind : r.kind ≠ .jsxProps) (fields : List Field) :
    ¬ r.policy.LacksKey fields := fun lacks => kind (usesLocale_of_lacksKey lacks).kind_eq

/-- A violation reports a field list that the analysis finds out of order. -/
theorem exists_report_of_visit {v : Violation} (h : r.visit d s = .ok (some v)) :
    ∃ found edits message, r.kind.shape.extract d s = .ok (some found) ∧
      r.engine.analysis d.text found.fields found.fixable = .ok (some edits) ∧
      v = r.report d found.owner message edits := by
  cases extracted : r.kind.shape.extract d s with
  | error e => simp [visit, extracted, bind_eq_ok, mapError_eq_ok] at h
  | ok result =>
    cases result with
    | none =>
      rw [visit_of_extract_none extracted] at h
      cases h
    | some found =>
      obtain ⟨edits, message, inspected, -, rfl⟩ := (visit_eq_ok_some extracted).mp h
      have analyzed := ((Engine.inspect_eq_ok (CollationState.faithful_initial _)).mp inspected).2
      exact ⟨found, edits, message, rfl, analyzed, rfl⟩

/-- A rule fails where it cannot read a field list, compute the keys of its names, or analyse it. It
never lacks a message. -/
theorem visit_error_cases {e : LintError} (h : r.visit d s = .error e) :
    (∃ cause, r.kind.shape.extract d s = .error cause) ∨
      ∃ found, r.kind.shape.extract d s = .ok (some found) ∧
        ((r.policy.LacksKey found.fields ∧ e = .collation .holdsNul) ∨
          ∃ cause, r.engine.analysis d.text found.fields found.fixable = .error cause) := by
  cases extracted : r.kind.shape.extract d s with
  | error cause => exact .inl ⟨cause, rfl⟩
  | ok result =>
    cases result with
    | none =>
      rw [visit_of_extract_none extracted] at h
      cases h
    | some found =>
      obtain ⟨message, -, visited⟩ := exists_visit_eq extracted
      have failed : r.engine.inspect {} d.text found.fields found.fixable = .error e := by
        rw [visited] at h
        cases inspected : r.engine.inspect {} d.text found.fields found.fixable with
        | error cause =>
          rw [inspected] at h
          cases h
          rfl
        | ok edits? =>
          rw [inspected] at h
          cases h
      exact .inr ⟨found, rfl, Engine.inspect_eq_error (CollationState.faithful_initial _) failed⟩

end BoundRule

variable {rules : List BoundRule} {d : Document} {vs : List Violation} {v : Violation}
  {e : LintError}

theorem exists_visit_of_mem_lintSite {s : Site} (h : lintSite rules d s = .ok vs) (hv : v ∈ vs) :
    ∃ r ∈ rules, r.visit d s = .ok (some v) := by
  rw [lintSite] at h
  split at h
  · cases h
    cases hv
  · obtain ⟨results, visited, h⟩ := bind_eq_ok.mp h
    cases h
    obtain ⟨_, hr, rfl⟩ := List.mem_filterMap.mp hv
    obtain ⟨r, mem, said⟩ := exists_rel_of_mem_right (forall₂_of_mapM_eq_ok visited) hr
    exact ⟨r, (List.mem_filter.mp mem).1, said⟩

theorem exists_visit_of_lintSite_error {s : Site} (h : lintSite rules d s = .error e) :
    s.node.hasError = false ∧ ∃ r ∈ rules, r.visit d s = .error e := by
  rw [lintSite] at h
  split at h
  · cases h
  · next shown =>
    simp only [Bool.or_eq_true, not_or, Bool.not_eq_true] at shown
    simp only [bind_eq_error, pure_ne_error, and_false, exists_false, or_false] at h
    obtain ⟨r, mem, failed⟩ := exists_error_of_mapM h
    exact ⟨shown.2, r, (List.mem_filter.mp mem).1, failed⟩

theorem lintDocument_of_found {root : Node} {found : List (List Violation)}
    (tree : d.tree = some root) (nonempty : rules ≠ [])
    (h : root.walk.mapM (lintSite rules d) = .ok found) :
    lintDocument rules d = .ok (Violation.sort found.flatten) := by
  have some : rules.isEmpty = false := by simpa using nonempty
  simp only [lintDocument, some, Document.root, tree, Bool.false_eq_true, if_false]
  exact bind_eq_ok.mpr ⟨root, rfl, bind_eq_ok.mpr ⟨found, h, rfl⟩⟩

theorem exists_visit_of_mem_lintDocument (h : lintDocument rules d = .ok vs) (hv : v ∈ vs) :
    ∃ root, d.tree = some root ∧ ∃ s ∈ root.walk, ∃ r ∈ rules, r.visit d s = .ok (some v) := by
  rw [lintDocument] at h
  split at h
  · cases h
    cases hv
  · obtain ⟨root, hroot, h⟩ := bind_eq_ok.mp h
    obtain ⟨found, visited, h⟩ := bind_eq_ok.mp h
    cases h
    obtain ⟨ws, hws, hv⟩ := List.mem_flatten.mp (List.mem_mergeSort.mp hv)
    obtain ⟨s, hs, site⟩ := exists_rel_of_mem_right (forall₂_of_mapM_eq_ok visited) hws
    refine ⟨root, ?_, s, hs, exists_visit_of_mem_lintSite site hv⟩
    rw [mapError_eq_ok, Document.root] at hroot
    cases tree : d.tree with
    | none => simp [tree] at hroot
    | some root' => simpa [tree] using hroot

theorem exists_visit_of_lintDocument_error {root : Node} (tree : d.tree = some root)
    (h : lintDocument rules d = .error e) :
    ∃ s ∈ root.walk, s.node.hasError = false ∧ ∃ r ∈ rules, r.visit d s = .error e := by
  have hroot : d.root.mapError LintError.document = .ok root := by
    rw [Document.root, tree]
    rfl
  rw [lintDocument, hroot] at h
  split at h
  · cases h
  · rcases bind_eq_error.mp h with h | ⟨_, found, h⟩
    · cases h
    · cases found
      simp only [bind_eq_error, pure_ne_error, and_false, exists_false, or_false] at h
      obtain ⟨s, hs, failed⟩ := exists_error_of_mapM h
      exact ⟨s, hs, exists_visit_of_lintSite_error failed⟩

end FieldOrder
