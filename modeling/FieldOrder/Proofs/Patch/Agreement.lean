import FieldOrder.Lint.Basic
import FieldOrder.Proofs.Order.Checked
import FieldOrder.Proofs.Patch.Analysis

namespace FieldOrder.Engine

theorem analysis_eq_none_iff (e : Engine) (text : String) (fields : List Field) (fixable : Bool) :
    e.analysis text fields fixable = .ok none ↔ e.policy.isOrdered fields = true := by
  rw [analysis, e.policy.isIdentity_sortOrder]
  cases e.policy.isOrdered fields with
  | true => simp
  | false =>
    cases fixable with
    | false => simp
    | true =>
      cases synthesize text fields (e.policy.sortOrder fields) e.style e.separator <;>
        simp [Except.map]

section
variable {e : Engine} {kept : CollationState} {text : String} {fields : List Field}
  {fixable : Bool}

theorem inspect_of_lacksKey (h : e.policy.LacksKey fields) :
    e.inspect kept text fields fixable = .error (.collation .holdsNul) := by
  rw [inspect, Policy.primeChecked_of_lacksKey h]
  rfl

theorem inspect_of_not_lacksKey (h : ¬ e.policy.LacksKey fields)
    (faithful : kept.Faithful e.policy.collator) :
    e.inspect kept text fields fixable = (e.analysis text fields fixable).mapError .patch := by
  rw [inspect, Policy.primeChecked_of_not_lacksKey h,
    ← (e.analyzeKept_yields text fields fixable kept faithful).1]
  rfl

theorem inspect_eq_ok (faithful : kept.Faithful e.policy.collator)
    {edits? : Option (List Edit)} : e.inspect kept text fields fixable = .ok edits? ↔
      ¬ e.policy.LacksKey fields ∧ e.analysis text fields fixable = .ok edits? := by
  by_cases lacks : e.policy.LacksKey fields
  · rw [inspect_of_lacksKey lacks]
    exact iff_of_false nofun fun h => h.1 lacks
  · rw [inspect_of_not_lacksKey lacks faithful, mapError_eq_ok, and_iff_right lacks]

theorem inspect_eq_error (faithful : kept.Faithful e.policy.collator) {cause : LintError}
    (h : e.inspect kept text fields fixable = .error cause) :
    (e.policy.LacksKey fields ∧ cause = .collation .holdsNul) ∨
      ∃ fault, e.analysis text fields fixable = .error fault := by
  by_cases lacks : e.policy.LacksKey fields
  · rw [inspect_of_lacksKey lacks] at h
    cases h
    exact .inl ⟨lacks, rfl⟩
  · rw [inspect_of_not_lacksKey lacks faithful, mapError_eq_error] at h
    obtain ⟨fault, failed, -⟩ := h
    exact .inr ⟨fault, failed⟩

theorem isIdentity_sort_of_check (faithful : kept.Faithful e.policy.collator) :
    let check := (isSortedBy e.policy.compareKept fields).run ((e.policy.prime fields).run kept).2
    let sort := (sortOrderBy e.policy.compareKept fields).run check.2
    check.1 = false → isIdentity sort.1 = false := by
  intro check sort failed
  obtain ⟨-, primed⟩ := e.policy.prime_yields fields kept faithful
  obtain ⟨checked, afterCheck⟩ := e.policy.isSortedBy_yields fields _ primed
  obtain ⟨sorted, -⟩ := e.policy.sortOrderBy_yields fields _ afterCheck
  change sort.1 = _ at sorted
  rw [sorted, e.policy.isIdentity_sortOrder]
  exact checked.symm.trans failed

end

/-- The check accepts the lists that the sort leaves as they are, and these are the ones about which
an analysis has nothing to say, whichever keys are kept. Once the check has failed the sort moves an
entry. Where a name lacks a collation key the analysis fails. -/
theorem inspect_eq_none_iff (e : Engine) (kept : CollationState) (text : String)
    (fields : List Field) (fixable : Bool) (faithful : kept.Faithful e.policy.collator) :
    let p := e.policy
    let check := (isSortedBy p.compareKept fields).run ((p.prime fields).run kept).2
    let sort := (sortOrderBy p.compareKept fields).run check.2
    (p.isOrdered fields = true ↔ p.sortOrder fields = List.range fields.length) ∧
      (isSortedBy p.compareChecked fields = .ok true ↔
        sortOrderBy p.compareChecked fields = .ok (List.range fields.length)) ∧
      (check.1 = false → isIdentity sort.1 = false) ∧
      if p.LacksKey fields then
        e.inspect kept text fields fixable = .error (.collation .holdsNul)
      else
        isSortedBy p.compareChecked fields = .ok (p.isOrdered fields) ∧
          sortOrderBy p.compareChecked fields = .ok (p.sortOrder fields) ∧
          (e.inspect kept text fields fixable = .ok none ↔ p.isOrdered fields = true) := by
  intro p check sort
  refine ⟨p.isOrdered_iff_sortOrder fields, p.isSortedBy_checked_iff fields,
    isIdentity_sort_of_check faithful, ?_⟩
  split
  next lacks => exact inspect_of_lacksKey lacks
  next keys =>
    refine ⟨Policy.isSortedBy_of_not_lacksKey keys, Policy.sortOrderBy_of_not_lacksKey keys, ?_⟩
    rw [inspect_of_not_lacksKey keys faithful, mapError_eq_ok]
    exact e.analysis_eq_none_iff text fields fixable

theorem inspect_eq_none_iff_unnamed :
    let collator : Collator := { locale := some { name := "C.UTF-8" } }
    let e : Engine := { policy := { collator }, style := .positional }
    let kept : CollationState := { keys := [("b", collator.localeKey { name := "C.UTF-8" } "b")] }
    let fields : List Field := [{ name := some "b" }, {}, { name := some "a" }]
    kept.Faithful collator ∧ e.policy.sortOrder fields = [0, 1, 2] ∧
      e.inspect kept "b [k] a" fields true = .ok none := by
  intro collator e kept fields
  have faithful : kept.Faithful collator := by
    intro locale h entry mem
    cases h
    simp only [kept, List.mem_singleton] at mem
    subst mem
    rfl
  obtain ⟨agree, -, -, outcome⟩ := e.inspect_eq_none_iff kept "b [k] a" fields true faithful
  have ordered : e.policy.isOrdered fields = true := by decide +kernel
  rw [if_neg (by decide)] at outcome
  exact ⟨faithful, agree.mp ordered, outcome.2.2.mpr ordered⟩

/-- A list of one field is in order, but its analysis fails if the name has no collation key. -/
theorem inspect_nul :
    let p : Policy := { collator := { locale := some { name := "C.UTF-8" } } }
    let e : Engine := { policy := p, style := .positional }
    let fields : List Field := [{ name := some "a\x00", stop := 2 }]
    Collator.ofOptions Locale.posix false (some "C") = .ok p.collator ∧ fields.length < 64 ∧
      isSortedBy p.compareChecked fields = .ok true ∧
      sortOrderBy p.compareChecked fields = .ok (List.range fields.length) ∧
      e.inspect {} "a\x00" fields true = .error (.collation .holdsNul) := by
  intro p e fields
  have lacks : p.LacksKey fields := by decide
  exact ⟨rfl, by decide, rfl, rfl, inspect_of_lacksKey lacks⟩

end FieldOrder.Engine
