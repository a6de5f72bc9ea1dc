import FieldOrder.Patch
import FieldOrder.Proofs.Collation.Kept
import FieldOrder.Proofs.Order.Settled

namespace FieldOrder

namespace Engine

/-- The analysis with every comparison made anew. -/
def analysis (e : Engine) (text : String) (fields : List Field) (fixable : Bool) :
    Except PatchError (Option (List Edit)) :=
  if e.policy.isOrdered fields then .ok none
  else if isIdentity (e.policy.sortOrder fields) then .ok none
  else if !fixable then .ok (some [])
  else (synthesize text fields (e.policy.sortOrder fields) e.style e.separator).map some

theorem analyzeKept_yields (e : Engine) (text : String) (fields : List Field) (fixable : Bool) :
    Yields (CollationState.Faithful e.policy.collator) (e.analyzeKept text fields fixable)
      (e.analysis text fields fixable) := by
  refine (e.policy.prime_yields fields).bind ((e.policy.isSortedBy_yields fields).bind ?_)
  rw [analysis]
  split
  · exact .pure _
  · refine (e.policy.sortOrderBy_yields fields).bind ?_
    split
    · exact .pure _
    · split <;> exact .pure _

/-- What an analysis reports are the edits of the sort, and a list rearranged by the sort is in
order for the analyses that follow. -/
theorem analyzeKept_sorted (e : Engine) (text text' : String) (fields : List Field)
    (fixable fixable' : Bool) (kept : CollationState)
    (faithful : kept.Faithful e.policy.collator) :
    let order := e.policy.sortOrder fields
    let first := (e.analyzeKept text fields fixable).run kept
    let rearranged := order.filterMap (fields[·]?)
    (first.1 = .ok none ∨ first.1 =
      if fixable then (synthesize text fields order e.style e.separator).map some
      else .ok (some [])) ∧
    e.policy.isOrdered rearranged = true ∧
    ((e.analyzeKept text' rearranged fixable').run first.2).1 = .ok none := by
  intro order first rearranged
  obtain ⟨result, kept'⟩ := e.analyzeKept_yields text fields fixable kept faithful
  have settled : e.policy.isOrdered rearranged = true := e.policy.isOrdered_sorted fields
  refine ⟨?_, settled, ?_⟩
  · change first.1 = _ at result
    rw [result, analysis]
    split
    · exact .inl rfl
    · split
      · exact .inl rfl
      · right
        cases fixable <;> rfl
  · rw [(e.analyzeKept_yields text' rearranged fixable' _ kept').1, analysis, if_pos settled]

theorem analyzeKept_sorted_unnamed :
    let collator : Collator := { locale := some { name := "C" } }
    let e : Engine := { policy := { collator }, style := .positional }
    let kept : CollationState := { keys := [("b", collator.localeKey { name := "C" } "b")] }
    let fields : List Field :=
      [{ name := some "b" }, {}, { kind := .rest }, { name := some "a" }]
    let first := (e.analyzeKept "b c d a" fields true).run kept
    let rearranged := (e.policy.sortOrder fields).filterMap (fields[·]?)
    kept.Faithful collator ∧ e.policy.isOrdered rearranged = true ∧
      ((e.analyzeKept "" rearranged true).run first.2).1 = .ok none := by
  intro collator e kept fields first rearranged
  have faithful : kept.Faithful collator := by
    intro locale h entry mem
    cases h
    simp only [kept, List.mem_singleton] at mem
    subst mem
    rfl
  exact ⟨faithful, (e.analyzeKept_sorted "b c d a" "" fields true true kept faithful).2⟩

end Engine

end FieldOrder
