import FieldOrder.Proofs.Collation.Kept
import FieldOrder.Proofs.Order.Comparison

namespace FieldOrder.Policy

theorem not_gt_of_unnamed (p : Policy) {a c : Field} (ha : a.Unnamed) : p.compare a c ≠ .gt := by
  cases rc : c.isRest with
  | true =>
    rw [p.compare_of_rest (.inr rc), ha.1, rc]
    decide
  | false =>
    rw [p.compare_of_unnamed ha.1 rc (.inl ha.2)]
    decide

/-- What follows in order on an entry that follows on another follows on that, unless the entry
between them is a computed key. -/
theorem compare_trans (p : Policy) {a b c : Field} (hb : b.Orderable) (hab : p.compare a b ≠ .gt)
    (hbc : p.compare b c ≠ .gt) : p.compare a c ≠ .gt := by
  by_cases ha : a.Orderable
  · by_cases hc : c.Orderable
    · have ab : (p.compareOrderable ⟨a, ha⟩ ⟨b, hb⟩).isLE = true := Ordering.ne_gt_iff_isLE.mp hab
      have bc : (p.compareOrderable ⟨b, hb⟩ ⟨c, hc⟩).isLE = true := Ordering.ne_gt_iff_isLE.mp hbc
      have ac : (p.compareOrderable ⟨a, ha⟩ ⟨c, hc⟩).isLE = true := Std.TransCmp.isLE_trans ab bc
      exact Ordering.ne_gt_iff_isLE.mpr ac
    · -- Nothing but a rest collector follows on one, so there is none here.
      obtain ⟨rc, name⟩ := Field.not_orderable.mp hc
      have rb : b.isRest = false := eq_false_of_ne_true fun rb => by
        rw [isRest_of_not_gt hbc rb] at rc
        cases rc
      have ra : a.isRest = false := eq_false_of_ne_true fun ra => by
        rw [isRest_of_not_gt hab ra] at rb
        cases rb
      rw [p.compare_of_unnamed ra rc (.inr name)]
      decide
  · exact p.not_gt_of_unnamed (Field.not_orderable.mp ha)

/-- Fields compare the other way round when they are swapped; what is not greater is so all along a
chain of fields, if the one between has a name or is a rest collector; and it is all the same which
keys have been kept. -/
theorem compare_preorder (p : Policy) :
    (∀ a b, p.compare a b = (p.compare b a).swap) ∧
      (∀ a b c, b.Orderable → p.compare a b ≠ .gt → p.compare b c ≠ .gt →
        p.compare a c ≠ .gt) ∧
      ∀ kept : CollationState, kept.Faithful p.collator → ∀ a b,
        let compared := (p.compareKept a b).run kept
        compared.1 = p.compare a b ∧ compared.2.Faithful p.collator := by
  refine ⟨p.compare_swap, fun a b c hb hab hbc => p.compare_trans hb hab hbc, ?_⟩
  intro kept faithful a b
  exact p.compareKept_yields a b kept faithful

theorem compare_preorder_mixed :
    let collator : Collator := { ignoreCase := true, locale := some { name := "C" } }
    let p : Policy := { classifier := ⟨["id"], .prefixes ["on"]⟩, shorthand := .last
                        precedence := [.callbacks, .reserved, .callbacks], collator }
    let kept : CollationState := { keys := [("Label", collator.localeKey { name := "C" } "Label")] }
    let a : Field := { name := some "id" }
    let b : Field := { name := some "Label", optional := true }
    let c : Field := { kind := .rest }
    b.Orderable ∧ p.compare a b = .lt ∧ p.compare b c = .lt ∧ p.compare a c ≠ .gt ∧
      kept.Faithful collator ∧ ((p.compareKept a b).run kept).1 = p.compare a b := by
  intro collator p kept a b c
  obtain ⟨-, trans, sameKeys⟩ := p.compare_preorder
  have hb : b.Orderable := by decide
  have hab : p.compare a b = .lt := by decide +kernel
  have hbc : p.compare b c = .lt := by decide +kernel
  have faithful : kept.Faithful collator := by
    intro locale h entry mem
    cases h
    simp only [kept, List.mem_singleton] at mem
    subst mem
    rfl
  exact ⟨hb, hab, hbc, trans a b c hb (by simp [hab]) (by simp [hbc]), faithful,
    (sameKeys kept faithful a b).1⟩

end FieldOrder.Policy
