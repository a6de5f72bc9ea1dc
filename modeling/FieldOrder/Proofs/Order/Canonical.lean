import FieldOrder.Proofs.Order.Comparison
import FieldOrder.Proofs.Order.Sort

namespace FieldOrder

def Stage.criterion : Stage → Criterion
  | .reserved => .reserved
  | .shorthand => .shorthand
  | .callbacks => .callbacks

namespace Policy

/-- All criteria of a policy in the order in which they are asked, enabled or not. -/
def stages (p : Policy) : List Criterion :=
  .multiline :: (p.precedence.map Stage.criterion ++ [.names])

def enabled (p : Policy) : Criterion → Bool
  | .multiline => p.multiline != .ignore
  | .reserved => p.reservedFirst
  | .shorthand => p.shorthand != .ignore
  | .callbacks => p.callbacksLast
  | .names => p.alphabetical

/-- A criterion finds no difference between two fields. -/
def Ties (p : Policy) (a b : Field) : Criterion → Prop
  | .multiline => a.multiline = b.multiline
  | .reserved =>
    p.classifier.isReserved (a.name.getD "") = p.classifier.isReserved (b.name.getD "")
  | .shorthand => a.isShorthand = b.isShorthand
  | .callbacks =>
    p.classifier.isCallback (a.name.getD "") = p.classifier.isCallback (b.name.getD "")
  | .names => p.collator.sortKey (a.name.getD "") = p.collator.sortKey (b.name.getD "")

/-- A criterion puts the first field before the second. -/
def Favours (p : Policy) (a b : Field) : Criterion → Prop
  | .multiline => a.multiline ≠ b.multiline ∧ (a.multiline = true ↔ p.multiline = .first)
  | .reserved =>
    p.classifier.isReserved (a.name.getD "") = true ∧
      p.classifier.isReserved (b.name.getD "") = false
  | .shorthand => a.isShorthand ≠ b.isShorthand ∧ (a.isShorthand = true ↔ p.shorthand = .first)
  | .callbacks =>
    p.classifier.isCallback (a.name.getD "") = false ∧
      p.classifier.isCallback (b.name.getD "") = true
  | .names => p.collator.sortKey (a.name.getD "") < p.collator.sortKey (b.name.getD "")

/-- The first enabled criterion that finds a difference puts the first field before the second. -/
def Favoured (p : Policy) (a b : Field) : Prop :=
  ∃ before c after, p.stages = before ++ c :: after ∧ p.enabled c = true ∧ p.Favours a b c ∧
    ∀ d ∈ before, p.enabled d = true → p.Ties a b d

/-- No enabled criterion finds a difference. -/
def Tied (p : Policy) (a b : Field) : Prop := ∀ c ∈ p.stages, p.enabled c = true → p.Ties a b c

/-- The entry at `i` of a field list belongs before the one at `j`: a rest collector comes after all
else, other entries stand as the criteria say, and what ties keeps its order. -/
def Precedes (p : Policy) (fields : List Field) (i j : Nat) : Prop :=
  ∃ a b, fields[i]? = some a ∧ fields[j]? = some b ∧
    (a.isRest = false ∧ b.isRest = true ∨
      a.isRest = false ∧ b.isRest = false ∧ p.Favoured a b ∨
      (a.isRest = true ∧ b.isRest = true ∨ a.isRest = false ∧ b.isRest = false ∧ p.Tied a b) ∧
        i < j)

theorem criteria_eq_filter (p : Policy) : p.criteria = p.stages.filter p.enabled := by
  have first : (if p.multiline = .ignore then [] else [.multiline]) =
      [Criterion.multiline].filter p.enabled := by
    by_cases h : p.multiline = .ignore <;> simp [List.filter_cons, enabled, h]
  have last : (if p.alphabetical then [.names] else []) = [Criterion.names].filter p.enabled := by
    by_cases h : p.alphabetical = true <;> simp [enabled, h]
  have between : p.precedence.filterMap p.stageCriterion? =
      (p.precedence.map Stage.criterion).filter p.enabled := by
    rw [← List.filterMap_eq_filter, List.filterMap_map]
    congr
    funext s
    cases s <;> simp [stageCriterion?, enabled, Stage.criterion, Option.guard] <;> rfl
  rw [criteria, first, between, last, ← List.filter_append, ← List.filter_append]
  rfl

theorem byCriterion_eq_eq (p : Policy) (a b : Field) (c : Criterion) :
    p.byCriterion c a b = .eq ↔ p.Ties a b c := by
  have flag (x y first : Bool) : split x y first = .eq ↔ x = y := by
    cases x <;> cases y <;> cases first <;> decide
  cases c with
  | names =>
    change p.collator.compare _ _ = .eq ↔ _
    rw [Collator.compare_eq_sortKey, Std.LawfulEqOrd.compare_eq_iff_eq]
    rfl
  | _ => exact flag ..

theorem byCriterion_eq_lt (p : Policy) (a b : Field) (c : Criterion) :
    p.byCriterion c a b = .lt ↔ p.Favours a b c := by
  have placed (x y : Bool) (place : Placement) :
      split x y (place = .first) = .lt ↔ x ≠ y ∧ (x = true ↔ place = .first) := by
    cases x <;> cases y <;> cases place <;> decide
  have first (x y : Bool) : split x y true = .lt ↔ x = true ∧ y = false := by
    cases x <;> cases y <;> decide
  have last (x y : Bool) : split x y false = .lt ↔ x = false ∧ y = true := by
    cases x <;> cases y <;> decide
  cases c with
  | multiline => exact placed ..
  | reserved => exact first ..
  | shorthand => exact placed ..
  | callbacks => exact last ..
  | names =>
    change p.collator.compare _ _ = .lt ↔ _
    rw [Collator.compare_eq_sortKey, compare_texts_eq_lt]
    rfl

theorem byCriteria_eq_eq_iff_tied (p : Policy) (a b : Field) :
    p.byCriteria p.criteria a b = .eq ↔ p.Tied a b := by
  simp only [criteria_eq_filter, byCriteria_eq_eq, List.mem_filter, byCriterion_eq_eq, Tied,
    and_imp]

theorem byCriteria_eq_lt_iff_favoured (p : Policy) (a b : Field) :
    p.byCriteria p.criteria a b = .lt ↔ p.Favoured a b := by
  simp only [criteria_eq_filter, byCriteria_filter_eq_lt, byCriterion_eq_eq, byCriterion_eq_lt,
    Favoured]

theorem precedes_iff {p : Policy} {fields : List Field} {i j : Nat} {a b : Field}
    (ha : fields[i]? = some a) (hb : fields[j]? = some b) (oa : a.Orderable) (ob : b.Orderable) :
    p.Precedes fields i j ↔ p.compare a b = .lt ∨ p.compare a b = .eq ∧ i < j := by
  rw [Precedes]
  simp only [ha, hb, Option.some.injEq, exists_and_left, exists_eq_left']
  cases ra : a.isRest with
  | true =>
    rw [p.compare_of_rest (.inl ra), ra]
    cases b.isRest <;> simp [split]
  | false =>
    cases rb : b.isRest with
    | true =>
      rw [p.compare_of_rest (.inr rb), ra, rb]
      simp [split]
    | false =>
      have na := oa.resolve_left (by simp [ra])
      have nb := ob.resolve_left (by simp [rb])
      rw [p.compare_of_named ra rb na nb, byCriteria_eq_lt_iff_favoured, byCriteria_eq_eq_iff_tied]
      simp

section
variable {p : Policy} {fields : List Field} (orderable : ∀ f ∈ fields, f.Orderable)
include orderable

theorem Precedes.exists_compare {i j : Nat} (h : p.Precedes fields i j) :
    ∃ a b : { f : Field // f.Orderable }, fields[i]? = some a.1 ∧ fields[j]? = some b.1 ∧
      (p.compareOrderable a b = .lt ∨ p.compareOrderable a b = .eq ∧ i < j) := by
  obtain ⟨a, b, ha, hb, -⟩ := id h
  have oa := orderable a (List.mem_of_getElem? ha)
  have ob := orderable b (List.mem_of_getElem? hb)
  exact ⟨⟨a, oa⟩, ⟨b, ob⟩, ha, hb, (precedes_iff ha hb oa ob).mp h⟩

theorem Precedes.trans {i j k : Nat} (hij : p.Precedes fields i j) (hjk : p.Precedes fields j k) :
    p.Precedes fields i k := by
  obtain ⟨a, b, ha, hb, hab⟩ := hij.exists_compare orderable
  obtain ⟨b', c, hb', hc, hbc⟩ := hjk.exists_compare orderable
  obtain rfl : b = b' := Subtype.ext (Option.some.inj (hb.symm.trans hb'))
  refine (precedes_iff ha hc a.2 c.2).mpr ?_
  change p.compareOrderable a c = .lt ∨ p.compareOrderable a c = .eq ∧ i < k
  rcases hab with hab | ⟨hab, ij⟩ <;> rcases hbc with hbc | ⟨hbc, jk⟩
  · exact .inl (Std.TransCmp.lt_trans hab hbc)
  · exact .inl (Std.TransCmp.lt_of_lt_of_eq hab hbc)
  · exact .inl (Std.TransCmp.lt_of_eq_of_lt hab hbc)
  · exact .inr ⟨Std.TransCmp.eq_trans hab hbc, ij.trans jk⟩

theorem Precedes.asymm {i j : Nat} (hij : p.Precedes fields i j) : ¬ p.Precedes fields j i := by
  intro hji
  obtain ⟨a, b, ha, hb, hab⟩ := hij.exists_compare orderable
  obtain ⟨b', a', hb', ha', hba⟩ := hji.exists_compare orderable
  obtain rfl : a = a' := Subtype.ext (Option.some.inj (ha.symm.trans ha'))
  obtain rfl : b = b' := Subtype.ext (Option.some.inj (hb.symm.trans hb'))
  have swap : p.compareOrderable b a = (p.compareOrderable a b).swap := Std.OrientedCmp.eq_swap
  rw [swap] at hba
  rcases hab with hab | ⟨hab, ij⟩ <;> rcases hba with hba | ⟨hba, ji⟩ <;> simp [hab] at hba
  exact absurd ij ji.asymm

theorem sortOrder_pairwise_precedes : (p.sortOrder fields).Pairwise (p.Precedes fields) := by
  have trans : Trans (p.Precedes fields) (p.Precedes fields) (p.Precedes fields) :=
    ⟨Precedes.trans orderable⟩
  apply List.IsChain.pairwise
  apply p.sortOrder_isChain
  intro i j hij hj
  have hi := hij.trans hj
  have oi := orderable _ (List.getElem_mem hi)
  have oj := orderable _ (List.getElem_mem hj)
  have swap := p.compare_swap fields[i] fields[j]
  have gi := List.getElem?_eq_getElem hi
  have gj := List.getElem?_eq_getElem hj
  split
  next h => exact (precedes_iff gj gi oj oi).mpr (.inl h)
  next h =>
    refine (precedes_iff gi gj oi oj).mpr ?_
    cases hc : p.compare fields[j] fields[i] with
    | lt => exact absurd hc h
    | eq => exact .inr ⟨by rw [swap, hc]; rfl, hij⟩
    | gt => exact .inl (by rw [swap, hc]; rfl)

end

/-- The sort is the one order of a field list in which any two entries stand as the policy says. -/
theorem sortOrder_eq_iff_precedes (p : Policy) (fields : List Field)
    (orderable : ∀ f ∈ fields, f.Orderable) (order : List Nat) :
    p.sortOrder fields = order ↔
      order.Perm (List.range fields.length) ∧ order.Pairwise (p.Precedes fields) := by
  constructor
  · rintro rfl
    exact ⟨p.sortOrder_perm fields, sortOrder_pairwise_precedes orderable⟩
  · rintro ⟨perm, standing⟩
    refine List.Perm.eq_of_pairwise ?_ (sortOrder_pairwise_precedes orderable) standing
      ((p.sortOrder_perm fields).trans perm.symm)
    intro i j _ _ hij hji
    exact absurd hji (hij.asymm orderable)

theorem sortOrder_eq_iff_precedes_mixed :
    let p : Policy := { classifier := ⟨["id"], .prefixes ["on"]⟩, shorthand := .first }
    let fields : List Field := [{ kind := .rest }, { name := some "onClick" },
      { name := some "label" }, { name := some "open", optional := true }, { name := some "id" }]
    (∀ f ∈ fields, f.Orderable) ∧ p.sortOrder fields = [4, 3, 2, 1, 0] ∧
      [4, 3, 2, 1, 0].Pairwise (p.Precedes fields) := by
  intro p fields
  have orderable : ∀ f ∈ fields, f.Orderable := by decide
  have order : p.sortOrder fields = [4, 3, 2, 1, 0] := by decide +kernel
  exact ⟨orderable, order, ((p.sortOrder_eq_iff_precedes fields orderable _).mp order).2⟩

end Policy

end FieldOrder
