import FieldOrder.Order

namespace FieldOrder

theorem split_eq_compare (a b flaggedFirst : Bool) :
    split a b flaggedFirst = compare (a != flaggedFirst) (b != flaggedFirst) := by
  cases a <;> cases b <;> cases flaggedFirst <;> rfl

theorem split_swap (a b flaggedFirst : Bool) :
    split a b flaggedFirst = (split b a flaggedFirst).swap := by
  rw [split_eq_compare, split_eq_compare]
  exact Std.OrientedOrd.eq_swap

namespace Collator

/-- The parts of the key of a name, the one that weighs most at the head. -/
def sortKey (c : Collator) (name : String) : List String :=
  (c.locale.map (·.transform (c.fold name))).toList ++
    [(c.rootKey name).letters, (c.rootKey name).accents, (c.rootKey name).swapped]

theorem compare_eq_sortKey (c : Collator) (a b : String) :
    c.compare a b = Ord.compare (c.sortKey a) (c.sortKey b) := by
  cases h : c.locale <;>
    simp [compare, sortKey, h, CollationKey.compare, LocaleKey.compare, localeKey]

end Collator

theorem compare_texts_eq_lt (xs ys : List String) : compare xs ys = .lt ↔ xs < ys := by
  induction xs generalizing ys with
  | nil => cases ys <;> simp
  | cons x xs ih =>
    cases ys with
    | nil => simp
    | cons y ys =>
      have head : compare x y = .lt ↔ x < y := compareOfLessAndEq_eq_lt
      rw [List.compare_cons_cons, Ordering.then_eq_lt, ih, head, List.cons_lt_cons_iff,
        Std.LawfulEqOrd.compare_eq_iff_eq]

namespace Policy

/-- Compares two fields by one criterion, where a missing name counts as an empty one. -/
def byCriterion (p : Policy) (c : Criterion) (a b : Field) : Ordering :=
  Id.run (p.judge (fun na nb => pure (p.collator.compare na nb)) a b (a.name.getD "")
    (b.name.getD "") c)

/-- Compares two fields by several criteria in turn. -/
def byCriteria (p : Policy) : List Criterion → Field → Field → Ordering
  | [], _, _ => .eq
  | c :: rest, a, b => (p.byCriterion c a b).then (p.byCriteria rest a b)

instance (p : Policy) (c : Criterion) : Std.TransCmp (p.byCriterion c) := by
  have flag (f : Field → Bool) (first : Bool) :
      Std.TransCmp fun a b => split (f a) (f b) first := by
    simp only [split_eq_compare]
    exact inferInstanceAs (Std.TransCmp (compareOn fun a => f a != first))
  cases c with
  | multiline => exact flag (·.multiline) _
  | reserved => exact flag (fun a => p.classifier.isReserved (a.name.getD "")) _
  | shorthand => exact flag Field.isShorthand _
  | callbacks => exact flag (fun a => p.classifier.isCallback (a.name.getD "")) _
  | names =>
    have keys : p.byCriterion .names =
        compareOn fun a => p.collator.sortKey (a.name.getD "") := by
      funext a b
      exact p.collator.compare_eq_sortKey _ _
    rw [keys]
    infer_instance

instance (p : Policy) (cs : List Criterion) : Std.TransCmp (p.byCriteria cs) := by
  induction cs with
  | nil => exact { eq_swap := rfl, isLE_trans := fun _ _ => rfl }
  | cons c rest ih => exact inferInstanceAs (Std.TransCmp (compareLex _ (p.byCriteria rest)))

theorem byCriteria_eq_eq (p : Policy) (cs : List Criterion) (a b : Field) :
    p.byCriteria cs a b = .eq ↔ ∀ c ∈ cs, p.byCriterion c a b = .eq := by
  induction cs with
  | nil => simp [byCriteria]
  | cons c rest ih => simp [byCriteria, Ordering.then_eq_eq, ih]

/-- Of the criteria that are enabled the first one that does not tie decides. -/
theorem byCriteria_filter_eq_lt (p : Policy) (enabled : Criterion → Bool) (cs : List Criterion)
    (a b : Field) :
    p.byCriteria (cs.filter enabled) a b = .lt ↔
      ∃ before c after, cs = before ++ c :: after ∧ enabled c = true ∧
        p.byCriterion c a b = .lt ∧
        ∀ d ∈ before, enabled d = true → p.byCriterion d a b = .eq := by
  induction cs with
  | nil => simp [byCriteria]
  | cons c rest ih =>
    have lt : p.byCriteria ((c :: rest).filter enabled) a b = .lt ↔
        (enabled c = true ∧ p.byCriterion c a b = .lt) ∨
          (enabled c = true → p.byCriterion c a b = .eq) ∧
            p.byCriteria (rest.filter enabled) a b = .lt := by
      by_cases h : enabled c = true <;> simp [h, byCriteria, Ordering.then_eq_lt]
    rw [lt, ih]
    constructor
    · rintro (⟨he, hc⟩ | ⟨hc, before, d, after, rfl, he, hd, ties⟩)
      · exact ⟨[], c, rest, rfl, he, hc, by simp⟩
      · exact ⟨c :: before, d, after, rfl, he, hd, List.forall_mem_cons.mpr ⟨hc, ties⟩⟩
    · rintro ⟨before, d, after, split, he, hd, ties⟩
      cases before with
      | nil =>
        cases split
        exact .inl ⟨he, hd⟩
      | cons e before =>
        cases split
        have ties := List.forall_mem_cons.mp ties
        exact .inr ⟨ties.1, before, d, after, rfl, he, hd, ties.2⟩

theorem firstDecision_judge (p : Policy) (cs : List Criterion) (a b : Field) {na nb : String}
    (ha : a.name = some na) (hb : b.name = some nb) :
    Id.run (firstDecision
      (p.judge (fun na nb => pure (p.collator.compare na nb)) a b na nb) cs) =
      p.byCriteria cs a b := by
  induction cs with
  | nil => rfl
  | cons c rest ih =>
    have first : p.byCriterion c a b =
        p.judge (m := Id) (fun na nb => pure (p.collator.compare na nb)) a b na nb c := by
      rw [byCriterion, ha, hb]
      rfl
    rw [byCriteria, first, ← ih]
    simp only [firstDecision]
    generalize p.judge (m := Id) _ a b na nb c = decision
    cases decision <;> rfl

theorem compare_of_rest (p : Policy) {a b : Field} (h : a.isRest = true ∨ b.isRest = true) :
    p.compare a b = split a.isRest b.isRest false := by
  have h : (a.isRest || b.isRest) = true := by simpa using h
  simp [compare, compareWith, h]

/-- Only a rest collector may follow a rest collector in order. -/
theorem isRest_of_not_gt {p : Policy} {a b : Field}
    (h : p.compare a b ≠ .gt) (ha : a.isRest = true) : b.isRest = true := by
  rw [p.compare_of_rest (.inl ha), ha] at h
  cases hb : b.isRest with
  | true => rfl
  | false =>
    rw [hb] at h
    exact absurd rfl h

theorem compare_of_unnamed (p : Policy) {a b : Field} (ha : a.isRest = false)
    (hb : b.isRest = false) (h : a.name = none ∨ b.name = none) : p.compare a b = .eq := by
  rcases h with h | h
  · simp [compare, compareWith, ha, hb, h]
  · cases a.name <;> simp [compare, compareWith, ha, hb, h]

theorem compare_of_named (p : Policy) {a b : Field} (ha : a.isRest = false)
    (hb : b.isRest = false) (na : a.name.isSome = true) (nb : b.name.isSome = true) :
    p.compare a b = p.byCriteria p.criteria a b := by
  obtain ⟨na, ha'⟩ := Option.isSome_iff_exists.mp na
  obtain ⟨nb, hb'⟩ := Option.isSome_iff_exists.mp nb
  rw [← p.firstDecision_judge p.criteria a b ha' hb']
  simp [compare, compareWith, ha, hb, ha', hb']

/-- Fields compare the other way round when they are swapped, nameless ones too. -/
theorem compare_swap (p : Policy) (a b : Field) : p.compare a b = (p.compare b a).swap := by
  by_cases rest : a.isRest = true ∨ b.isRest = true
  · rw [p.compare_of_rest rest, p.compare_of_rest rest.symm]
    exact split_swap ..
  · obtain ⟨ha, hb⟩ : a.isRest = false ∧ b.isRest = false := by simpa using rest
    by_cases nameless : a.name = none ∨ b.name = none
    · rw [p.compare_of_unnamed ha hb nameless, p.compare_of_unnamed hb ha nameless.symm]
      rfl
    · obtain ⟨na, nb⟩ := not_or.mp nameless
      have na := Option.isSome_iff_ne_none.mpr na
      have nb := Option.isSome_iff_ne_none.mpr nb
      rw [p.compare_of_named ha hb na nb, p.compare_of_named hb ha nb na]
      exact Std.OrientedCmp.eq_swap

instance (p : Policy) : Std.OrientedCmp p.compare := ⟨p.compare_swap _ _⟩

end Policy

/-- Rest collectors and fields with a name: the fields that have a place in the canonical order. -/
def Field.Orderable (f : Field) : Prop := f.isRest = true ∨ f.name.isSome = true

instance (f : Field) : Decidable f.Orderable := inferInstanceAs (Decidable (_ ∨ _))

/-- An entry with a name that is no rest collector. -/
def Field.Named (f : Field) : Prop := f.isRest = false ∧ f.name.isSome = true

/-- A computed key. -/
def Field.Unnamed (f : Field) : Prop := f.isRest = false ∧ f.name = none

theorem Field.not_orderable {f : Field} : ¬ f.Orderable ↔ f.Unnamed := by
  simp [Orderable, Unnamed]

theorem Field.Named.of_name (name : String) : Field.Named { name := some name } := ⟨rfl, rfl⟩

theorem Field.Named.orderable {f : Field} (h : f.Named) : f.Orderable := .inr h.2

namespace Policy

/-- The comparison of the fields that have a place in the canonical order. -/
def compareOrderable (p : Policy) (a b : { f : Field // f.Orderable }) : Ordering :=
  p.compare a.1 b.1

instance (p : Policy) : Std.OrientedCmp p.compareOrderable := ⟨p.compare_swap _ _⟩

instance (p : Policy) : Std.TransCmp p.compareOrderable where
  isLE_trans {a b c} hab hbc := by
    obtain ⟨a, ha⟩ := a
    obtain ⟨b, hb⟩ := b
    obtain ⟨c, hc⟩ := c
    change (p.compare a b).isLE = true at hab
    change (p.compare b c).isLE = true at hbc
    change (p.compare a c).isLE = true
    cases restC : c.isRest with
    | true =>
      rw [p.compare_of_rest (.inr restC), restC]
      cases a.isRest <;> rfl
    | false =>
      cases restB : b.isRest with
      | true =>
        rw [p.compare_of_rest (.inl restB), restB, restC] at hbc
        contradiction
      | false =>
        cases restA : a.isRest with
        | true =>
          rw [p.compare_of_rest (.inl restA), restA, restB] at hab
          contradiction
        | false =>
          have na := ha.resolve_left (by simp [restA])
          have nb := hb.resolve_left (by simp [restB])
          have nc := hc.resolve_left (by simp [restC])
          rw [p.compare_of_named restA restB na nb] at hab
          rw [p.compare_of_named restB restC nb nc] at hbc
          rw [p.compare_of_named restA restC na nc]
          exact Std.TransCmp.isLE_trans hab hbc

end Policy

end FieldOrder
