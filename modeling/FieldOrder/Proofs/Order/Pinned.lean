import FieldOrder.Proofs.Order.Settled
import FieldOrder.Proofs.Order.Stable

namespace FieldOrder

instance (f : Field) : Decidable f.Unnamed := inferInstanceAs (Decidable (_ ∧ _))

/-- The positions of the entries of one sort, from the first to the last. -/
def positions (which : Field → Bool) (fields : List Field) : List Nat :=
  (fields.zipIdx.filter fun (f, _) => which f).map (·.2)

section
variable {α : Type} {which : α → Bool} {xs : List α}

theorem filter_suffix (closed : xs.Pairwise fun a b => which a = true → which b = true) :
    xs.filter which <:+ xs := by
  induction xs with
  | nil => exact List.suffix_rfl
  | cons x xs ih =>
    obtain ⟨first, later⟩ := List.pairwise_cons.mp closed
    cases h : which x with
    | true =>
      have all : ∀ a ∈ x :: xs, which a = true :=
        List.forall_mem_cons.mpr ⟨h, fun a ha => first a ha h⟩
      simp only [List.filter_eq_self.mpr all, List.suffix_rfl]
    | false =>
      rw [List.filter_cons_of_neg (by simp [h])]
      exact (ih later).trans (List.suffix_cons x xs)

theorem pairwise_of_isChain_closed (chain : xs.IsChain fun a b => which a = true → which b = true) :
    xs.Pairwise fun a b => which a = true → which b = true := by
  let Closed (a b : α) : Prop := which a = true → which b = true
  have trans : Trans Closed Closed Closed := ⟨fun hab hbc ha => hbc (hab ha)⟩
  exact List.IsChain.pairwise (R := Closed) chain

end

namespace Policy
variable {p : Policy} {fields : List Field} {a b : Field × Nat}

/-- A rest collector or computed key is less than nothing but a rest collector. -/
theorem isRest_of_less {a b : Field} (ha : ¬ a.Named) (h : p.compare a b = .lt) :
    a.isRest = false ∧ b.isRest = true := by
  cases ra : a.isRest with
  | true =>
    rw [p.compare_of_rest (.inl ra), ra] at h
    cases hb : b.isRest <;> rw [hb] at h <;> cases h
  | false =>
    cases rb : b.isRest with
    | true => exact ⟨rfl, rfl⟩
    | false =>
      have nameless : a.name = none := by
        cases na : a.name with
        | none => rfl
        | some name => exact absurd ⟨ra, by rw [na]; rfl⟩ ha
      rw [p.compare_of_unnamed ra rb (.inl nameless)] at h
      cases h

theorem isOrdered_closed (ordered : p.isOrdered fields = true) :
    fields.Pairwise fun a b => a.isRest = true → b.isRest = true := by
  have chain := (p.isOrdered_iff_isChain fields).mp ordered
  exact pairwise_of_isChain_closed (chain.imp fun a b h => isRest_of_not_gt h)

theorem isRest_of_putBefore {sorted : List (Field × Nat)} (ha : ¬ a.1.Named)
    (put : PutBefore p.lessAt (fun a b => a.2 < b.2) sorted a b) :
    a.1.isRest = false ∧ b.1.isRest = true := by
  obtain ⟨stretch, last, -, overtakes⟩ := put
  have closed : stretch.Pairwise fun c d => c.1.isRest = true → d.1.isRest = true :=
    pairwise_of_isChain_closed (overtakes.inOrder.imp fun c d h =>
      isRest_of_not_gt (p.not_gt_of_not_lessAt h))
  cases stretch with
  | nil => cases last
  | cons c stretch =>
    have smaller : p.compare a.1 c.1 = .lt := beq_iff_eq.mp (overtakes.smaller c rfl)
    obtain ⟨notRest, rest⟩ := isRest_of_less ha smaller
    rcases List.mem_cons.mp (List.mem_of_mem_getLast? last) with rfl | later
    · exact ⟨notRest, rest⟩
    · exact ⟨notRest, (List.pairwise_cons.mp closed).1 b later rest⟩

/-- Entries of a sort of which none is put before another keep their order. -/
theorem filter_sorting_zipIdx (p : Policy) (fields : List Field) (which : Field → Bool)
    (kept : ∀ a b : Field × Nat, which a.1 = true → which b.1 = true →
      ¬ PutBefore p.lessAt (fun a b => a.2 < b.2) (sorting p.lessAt fields.zipIdx) a b) :
    (sorting p.lessAt fields.zipIdx).filter (fun (f, _) => which f) =
      fields.zipIdx.filter fun (f, _) => which f := by
  have sorted : ((sorting p.lessAt fields.zipIdx).filter fun (f, _) => which f).Pairwise
      fun a b => a.2 < b.2 := by
    refine List.Pairwise.imp_of_mem ?_ ((p.sorting_zipIdx_pairwise fields).filter _)
    intro a b ha hb standing
    have wa := (List.mem_filter.mp ha).2
    have wb := (List.mem_filter.mp hb).2
    exact standing.resolve_right (kept a b wa wb)
  refine List.Perm.eq_of_pairwise ?_ sorted ((zipIdx_pairwise fields).filter _)
    ((sorting_perm _ _).filter _)
  intro a b _ _ ab ba
  exact absurd ab (Nat.lt_asymm ba)

theorem filter_sorting_isRest (p : Policy) (fields : List Field) :
    (sorting p.lessAt fields.zipIdx).filter (fun (f, _) => f.isRest) =
      fields.zipIdx.filter fun (f, _) => f.isRest := by
  refine p.filter_sorting_zipIdx fields (·.isRest) fun a b ra _ put => ?_
  have notNamed : ¬ a.1.Named := fun named => by
    rw [named.1] at ra
    cases ra
  rw [(isRest_of_putBefore notNamed put).1] at ra
  cases ra

theorem filter_sorting_unnamed (p : Policy) (fields : List Field) :
    (sorting p.lessAt fields.zipIdx).filter (fun (f, _) => f.Unnamed) =
      fields.zipIdx.filter fun (f, _) => f.Unnamed := by
  refine p.filter_sorting_zipIdx fields (fun f => f.Unnamed) fun a b ua ub put => ?_
  have ua : a.1.Unnamed := of_decide_eq_true ua
  have ub : b.1.Unnamed := of_decide_eq_true ub
  have notNamed : ¬ a.1.Named := fun named => by
    rw [Field.Named, ua.2] at named
    cases named.2
  have rest := (isRest_of_putBefore notNamed put).2
  rw [ub.1] at rest
  cases rest

theorem sorting_zipIdx_closed (p : Policy) (fields : List Field) :
    (sorting p.lessAt fields.zipIdx).Pairwise
      fun a b => a.1.isRest = true → b.1.isRest = true := by
  have chain : (sorting p.lessAt fields.zipIdx).IsChain fun a b => p.lessAt b a = false :=
    sorting_isChain (List.pairwise_of_forall (settles_of_asymm p.lessAt_asymm))
  exact pairwise_of_isChain_closed (chain.imp fun a b h =>
    isRest_of_not_gt (p.not_gt_of_not_lessAt h))

/-- The rest collectors end the sorted list in the order in which they came; computed keys keep
their order too; and a list with anything behind a rest collector is not in order as it stands. -/
theorem sortOrder_pinned (p : Policy) (fields : List Field) :
    positions (·.isRest) fields <:+ p.sortOrder fields ∧
      (positions (fun f => f.Unnamed) fields).Sublist (p.sortOrder fields) ∧
      ∀ (i j : Nat) (a b : Field), i < j → fields[i]? = some a → fields[j]? = some b →
        a.isRest = true → b.isRest = false → p.isOrdered fields = false := by
  have order : p.sortOrder fields = (sorting p.lessAt fields.zipIdx).map (·.2) :=
    p.sortOrder_eq_sorting fields
  refine ⟨?_, ?_, ?_⟩
  · rw [order, positions, ← p.filter_sorting_isRest]
    exact (filter_suffix (p.sorting_zipIdx_closed fields)).map (·.2)
  · rw [order, positions, ← p.filter_sorting_unnamed]
    exact List.filter_sublist.map Prod.snd
  · intro i j a b hij ha hb ra rb
    obtain ⟨hi, rfl⟩ := List.getElem?_eq_some_iff.mp ha
    obtain ⟨hj, rfl⟩ := List.getElem?_eq_some_iff.mp hb
    refine eq_false_of_ne_true fun ordered => ?_
    have rest := List.pairwise_iff_getElem.mp (isOrdered_closed ordered) i j hi hj hij ra
    rw [rest] at rb
    cases rb

theorem sortOrder_pinned_mixed :
    let p : Policy := { classifier := ⟨["id"], .prefixes ["on"]⟩ }
    let fields : List Field := [{ kind := .rest }, {}, { name := some "onClick" },
      { kind := .rest }, { name := some "b" }, {}, { name := some "id" }]
    p.sortOrder fields = [1, 4, 2, 5, 6, 0, 3] ∧ positions (·.isRest) fields = [0, 3] ∧
      [0, 3] <:+ p.sortOrder fields ∧ positions (fun f => f.Unnamed) fields = [1, 5] ∧
      [1, 5].Sublist (p.sortOrder fields) ∧ p.isOrdered fields = false := by
  intro p fields
  obtain ⟨rests, unnamed, behind⟩ := p.sortOrder_pinned fields
  have order : p.sortOrder fields = [1, 4, 2, 5, 6, 0, 3] := by decide +kernel
  exact ⟨order, by decide, rests, by decide, unnamed,
    behind 0 1 _ _ (by decide) rfl rfl rfl rfl⟩

end Policy

end FieldOrder
