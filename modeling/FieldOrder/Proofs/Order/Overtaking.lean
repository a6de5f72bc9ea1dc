import FieldOrder.Proofs.Order.Canonical
import FieldOrder.Proofs.Order.Sort

namespace FieldOrder

section
variable {α : Type} {less : α → α → Bool} {Earlier : α → α → Prop} {xs sorted : List α} {a b : α}

/-- An entry is less than the first of a stretch of entries that came earlier; of these none is
greater than the next. -/
structure Overtakes (less : α → α → Bool) (Earlier : α → α → Prop) (a : α) (stretch : List α) :
    Prop where
  earlier : ∀ c ∈ stretch, Earlier c a
  inOrder : stretch.IsChain fun b c => less c b = false
  smaller : ∀ c ∈ stretch.head?, less a c = true

/-- In the list an entry stands before another, which ends a stretch that it overtakes. -/
def PutBefore (less : α → α → Bool) (Earlier : α → α → Prop) (sorted : List α) (a b : α) : Prop :=
  ∃ stretch, b ∈ stretch.getLast? ∧ (a :: stretch).Sublist sorted ∧
    Overtakes less Earlier a stretch

theorem PutBefore.mono {sorted' : List α} (h : PutBefore less Earlier sorted a b)
    (sub : sorted.Sublist sorted') : PutBefore less Earlier sorted' a b := by
  obtain ⟨stretch, last, within, overtakes⟩ := h
  exact ⟨stretch, last, within.trans sub, overtakes⟩

theorem Overtakes.putBefore (h : Overtakes less Earlier a xs) (hb : b ∈ xs) :
    PutBefore less Earlier (a :: xs) a b := by
  obtain ⟨before, after, rfl⟩ := List.append_of_mem hb
  have start : (before ++ [b]) <+: before ++ b :: after := ⟨after, by simp⟩
  refine ⟨before ++ [b], by simp, start.sublist.cons_cons a, ?_, h.inOrder.prefix start, ?_⟩
  · exact fun c hc => h.earlier c (start.subset hc)
  · intro c hc
    have first : c ∈ (before ++ b :: after).head? := by
      cases before with
      | nil => exact hc
      | cons d before => exact hc
    exact h.smaller c first

theorem PutBefore.exists_less (h : PutBefore less Earlier sorted a b) :
    ∃ c ∈ sorted, Earlier c a ∧ less a c = true := by
  obtain ⟨stretch, last, within, overtakes⟩ := h
  cases stretch with
  | nil => cases last
  | cons c stretch =>
    have mem : c ∈ sorted := within.subset (by simp)
    exact ⟨c, mem, overtakes.earlier c List.mem_cons_self, overtakes.smaller c rfl⟩

variable (asymm : ∀ a b, less a b = true → less b a = false)
include asymm

/-- In a run that descends, put the other way round, each entry is put before those behind it. -/
theorem pairwise_putBefore_of_isChain (chain : sorted.IsChain fun a b => less a b = true)
    (later : sorted.Pairwise fun a b => Earlier b a) :
    sorted.Pairwise (PutBefore less Earlier sorted) := by
  induction sorted with
  | nil => exact .nil
  | cons a sorted ih =>
    obtain ⟨first, later⟩ := List.pairwise_cons.mp later
    have overtakes : Overtakes less Earlier a sorted := by
      refine ⟨first, chain.tail.imp fun b c => asymm b c, ?_⟩
      intro c hc
      cases sorted with
      | nil => cases hc
      | cons d sorted =>
        cases hc
        exact (List.isChain_cons_cons.mp chain).1
    refine .cons (fun b hb => overtakes.putBefore hb) ?_
    exact (ih chain.tail later).imp fun h => h.mono (List.sublist_cons_self a sorted)

/-- Whichever of two entries is put first, the other one is not less. -/
theorem settles_of_asymm (a b : α) : Settles less (fun a b => less b a = false) a b := by
  rw [Settles]
  split
  next smaller => exact asymm b a smaller
  next smaller => exact eq_false_of_ne_true smaller

theorem inserted_pairwise {p : α} (chain : sorted.IsChain fun a b => less b a = false)
    (pairwise : sorted.Pairwise fun a b => Earlier a b ∨ PutBefore less Earlier sorted a b)
    (earlier : ∀ a ∈ sorted, Earlier a p) :
    (inserted less sorted p).IsChain (fun a b => less b a = false) ∧
      (inserted less sorted p).Pairwise
        fun a b => Earlier a b ∨ PutBefore less Earlier (inserted less sorted p) a b := by
  constructor
  · exact inserted_isChain chain fun a _ => settles_of_asymm asymm a p
  · obtain ⟨lower, upper, rfl, eq, -, right⟩ := inserted_split less p sorted
    have sub : (lower ++ upper).Sublist (lower ++ p :: upper) :=
      (List.sublist_cons_self p upper).append_left lower
    have kept : (lower ++ upper).Pairwise
        fun a b => Earlier a b ∨ PutBefore less Earlier (lower ++ p :: upper) a b :=
      pairwise.imp fun h => h.imp_right fun put => put.mono sub
    -- The entry is less than the first of what it is put before, and that is in order.
    have overtakes : Overtakes less Earlier p upper :=
      ⟨fun c hc => earlier c (List.mem_append_right _ hc), chain.right_of_append, right⟩
    obtain ⟨inLower, inUpper, across⟩ := List.pairwise_append.mp kept
    rw [eq]
    refine List.pairwise_append.mpr ⟨inLower, inUpper.cons fun b hb => .inr ?_, fun a ha b hb => ?_⟩
    · exact (overtakes.putBefore hb).mono (List.sublist_append_right lower (p :: upper))
    · rcases List.mem_cons.mp hb with rfl | hb
      · exact .inl (earlier a (List.mem_append_left _ ha))
      · exact across a ha b hb

/-- In the sorted list an entry stands before another if it came earlier, or else it was put before
it. -/
theorem sorting_pairwise (inOrder : xs.Pairwise Earlier) :
    (sorting less xs).Pairwise
      fun a b => Earlier a b ∨ PutBefore less Earlier (sorting less xs) a b := by
  have both : (sorting less xs).IsChain (fun a b => less b a = false) ∧
      (sorting less xs).Pairwise
        fun a b => Earlier a b ∨ PutBefore less Earlier (sorting less xs) a b := by
    -- That the list is in order is needed on the way: it makes what is overtaken a stretch.
    refine sorting_induction (P := fun _ sorted => sorted.IsChain (fun a b => less b a = false) ∧
      sorted.Pairwise fun a b => Earlier a b ∨ PutBefore less Earlier sorted a b) ?_ ?_ ?_
    · intro run rest whole chain
      rw [whole] at inOrder
      exact ⟨chain, (List.pairwise_append.mp inOrder).1.imp .inl⟩
    · intro run rest whole descends
      rw [whole] at inOrder
      have chain : run.reverse.IsChain fun a b => less a b = true :=
        List.isChain_reverse.mpr descends
      have later : run.reverse.Pairwise fun a b => Earlier b a :=
        List.pairwise_reverse.mpr (List.pairwise_append.mp inOrder).1
      exact ⟨chain.imp fun a b => asymm a b,
        (pairwise_putBefore_of_isChain asymm chain later).imp .inr⟩
    · intro done p rest sorted whole perm ⟨chain, pairwise⟩
      rw [whole] at inOrder
      have across := (List.pairwise_append.mp inOrder).2.2
      exact inserted_pairwise asymm chain pairwise
        fun a ha => across a (perm.subset ha) p List.mem_cons_self
  exact both.2

end

namespace Policy
variable {p : Policy} {fields : List Field} {i j : Nat}

/-- An entry is less than some entry that stands before it. -/
def MovesForward (p : Policy) (fields : List Field) (i : Nat) : Prop :=
  ∃ k < i, ∃ a b, fields[k]? = some a ∧ fields[i]? = some b ∧ p.compare b a = .lt

/-- Fields with their positions, compared as fields. -/
def lessAt (p : Policy) (a b : Field × Nat) : Bool := p.compare a.1 b.1 == .lt

theorem lessAt_asymm (p : Policy) (a b : Field × Nat) (h : p.lessAt a b = true) :
    p.lessAt b a = false := by
  have smaller : p.compare a.1 b.1 = .lt := beq_iff_eq.mp h
  rw [lessAt, p.compare_swap, smaller]
  rfl

theorem zipIdx_pairwise (fields : List Field) : fields.zipIdx.Pairwise fun a b => a.2 < b.2 := by
  apply List.pairwise_map.mp
  rw [List.zipIdx_map_snd]
  exact List.pairwise_lt_range'

theorem sorting_zipIdx_pairwise (p : Policy) (fields : List Field) :
    (sorting p.lessAt fields.zipIdx).Pairwise fun a b => a.2 < b.2 ∨
      PutBefore p.lessAt (fun a b => a.2 < b.2) (sorting p.lessAt fields.zipIdx) a b :=
  sorting_pairwise p.lessAt_asymm (zipIdx_pairwise fields)

theorem getElem?_of_mem_sorting {a : Field × Nat} (h : a ∈ sorting p.lessAt fields.zipIdx) :
    fields[a.2]? = some a.1 :=
  List.mem_zipIdx_iff_getElem?.mp ((sorting_perm _ _).mem_iff.mp h)

theorem sortOrder_pairwise (p : Policy) (fields : List Field) :
    (p.sortOrder fields).Pairwise fun i j => i < j ∨ p.MovesForward fields i := by
  rw [sortOrder_eq_sorting, List.pairwise_map]
  refine (p.sorting_zipIdx_pairwise fields).imp_of_mem fun {a b} ha _ h => h.imp_right fun put => ?_
  obtain ⟨c, hc, earlier, smaller⟩ := put.exists_less
  exact ⟨c.2, earlier, c.1, a.1, getElem?_of_mem_sorting hc, getElem?_of_mem_sorting ha,
    beq_iff_eq.mp smaller⟩

/-- What stands first is related to what stands behind it. -/
theorem rel_of_idxOf_lt {R : Nat → Nat → Prop} (order : (p.sortOrder fields).Pairwise R)
    (hj : j < fields.length) (h : (p.sortOrder fields).idxOf i < (p.sortOrder fields).idxOf j) :
    R i j := by
  have mem : j ∈ p.sortOrder fields :=
    (p.sortOrder_perm fields).mem_iff.mpr (List.mem_range.mpr hj)
  have standing := List.idxOf_lt_length_of_mem mem
  have rel := List.pairwise_iff_getElem.mp order _ _ (Nat.lt_trans h standing) standing h
  rwa [List.getElem_idxOf, List.getElem_idxOf] at rel

theorem idxOf_ne (hij : i < j) (hj : j < fields.length) :
    (p.sortOrder fields).idxOf i ≠ (p.sortOrder fields).idxOf j := by
  have mem (k : Nat) (hk : k < fields.length) : k ∈ p.sortOrder fields :=
    (p.sortOrder_perm fields).mem_iff.mpr (List.mem_range.mpr hk)
  intro same
  have eq := (List.idxOf_inj (mem i (Nat.lt_trans hij hj))).mp same
  omega

/-- Of two entries that change places the later one moves forward. -/
theorem idxOf_lt_or_movesForward (hij : i < j) (hj : j < fields.length) :
    (p.sortOrder fields).idxOf i < (p.sortOrder fields).idxOf j ∨ p.MovesForward fields j := by
  rcases Nat.lt_or_gt_of_ne (idxOf_ne (p := p) hij hj) with before | behind
  · exact .inl before
  · rcases rel_of_idxOf_lt (p.sortOrder_pairwise fields) (Nat.lt_trans hij hj) behind with h | h
    · exact absurd h (Nat.lt_asymm hij)
    · exact .inr h

theorem idxOf_lt_iff (orderable : ∀ f ∈ fields, f.Orderable) (hij : i < j) {a b : Field}
    (ha : fields[i]? = some a) (hb : fields[j]? = some b) :
    (p.sortOrder fields).idxOf i < (p.sortOrder fields).idxOf j ↔ p.compare b a ≠ .lt := by
  have oa := orderable a (List.mem_of_getElem? ha)
  have ob := orderable b (List.mem_of_getElem? hb)
  obtain ⟨hj, -⟩ := List.getElem?_eq_some_iff.mp hb
  have standing := p.sortOrder_pairwise_precedes orderable
  have swap := p.compare_swap a b
  constructor
  · intro before less
    have precedes := rel_of_idxOf_lt standing hj before
    rw [precedes_iff ha hb oa ob, swap, less] at precedes
    rcases precedes with lt | ⟨eq, -⟩
    · cases lt
    · cases eq
  · intro stays
    refine (Nat.lt_or_gt_of_ne (idxOf_ne hij hj)).resolve_right fun behind => ?_
    have precedes := rel_of_idxOf_lt standing (Nat.lt_trans hij hj) behind
    rcases (precedes_iff hb ha ob oa).mp precedes with lt | ⟨-, ji⟩
    · exact stays lt
    · exact Nat.lt_asymm hij ji

end Policy

end FieldOrder
