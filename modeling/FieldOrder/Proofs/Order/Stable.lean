import FieldOrder.Proofs.Order.Overtaking
import FieldOrder.Proofs.Order.Settled

namespace FieldOrder

theorem sublist_or_sublist_of_mem {α : Type} {xs : List α} {a b : α} (ha : a ∈ xs) (hb : b ∈ xs)
    (ne : a ≠ b) : [a, b].Sublist xs ∨ [b, a].Sublist xs := by
  obtain ⟨before, after, rfl⟩ := List.append_of_mem ha
  rcases List.mem_append.mp hb with hb | hb
  · right
    exact (List.singleton_sublist.mpr hb).append (List.singleton_sublist.mpr List.mem_cons_self)
  · left
    have later : b ∈ after := (List.mem_cons.mp hb).resolve_left ne.symm
    exact ((List.singleton_sublist.mpr later).cons_cons a).trans (List.sublist_append_right _ _)

namespace Policy
variable {p : Policy} {fields : List Field} {a b c : Field}

theorem compare_eq_eq_iff_tied (ha : a.Named) (hb : b.Named) :
    p.compare a b = .eq ↔ p.Tied a b := by
  rw [p.compare_of_named ha.1 hb.1 ha.2 hb.2, byCriteria_eq_eq_iff_tied]

theorem orderable_of_compare_lt (hb : b.Named) (h : p.compare b c = .lt) : c.Orderable := by
  by_contra unnamed
  obtain ⟨rest, name⟩ := Field.not_orderable.mp unnamed
  rw [p.compare_of_unnamed hb.1 rest (.inr name)] at h
  cases h

theorem compare_gt_of_tied (ha : a.Named) (hb : b.Named) (hc : c.Orderable)
    (smaller : p.compare b c = .lt) (tied : p.compare b a = .eq) : p.compare c a = .gt := by
  have greater : p.compare c b = .gt := by rw [p.compare_swap, smaller]; rfl
  have same : p.compareOrderable ⟨c, hc⟩ ⟨b, hb.orderable⟩ =
      p.compareOrderable ⟨c, hc⟩ ⟨a, ha.orderable⟩ := Std.TransCmp.congr_right tied
  exact same.symm.trans greater

/-- A greater entry before a smaller one, where no entry is greater than the next, has a computed
key behind it. -/
theorem exists_unnamed {middle : List Field}
    (chain : (c :: (middle ++ [a])).IsChain fun a b => p.compare a b ≠ .gt)
    (hc : c.Orderable) (ha : a.Orderable) (greater : p.compare c a = .gt) :
    ∃ d ∈ middle, d.Unnamed := by
  by_contra none
  have between : ∀ d ∈ middle, d.Orderable := fun d hd =>
    Decidable.of_not_not fun unnamed => none ⟨d, hd, Field.not_orderable.mp unnamed⟩
  have orderable : ∀ d ∈ c :: (middle ++ [a]), d.Orderable := by
    simpa [hc, ha, or_imp, forall_and] using between
  have pairwise := p.pairwise_of_isChain orderable chain
  exact (List.pairwise_cons.mp pairwise).1 a (by simp) greater

theorem not_gt_of_not_lessAt (p : Policy) {a b : Field × Nat} (h : p.lessAt b a = false) :
    p.compare a.1 b.1 ≠ .gt := by
  intro greater
  rw [lessAt, p.compare_swap, greater] at h
  cases h

/-- Between tied entries that the sort swaps stand a greater entry and a computed key. -/
theorem exists_between_swapped {sorted : List (Field × Nat)} {x y : Field × Nat}
    (put : PutBefore p.lessAt (fun a b => a.2 < b.2) sorted y x)
    (hx : x.1.Named) (hy : y.1.Named) (tied : p.compare y.1 x.1 = .eq) :
    ∃ c d : Field × Nat, c.2 < y.2 ∧ d.2 < y.2 ∧ p.compare y.1 c.1 = .lt ∧ d.1.Unnamed ∧
      [y, c, d, x].Sublist sorted := by
  obtain ⟨stretch, last, within, overtakes⟩ := put
  obtain ⟨front, rfl⟩ := List.getLast?_eq_some_iff.mp last
  cases front with
  | nil =>
    have smaller : p.compare y.1 x.1 = .lt := beq_iff_eq.mp (overtakes.smaller x rfl)
    rw [tied] at smaller
    cases smaller
  | cons c middle =>
    have smaller : p.compare y.1 c.1 = .lt := beq_iff_eq.mp (overtakes.smaller c rfl)
    have hc := orderable_of_compare_lt hy smaller
    -- What is greater than the later entry is greater than the one that it ties with.
    have greater := compare_gt_of_tied hx hy hc smaller tied
    have chain : ((c :: middle ++ [x]).map Prod.fst).IsChain fun a b => p.compare a b ≠ .gt :=
      (List.isChain_map Prod.fst).mpr (overtakes.inOrder.imp fun d e => p.not_gt_of_not_lessAt)
    rw [List.map_append] at chain
    obtain ⟨_, mem, unnamed⟩ := exists_unnamed chain hc hx.orderable greater
    obtain ⟨d, hd, rfl⟩ := List.mem_map.mp mem
    refine ⟨c, d, overtakes.earlier c (by simp), overtakes.earlier d (by simp [hd]), smaller,
      unnamed, List.Sublist.trans ?_ within⟩
    exact (((List.singleton_sublist.mpr hd).append (.refl [x])).cons_cons c).cons_cons y

/-- Named entries that tie keep their order in the sorted list, unless the later one is less than an
entry before it which a computed key keeps in front of the earlier one. -/
theorem sortOrder_stable (p : Policy) (fields : List Field) {i j : Nat} (hij : i < j)
    (ha : fields[i]? = some a) (hb : fields[j]? = some b) (na : a.Named) (nb : b.Named)
    (tied : p.Tied a b) :
    [i, j].Sublist (p.sortOrder fields) ∨
      ∃ k u c d, k < j ∧ u < j ∧ fields[k]? = some c ∧ fields[u]? = some d ∧
        p.compare b c = .lt ∧ d.Unnamed ∧ [j, k, u, i].Sublist (p.sortOrder fields) := by
  have tied : p.compare b a = .eq := by
    rw [p.compare_swap, (compare_eq_eq_iff_tied na nb).mpr tied]
    rfl
  have place {k : Nat} {c : Field} (hc : fields[k]? = some c) :
      (c, k) ∈ sorting p.lessAt fields.zipIdx :=
    (sorting_perm _ _).mem_iff.mpr (List.mem_zipIdx_iff_getElem?.mpr hc)
  have differ : (a, i) ≠ (b, j) := fun h => absurd (Prod.mk.inj h).2 (Nat.ne_of_lt hij)
  have order : p.sortOrder fields = (sorting p.lessAt fields.zipIdx).map (·.2) :=
    p.sortOrder_eq_sorting fields
  rcases sublist_or_sublist_of_mem (place ha) (place hb) differ with kept | swapped
  · left
    rw [order]
    exact kept.map (·.2)
  · right
    have standing := List.pairwise_iff_forall_sublist.mp (p.sorting_zipIdx_pairwise fields) swapped
    have put := standing.resolve_left (Nat.lt_asymm hij)
    obtain ⟨c, d, ck, du, smaller, unnamed, within⟩ := exists_between_swapped put na nb tied
    have hc : c ∈ sorting p.lessAt fields.zipIdx := within.subset (by simp)
    have hd : d ∈ sorting p.lessAt fields.zipIdx := within.subset (by simp)
    refine ⟨c.2, d.2, c.1, d.1, ck, du, getElem?_of_mem_sorting hc, getElem?_of_mem_sorting hd,
      smaller, unnamed, ?_⟩
    rw [order]
    exact within.map (·.2)

def computedKeyAmong : List Field :=
  [{ name := some "a" }, { name := some "b" }, { name := some "onClick" }, { name := some "c" }, {},
    { name := some "d" }, { name := some "e" }]

def callbacksLastOnly : Policy := { classifier := .withPrefixes [] ["on"], alphabetical := false }

theorem sortOrder_computedKeyAmong :
    callbacksLastOnly.sortOrder computedKeyAmong = [0, 1, 3, 6, 2, 4, 5] := by
  decide +kernel

theorem tied_callbacksLastOnly :
    callbacksLastOnly.Tied { name := some "d" } { name := some "e" } :=
  (compare_eq_eq_iff_tied (.of_name "d") (.of_name "e")).mp (by decide +kernel)

theorem sortOrder_stable_computedKey :
    ∃ a b, computedKeyAmong[5]? = some a ∧ computedKeyAmong[6]? = some b ∧ a.Named ∧ b.Named ∧
      callbacksLastOnly.Tied a b ∧
      ∃ k u c d, k < 6 ∧ u < 6 ∧ computedKeyAmong[k]? = some c ∧ computedKeyAmong[u]? = some d ∧
        callbacksLastOnly.compare b c = .lt ∧ d.Unnamed ∧
        [6, k, u, 5].Sublist (callbacksLastOnly.sortOrder computedKeyAmong) := by
  have later : 5 < 6 := by decide
  have stable := callbacksLastOnly.sortOrder_stable computedKeyAmong later rfl rfl
    (.of_name "d") (.of_name "e") tied_callbacksLastOnly
  have swapped : ¬ [5, 6].Sublist (callbacksLastOnly.sortOrder computedKeyAmong) := by
    rw [sortOrder_computedKeyAmong]
    decide
  exact ⟨_, _, rfl, rfl, .of_name "d", .of_name "e", tied_callbacksLastOnly,
    stable.resolve_left swapped⟩

theorem sortOrder_unstable :
    callbacksLastOnly.alphabetical = false ∧ computedKeyAmong.length < 64 ∧
      ∃ a b, computedKeyAmong[5]? = some a ∧ computedKeyAmong[6]? = some b ∧ a.Named ∧ b.Named ∧
        callbacksLastOnly.Tied a b ∧
        callbacksLastOnly.sortOrder computedKeyAmong = [0, 1, 3, 6, 2, 4, 5] ∧
        ¬ [5, 6].Sublist (callbacksLastOnly.sortOrder computedKeyAmong) := by
  refine ⟨rfl, by decide, _, _, rfl, rfl, .of_name "d", .of_name "e", tied_callbacksLastOnly,
    sortOrder_computedKeyAmong, ?_⟩
  rw [sortOrder_computedKeyAmong]
  decide

end Policy

end FieldOrder
