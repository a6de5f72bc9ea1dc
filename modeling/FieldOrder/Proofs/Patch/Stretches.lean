import FieldOrder.Proofs.Patch.Analysis

namespace FieldOrder

namespace Policy

/-- In a list in order two entries compare as they stand where all from the one to the other have a
place in the canonical order. -/
theorem not_gt_of_isOrdered (p : Policy) {fields : List Field} (ordered : p.isOrdered fields = true)
    {i j : Nat} (hij : i < j) {a b : Field} (ha : fields[i]? = some a) (hb : fields[j]? = some b)
    (between : ∀ k d, i ≤ k → k ≤ j → fields[k]? = some d → d.Orderable) :
    p.compare a b ≠ .gt := by
  let stretch : List Field := (fields.drop i).take (j + 1 - i)
  have entry {n : Nat} (hn : n < j + 1 - i) : stretch[n]? = fields[i + n]? := by
    rw [List.getElem?_take_of_lt hn, List.getElem?_drop]
  have chain : stretch.IsChain fun a b => p.compare a b ≠ .gt :=
    (((p.isOrdered_iff_isChain fields).mp ordered).drop i).take _
  have orderable : ∀ d ∈ stretch, d.Orderable := by
    intro d hd
    obtain ⟨n, hn⟩ := List.mem_iff_getElem?.mp hd
    have short : n < j + 1 - i := by
      obtain ⟨inStretch, -⟩ := List.getElem?_eq_some_iff.mp hn
      exact Nat.lt_of_lt_of_le inStretch (List.length_take_le _ _)
    rw [entry short] at hn
    exact between (i + n) d (by omega) (by omega) hn
  have first : stretch[0]? = some a := by rw [entry (by omega)]; exact ha
  have last : stretch[j - i]? = some b := by
    rw [entry (by omega), show i + (j - i) = j by omega]
    exact hb
  obtain ⟨h0, rfl⟩ := List.getElem?_eq_some_iff.mp first
  obtain ⟨h1, rfl⟩ := List.getElem?_eq_some_iff.mp last
  have pairwise := p.pairwise_of_isChain orderable chain
  exact List.pairwise_iff_getElem.mp pairwise 0 (j - i) h0 h1 (by omega)

end Policy

namespace Engine

/-- The list as an analysis leaves it: rearranged if it reports edits, else as it stands. -/
def leaves (e : Engine) (fields : List Field) : Option (List Edit) → List Field
  | some _ => e.policy.sorted fields
  | none => fields

theorem leaves_perm (e : Engine) (fields : List Field) (result : Option (List Edit)) :
    (e.leaves fields result).Perm fields := by
  cases result with
  | none => exact .refl fields
  | some edits => exact filterMap_getElem?_perm fields (e.policy.sortOrder_perm fields)

theorem isOrdered_leaves {e : Engine} {text : String} {fields : List Field} {fixable : Bool}
    {result : Option (List Edit)} (h : e.analysis text fields fixable = .ok result) :
    e.policy.isOrdered (e.leaves fields result) = true := by
  cases result with
  | some edits => exact e.policy.isOrdered_sorted fields
  | none =>
    rw [analysis] at h
    split at h
    next ordered => exact ordered
    next =>
      split at h
      next identity => exact e.policy.isOrdered_of_isIdentity identity
      next =>
        split at h
        · cases h
        · cases made : synthesize text fields (e.policy.sortOrder fields) e.style e.separator <;>
            simp [made, Except.map] at h

/-- An analysis leaves named entries in canonical order that have no computed key between them. -/
theorem analyzeKept_stretches (e : Engine) (text : String) (fields : List Field) (fixable : Bool)
    (kept : CollationState) (faithful : kept.Faithful e.policy.collator)
    (result : Option (List Edit))
    (analyzed : ((e.analyzeKept text fields fixable).run kept).1 = .ok result) :
    let left := e.leaves fields result
    left.Perm fields ∧
      ∀ (i j : Nat) (a b : Field), i < j → left[i]? = some a → left[j]? = some b → a.Named →
        b.Named → (∀ (k : Nat) (d : Field), i < k → k < j → left[k]? = some d → ¬ d.Unnamed) →
        e.policy.compare a b ≠ .gt := by
  intro left
  have said := (e.analyzeKept_yields text fields fixable kept faithful).1
  have ordered : e.policy.isOrdered left = true := isOrdered_leaves (said.symm.trans analyzed)
  refine ⟨e.leaves_perm fields result, ?_⟩
  intro i j a b hij ha hb na nb between
  refine e.policy.not_gt_of_isOrdered ordered hij ha hb fun k d ik kj hd => ?_
  rcases Nat.eq_or_lt_of_le ik with rfl | ik
  · obtain rfl : a = d := Option.some.inj (ha.symm.trans hd)
    exact na.orderable
  rcases Nat.eq_or_lt_of_le kj with rfl | kj
  · obtain rfl : b = d := Option.some.inj (hb.symm.trans hd)
    exact nb.orderable
  exact Decidable.of_not_not fun unnamed =>
    between k d ik kj hd (Field.not_orderable.mp unnamed)

theorem analyzeKept_stretches_computedKey :
    let e : Engine := { policy := {}, style := .positional }
    let fields : List Field := [{ name := some "d", start := 2, stop := 3 },
      { start := 5, stop := 11 }, { name := some "c", start := 13, stop := 14 },
      { name := some "b", start := 16, stop := 17 }]
    let edits : List Edit := [⟨⟨13, 14, by decide⟩, "b"⟩, ⟨⟨16, 17, by decide⟩, "c"⟩]
    CollationState.Faithful e.policy.collator {} ∧
      ((e.analyzeKept "{ d, [k]: v, c, b }" fields true).run {}).1 = .ok (some edits) ∧
      ∃ a b, (e.leaves fields (some edits))[2]? = some a ∧
        (e.leaves fields (some edits))[3]? = some b ∧ e.policy.compare a b ≠ .gt := by
  intro e fields edits
  have faithful := CollationState.faithful_initial e.policy.collator
  have analyzed : ((e.analyzeKept "{ d, [k]: v, c, b }" fields true).run {}).1 =
      .ok (some edits) := by decide +kernel
  have ha : (e.leaves fields (some edits))[2]? =
      some { name := some "b", start := 16, stop := 17 } := by decide +kernel
  have hb : (e.leaves fields (some edits))[3]? =
      some { name := some "c", start := 13, stop := 14 } := by decide +kernel
  obtain ⟨-, stretches⟩ := e.analyzeKept_stretches "{ d, [k]: v, c, b }" fields true {} faithful
    (some edits) analyzed
  refine ⟨faithful, analyzed, _, _, ha, hb, ?_⟩
  refine stretches 2 3 _ _ (by decide) ha hb ⟨rfl, rfl⟩ ⟨rfl, rfl⟩ ?_
  intro k d lower upper
  omega

theorem analyze_computedKey_between :
    let e : Engine := { policy := {}, style := .positional }
    let a : Field := { name := some "a", start := 13, stop := 14 }
    let b : Field := { name := some "b", start := 2, stop := 3 }
    e.analyze "{ b, [k]: v, a }" [b, { start := 5, stop := 11 }, a] true = .ok none ∧
      a.Named ∧ b.Named ∧ e.policy.compare b a = .gt := by
  intro e a b
  exact ⟨by decide +kernel, ⟨rfl, rfl⟩, ⟨rfl, rfl⟩, by decide +kernel⟩

end Engine

end FieldOrder
