import FieldOrder.Text.Case
import FieldOrder.Text.Decomposition

namespace FieldOrder.Text

/-- No image of the entry holds the code point. -/
def CodeMapping.avoids (m : CodeMapping) (code : Nat) : Bool :=
  (code < m.target || m.target + (m.domain.last - m.domain.first) < code) && !m.more.contains code

theorem toNat_eq_of_ofNat {n : Nat} {c : Char} (hc : c ≠ '\x00') (h : Char.ofNat n = c) :
    n = c.toNat := by
  by_cases valid : n.isValidChar
  · rw [Char.ofNat, dif_pos valid] at h
    rw [← h]
    rfl
  · rw [Char.ofNat, dif_neg valid] at h
    exact absurd h.symm hc

theorem CodeMapping.not_mem_image {m : CodeMapping} {c : Char} (hc : c ≠ '\x00')
    (misses : m.avoids c.toNat = true) {code : Nat} (inDomain : m.domain.contains code = true) :
    c ∉ m.image code := by
  simp only [avoids, Bool.and_eq_true, Bool.or_eq_true, decide_eq_true_eq, Bool.not_eq_true',
    List.contains_eq_mem, decide_eq_false_iff_not] at misses
  simp only [CodeRange.contains, Bool.and_eq_true, Nat.ble_eq] at inDomain
  obtain ⟨beside, more⟩ := misses
  intro mem
  rcases List.mem_cons.mp mem with first | mem
  · have := toNat_eq_of_ofNat hc first.symm
    omega
  · obtain ⟨n, hn, eq⟩ := List.mem_map.mp mem
    rw [toNat_eq_of_ofNat hc eq] at hn
    exact more hn

theorem CodeMap.exists_of_find? {m : CodeMap} {c : Char} {image : List Char}
    (found : m.find? c = some image) :
    ∃ entry ∈ m.mappings, entry.domain.contains c.toNat = true ∧ entry.image c.toNat = image := by
  obtain ⟨entry, first, eq⟩ := Option.map_eq_some_iff.mp found
  have inDomain := List.find?_some first
  exact ⟨entry, List.mem_of_find?_eq_some first, inDomain, eq⟩

theorem CodeMap.not_mem_of_find? {m : CodeMap} {c d : Char} (hc : c ≠ '\x00')
    (misses : m.mappings.all (·.avoids c.toNat) = true) {image : List Char}
    (found : m.find? d = some image) : c ∉ image := by
  obtain ⟨entry, mem, inDomain, rfl⟩ := exists_of_find? found
  exact CodeMapping.not_mem_image hc (List.all_eq_true.mp misses entry mem) inDomain

theorem CodeMap.apply_ne_nil (m : CodeMap) (c : Char) : m.apply c ≠ [] := by
  rw [apply]
  cases found : m.find? c with
  | none => simp
  | some image =>
    obtain ⟨entry, -, -, rfl⟩ := exists_of_find? found
    simp [CodeMapping.image]

/-- A map with no final sigma among its images gives one for itself at most. -/
theorem CodeMap.not_mem_apply {m : CodeMap} {c : Char}
    (misses : m.mappings.all (·.avoids '\u03c2'.toNat) = true)
    (moves : c = '\u03c2' → (m.find? c).isSome) : '\u03c2' ∉ m.apply c := by
  rw [apply]
  cases found : m.find? c with
  | some image => exact not_mem_of_find? (by decide) misses found
  | none =>
    intro mem
    have := moves (List.mem_singleton.mp mem).symm
    rw [found] at this
    cases this

theorem forall_ascii {P : Char → Prop} (h : ∀ n < 128, P (Char.ofNat n)) {c : Char}
    (hc : c.toNat < 128) : P c := by
  have value := h c.toNat hc
  rwa [Char.ofNat_toNat] at value

/-- The swapped case of a character that stands alone. -/
def swappedAlone (c : Char) : List Char := swapCaseAt [] c []

theorem swappedAlone_ne_nil (c : Char) : swappedAlone c ≠ [] := by
  rw [swappedAlone, swapCaseAt, lowerAt, lowerChar, upperChar]
  split
  · split
    · exact List.cons_ne_nil _ _
    · split
      · exact List.cons_ne_nil _ _
      · exact toLowerMap.apply_ne_nil c
  · split
    · split
      · exact List.cons_ne_nil _ _
      · exact toUpperMap.apply_ne_nil c
    · exact List.cons_ne_nil _ _

theorem finalSigma_not_mem_lowerChar {c : Char} (upper : isUpper c = true) :
    '\u03c2' ∉ lowerChar c := by
  rw [lowerChar]
  split
  · next ascii =>
    exact forall_ascii (P := fun c => '\u03c2' ∉ [c.toLower]) (by decide) ascii
  · refine CodeMap.not_mem_apply (by decide +kernel) fun eq => ?_
    subst eq
    exact absurd upper (by decide +kernel)

theorem finalSigma_not_mem_upperChar (c : Char) : '\u03c2' ∉ upperChar c := by
  rw [upperChar]
  split
  · next ascii =>
    exact forall_ascii (P := fun c => '\u03c2' ∉ [c.toUpper]) (by decide) ascii
  · refine CodeMap.not_mem_apply (by decide +kernel) fun eq => ?_
    subst eq
    decide +kernel

/-- Takes a final sigma for one that is not. -/
def medial (c : Char) : Char := if c = '\u03c2' then '\u03c3' else c

theorem map_medial_of_not_mem {cs : List Char} (h : '\u03c2' ∉ cs) : cs.map medial = cs := by
  refine (List.map_congr_left fun c hc => ?_).trans (List.map_id cs)
  refine if_neg fun eq => h ?_
  rwa [← eq]

theorem map_medial_swapCaseAt (before : List Char) (c : Char) (after : List Char) :
    (swapCaseAt before c after).map medial = swappedAlone c := by
  by_cases upper : isUpper c = true
  · simp only [swappedAlone, swapCaseAt, if_pos upper, lowerAt]
    by_cases sigma : c = '\u03a3'
    · rw [if_pos sigma, if_pos sigma]
      cases startsCased before && !startsCased after <;> decide
    · rw [if_neg sigma, if_neg sigma]
      exact map_medial_of_not_mem (finalSigma_not_mem_lowerChar upper)
  · simp only [swappedAlone, swapCaseAt, if_neg upper]
    by_cases lower : isLower c = true
    · rw [if_pos lower]
      exact map_medial_of_not_mem (finalSigma_not_mem_upperChar c)
    · rw [if_neg lower]
      refine map_medial_of_not_mem fun mem => lower ?_
      rw [← List.mem_singleton.mp mem]
      decide +kernel

theorem map_medial_swapCase (s : String) :
    (swapCase s).toList.map medial = s.toList.flatMap swappedAlone := by
  rw [swapCase, String.toList_ofList]
  generalize [] = before
  induction s.toList generalizing before with
  | nil => rfl
  | cons c after ih =>
    rw [mapInContext, List.map_append, map_medial_swapCaseAt, ih, List.flatMap_cons]

/-- What a character adds to the letters of a text. -/
def lettersOf (c : Char) : List Char :=
  ((decomposeChar c).filter (combiningClass · == 0)).flatMap foldChar

theorem filter_insertMark (c : Char) (cs : List Char) :
    (insertMark c cs).filter (combiningClass · == 0) =
      (c :: cs).filter (combiningClass · == 0) := by
  induction cs with
  | nil => rfl
  | cons d rest ih =>
    rw [insertMark]
    split
    · next passes =>
      simp only [Bool.and_eq_true, decide_eq_true_eq] at passes
      have markC : (combiningClass c == 0) = false := beq_false_of_ne (by omega)
      have markD : (combiningClass d == 0) = false := beq_false_of_ne (by omega)
      simp [ih, markC, markD]
    · rfl

theorem filter_orderMarks (cs : List Char) :
    (orderMarks cs).filter (combiningClass · == 0) = cs.filter (combiningClass · == 0) := by
  induction cs with
  | nil => rfl
  | cons c rest ih => simp only [orderMarks, filter_insertMark, List.filter_cons, ih]

theorem toList_letters (s : String) :
    (caseFold (withoutMarks (decompose s))).toList = s.toList.flatMap lettersOf := by
  simp only [caseFold, withoutMarks, decompose, String.toList_ofList]
  rw [filter_orderMarks, List.filter_flatMap, List.flatMap_assoc]
  rfl

end FieldOrder.Text
