import FieldOrder.Policy
import FieldOrder.Proofs.Order.Effectful

namespace FieldOrder

/-- Every kept key is the key of its text. -/
def CollationState.Faithful (c : Collator) (s : CollationState) : Prop :=
  ∀ locale, c.locale = some locale → ∀ kept ∈ s.keys, kept.2 = c.localeKey locale kept.1

namespace CollationState

theorem faithful_initial (c : Collator) : Faithful c {} := by
  intro _ _ kept h
  cases h

theorem Faithful.eq_of_lookup {c : Collator} {s : CollationState} (faithful : s.Faithful c)
    {locale : Locale} (h : c.locale = some locale) {text : String} {k : LocaleKey}
    (found : s.keys.lookup text = some k) : k = c.localeKey locale text := by
  obtain ⟨before, after, split, -⟩ := List.lookup_eq_some_iff.mp found
  exact faithful locale h (text, k) (by simp [split])

end CollationState

namespace Collator

/-- The texts without a kept key, each once. -/
def missing (s : CollationState) (texts : List String) : List String :=
  (texts.filter fun t => (s.keys.lookup t).isNone).eraseDups

theorem run_prime_of_none (c : Collator) (h : c.locale = none) (texts : List String)
    (s : CollationState) : (c.prime texts).run s = ((), s) := by
  simp only [prime, h]
  rfl

theorem run_prime_of_some (c : Collator) {locale : Locale} (h : c.locale = some locale)
    (texts : List String) (s : CollationState) :
    (c.prime texts).run s = ((), if missing s texts = [] then s else
      { s with
        keys := s.keys ++ (missing s texts).map fun t => (t, c.localeKey locale t)
        switches := s.switches + 1 }) := by
  by_cases empty : missing s texts = []
  · rw [if_pos empty]
    rw [missing] at empty
    simp [prime, h, empty]
    rfl
  · rw [if_neg empty]
    rw [missing] at empty
    simp [prime, h, empty, CollationState.under]
    rfl

theorem prime_yields (c : Collator) (texts : List String) :
    Yields (CollationState.Faithful c) (c.prime texts) () := by
  intro s faithful
  refine ⟨rfl, ?_⟩
  cases hl : c.locale with
  | none => rwa [run_prime_of_none c hl]
  | some locale =>
    rw [run_prime_of_some c hl]
    by_cases empty : missing s texts = []
    · rwa [if_pos empty]
    · rw [if_neg empty]
      intro locale' hl' kept mem
      obtain rfl : locale = locale' := Option.some.inj (hl.symm.trans hl')
      rcases List.mem_append.mp mem with mem | mem
      · exact faithful locale hl kept mem
      · obtain ⟨t, -, rfl⟩ := List.mem_map.mp mem
        rfl

theorem key_yields (c : Collator) {locale : Locale} (h : c.locale = some locale) (text : String) :
    Yields (CollationState.Faithful c) (c.key locale text) (c.localeKey locale text) := by
  intro s faithful
  cases found : s.keys.lookup text with
  | some k =>
    have run : (c.key locale text).run s = (k, s) := by
      simp [key, found]
      rfl
    rw [run]
    exact ⟨faithful.eq_of_lookup h found, faithful⟩
  | none =>
    obtain ⟨-, kept⟩ := c.prime_yields [text] s faithful
    generalize primed : ((c.prime [text]).run s).2 = t at kept
    have run : (c.key locale text).run s =
        ((t.keys.lookup text).getD (c.localeKey locale text), t) := by
      simp [key, found, ← primed]
      rfl
    rw [run]
    refine ⟨?_, kept⟩
    cases again : t.keys.lookup text with
    | some k => exact kept.eq_of_lookup h again
    | none => rfl

theorem compareKept_yields (c : Collator) (a b : String) :
    Yields (CollationState.Faithful c) (c.compareKept a b) (c.compare a b) := by
  rw [compareKept, compare]
  cases h : c.locale with
  | none => exact .pure _
  | some locale => exact (c.key_yields h a).bind ((c.key_yields h b).bind (.pure _))

end Collator

namespace Policy

theorem prime_yields (p : Policy) (fields : List Field) :
    Yields (CollationState.Faithful p.collator) (p.prime fields) () := by
  cases h : p.alphabetical with
  | true =>
    simp only [prime, h, if_true]
    exact p.collator.prime_yields _
  | false =>
    simp only [prime, h]
    exact .pure ()

theorem compareKept_yields (p : Policy) (a b : Field) :
    Yields (CollationState.Faithful p.collator) (p.compareKept a b) (p.compare a b) :=
  compareWith_gives (G := .always _) fun _ na _ nb _ => p.collator.compareKept_yields na nb

theorem isSortedBy_yields (p : Policy) (fields : List Field) :
    Yields (CollationState.Faithful p.collator) (isSortedBy p.compareKept fields)
      (p.isOrdered fields) :=
  isSortedBy_gives (G := .always _) (P := fun _ => True) (fun a b _ _ => p.compareKept_yields a b)
    fun _ _ => trivial

theorem sortOrderBy_yields (p : Policy) (fields : List Field) :
    Yields (CollationState.Faithful p.collator) (sortOrderBy p.compareKept fields)
      (p.sortOrder fields) :=
  sortOrderBy_gives (G := .always _) (P := fun _ => True) (fun a b _ _ => p.compareKept_yields a b)
    fun _ _ => trivial

end Policy

end FieldOrder
