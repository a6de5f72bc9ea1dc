import FieldOrder.Proofs.Order.TieClasses
import FieldOrder.Proofs.Text.Case
import Mathlib.Data.List.Nodup

namespace FieldOrder

section
variable {α β : Type} [DecidableEq α]

/-- The entries of two lists at the first place where these differ, unless one of them ends there.
-/
def firstDifference : List α → List α → Option (α × α)
  | a :: as, b :: bs => if a = b then firstDifference as bs else some (a, b)
  | _, _ => none

theorem eq_of_firstDifference_none {f : α → List β} (nonempty : ∀ a, f a ≠ []) {as bs : List α}
    (images : as.flatMap f = bs.flatMap f) (h : firstDifference as bs = none) : as = bs := by
  induction as generalizing bs with
  | nil =>
    cases bs with
    | nil => rfl
    | cons b bs =>
      have empty := (List.append_eq_nil_iff.mp images.symm).1
      exact absurd empty (nonempty b)
  | cons a as ih =>
    cases bs with
    | nil =>
      have empty := (List.append_eq_nil_iff.mp images).1
      exact absurd empty (nonempty a)
    | cons b bs =>
      rw [firstDifference] at h
      split at h
      · next eq =>
        subst eq
        rw [ih (List.append_cancel_left images) h]
      · cases h

theorem prefix_or_prefix_of_firstDifference {f : α → List β} {as bs : List α} {a b : α}
    (images : as.flatMap f = bs.flatMap f) (h : firstDifference as bs = some (a, b)) :
    f a <+: f b ∨ f b <+: f a := by
  induction as generalizing bs with
  | nil => cases h
  | cons a' as ih =>
    cases bs with
    | nil => cases h
    | cons b' bs =>
      rw [firstDifference] at h
      split at h
      · next eq =>
        subst eq
        exact ih (List.append_cancel_left images) h
      · cases h
        have ofA : f a <+: (a :: as).flatMap f := List.prefix_append _ _
        have ofB : f b <+: (a :: as).flatMap f := images ▸ List.prefix_append _ _
        exact List.prefix_or_prefix_of_prefix ofA ofB

end

namespace Text

/-- One of the characters continues the other, in its swapped case and in its letters. -/
def Resemble (c d : Char) : Prop :=
  (swappedAlone c <+: swappedAlone d ∨ swappedAlone d <+: swappedAlone c) ∧
    (lettersOf c <+: lettersOf d ∨ lettersOf d <+: lettersOf c)

instance (c d : Char) : Decidable (Resemble c d) := inferInstanceAs (Decidable (_ ∧ _))

/-- Two texts first differ in characters that resemble each other. -/
def Alike (a b : String) : Prop :=
  ∃ differing ∈ firstDifference a.toList b.toList, Resemble differing.1 differing.2

instance (a b : String) : Decidable (Alike a b) := inferInstanceAs (Decidable (∃ _ ∈ _, _))

end Text

theorem CollationKey.compare_eq_eq {a b : CollationKey} : a.compare b = .eq ↔ a = b := by
  obtain ⟨lettersA, accentsA, swappedA⟩ := a
  obtain ⟨lettersB, accentsB, swappedB⟩ := b
  simp [compare, Ordering.then_eq_eq]

/-- Texts with one key are equal, unless they are alike. -/
theorem CollationKey.eq_or_alike {a b : String} (h : ofText a = ofText b) :
    a = b ∨ Text.Alike a b := by
  have swapped : a.toList.flatMap Text.swappedAlone = b.toList.flatMap Text.swappedAlone := by
    rw [← Text.map_medial_swapCase, ← Text.map_medial_swapCase]
    exact congrArg (fun key => key.swapped.toList.map Text.medial) h
  have letters : a.toList.flatMap Text.lettersOf = b.toList.flatMap Text.lettersOf := by
    rw [← Text.toList_letters, ← Text.toList_letters]
    exact congrArg (fun key => key.letters.toList) h
  cases differ : firstDifference a.toList b.toList with
  | none =>
    have eq := eq_of_firstDifference_none Text.swappedAlone_ne_nil swapped differ
    exact .inl (String.toList_inj.mp eq)
  | some differing =>
    have resemble : Text.Resemble differing.1 differing.2 :=
      ⟨prefix_or_prefix_of_firstDifference swapped differ,
        prefix_or_prefix_of_firstDifference letters differ⟩
    exact .inr ⟨differing, differ, resemble⟩

namespace Collator
variable {c : Collator} (ignoreCase : c.ignoreCase = false) (locale : c.locale = none)
include ignoreCase locale

theorem compare_eq_ofText (a b : String) :
    c.compare a b = (CollationKey.ofText a).compare (CollationKey.ofText b) := by
  simp [compare, rootKey, fold, ignoreCase, locale]

end Collator

namespace Policy

/-- Where names decide in the end, named fields that tie have names that tie. -/
theorem names_tie_of_compare {p : Policy} (alphabetical : p.alphabetical = true) {a b : Field}
    (ha : a.Named) (hb : b.Named) (tie : p.compare a b = .eq) :
    p.collator.compare (a.name.getD "") (b.name.getD "") = .eq := by
  rw [p.compare_of_named ha.1 hb.1 ha.2 hb.2, byCriteria_eq_eq] at tie
  have asked : .names ∈ p.criteria := by simp [criteria, alphabetical]
  exact tie .names asked

theorem sorted_eq_of_distinct (p : Policy) {fields fields' : List Field}
    (perm : fields.Perm fields') (orderable : ∀ f ∈ fields, f.Orderable)
    (distinct : ∀ a ∈ fields, ∀ b ∈ fields, p.compare a b = .eq → a = b) :
    p.sorted fields = p.sorted fields' := by
  have inFields : ∀ f ∈ p.sorted fields, f ∈ fields := (p.sorted_perm fields).subset
  have inFields' : ∀ f ∈ p.sorted fields', f ∈ fields :=
    fun f hf => perm.symm.subset ((p.sorted_perm fields').subset hf)
  have tied := p.forall₂_tied_sorted perm orderable
  generalize p.sorted fields = xs at *
  generalize p.sorted fields' = ys at *
  induction tied with
  | nil => rfl
  | cons tie rest ih =>
    obtain ⟨hx, hxs⟩ := List.forall_mem_cons.mp inFields
    obtain ⟨hy, hys⟩ := List.forall_mem_cons.mp inFields'
    rw [distinct _ hx _ hy tie, ih hxs hys]

end Policy

/-- Names that tie without a locale, case counting, are equal or alike; so fields with different
names, no two of them alike, have one canonical order, in whatever order they stood before. -/
theorem Collator.eq_or_alike_of_compare (c : Collator) (ignoreCase : c.ignoreCase = false)
    (locale : c.locale = none) :
    (∀ a b, c.compare a b = .eq → a = b ∨ Text.Alike a b) ∧
      ∀ p : Policy, p.collator = c → p.alphabetical = true → ∀ fields fields' : List Field,
        fields.Perm fields' → (∀ f ∈ fields, f.Named) → (fields.map (·.name)).Nodup →
        (∀ a ∈ fields, ∀ b ∈ fields, ¬ Text.Alike (a.name.getD "") (b.name.getD "")) →
          p.sorted fields = p.sorted fields' := by
  have names (a b : String) (tie : c.compare a b = .eq) : a = b ∨ Text.Alike a b := by
    rw [compare_eq_ofText ignoreCase locale, CollationKey.compare_eq_eq] at tie
    exact CollationKey.eq_or_alike tie
  refine ⟨names, fun p collator alphabetical fields fields' perm named distinct apart => ?_⟩
  refine p.sorted_eq_of_distinct perm (fun f hf => (named f hf).orderable) fun a ha b hb tie => ?_
  have tie := Policy.names_tie_of_compare alphabetical (named a ha) (named b hb) tie
  rw [collator] at tie
  have same := (names _ _ tie).resolve_right (apart a ha b hb)
  obtain ⟨na, hna⟩ := Option.isSome_iff_exists.mp (named a ha).2
  obtain ⟨nb, hnb⟩ := Option.isSome_iff_exists.mp (named b hb).2
  rw [hna, hnb] at same
  have sameName : a.name = b.name := by rw [hna, hnb]; exact congrArg some same
  exact List.inj_on_of_nodup_map distinct ha hb sameName

theorem Collator.eq_or_alike_of_compare_accents :
    let p : Policy := { classifier := ⟨["id"], .prefixes ["on"]⟩ }
    let fields : List Field := [{ name := some "résumé" }, { name := some "Resume" },
      { name := some "id", optional := true }, { name := some "resume" }]
    p.collator.ignoreCase = false ∧ p.collator.locale = none ∧ fields.Perm fields.reverse ∧
      (∀ f ∈ fields, f.Named) ∧ (fields.map (·.name)).Nodup ∧
      (∀ a ∈ fields, ∀ b ∈ fields, ¬ Text.Alike (a.name.getD "") (b.name.getD "")) ∧
      p.sorted fields = p.sorted fields.reverse := by
  intro p fields
  have perm : fields.Perm fields.reverse := (List.reverse_perm fields).symm
  have named : ∀ f ∈ fields, f.Named := by simp [fields, Field.Named, Field.isRest]
  have distinct : (fields.map (·.name)).Nodup := by decide
  have apart : ∀ a ∈ fields, ∀ b ∈ fields, ¬ Text.Alike (a.name.getD "") (b.name.getD "") := by
    decide +kernel
  obtain ⟨-, sorted⟩ := eq_or_alike_of_compare p.collator rfl rfl
  exact ⟨rfl, rfl, perm, named, distinct, apart,
    sorted p rfl rfl fields fields.reverse perm named distinct apart⟩

theorem Collator.compare_longS :
    let c : Collator := {}
    c.ignoreCase = false ∧ c.locale = none ∧ c.compare "ſ" "s" = .eq ∧ "ſ" ≠ "s" := by
  intro c
  have letters : Text.decomposeChar 'ſ' = Text.decomposeChar 's' := by decide +kernel
  have decomposed : Text.decompose "ſ" = Text.decompose "s" := by simp [Text.decompose, letters]
  have swapped : Text.swapCase "ſ" = Text.swapCase "s" := by decide +kernel
  have sameKey : CollationKey.ofText "ſ" = CollationKey.ofText "s" := by
    rw [CollationKey.ofText, CollationKey.ofText, decomposed, swapped]
  refine ⟨rfl, rfl, ?_, by decide⟩
  rw [compare_eq_ofText rfl rfl, CollationKey.compare_eq_eq, sameKey]

end FieldOrder
