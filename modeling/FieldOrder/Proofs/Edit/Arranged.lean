import FieldOrder.Proofs.Edit.Session
import FieldOrder.Proofs.Edit.Substitution

namespace FieldOrder

/-- What holds of the pairs of a sorted list is what holds of the pairs of the list itself, each
taken in the order of the keys, or in its own order where the keys tie. -/
theorem pairwise_mergeSort_iff {α : Type} {le : α → α → Bool} {R : α → α → Prop}
    (trans : ∀ a b c, le a b = true → le b c = true → le a c = true)
    (total : ∀ a b, (le a b || le b a) = true) (xs : List α) :
    (xs.mergeSort le).Pairwise R ↔ xs.Pairwise fun a b => if le a b then R a b else R b a := by
  induction xs with
  | nil => simp
  | cons x xs ih =>
    obtain ⟨front, back, sorted, rest, above⟩ := List.mergeSort_cons trans total x xs
    have inOrder := List.pairwise_mergeSort trans total (x :: xs)
    rw [sorted] at inOrder
    have below (y : α) (hy : y ∈ back) : le x y = true :=
      List.rel_of_pairwise_cons (List.pairwise_append.mp inOrder).2.1 hy
    have members (y : α) : y ∈ xs ↔ y ∈ front ∨ y ∈ back := by
      rw [← List.mem_append, ← rest, List.mem_mergeSort]
    -- The sort puts the first entry behind those that are strictly less, and before all that tie.
    have first : (∀ y ∈ xs, if le x y then R x y else R y x) ↔
        (∀ y ∈ front, R y x) ∧ ∀ y ∈ back, R x y := by
      simp only [members, or_imp, forall_and]
      refine and_congr (forall₂_congr fun y hy => ?_) (forall₂_congr fun y hy => ?_)
      · rw [if_neg (by simpa using above y hy)]
      · rw [if_pos (below y hy)]
    rw [List.pairwise_cons, ← ih, first, sorted, rest]
    simp only [List.pairwise_append, List.pairwise_cons, List.mem_cons, forall_eq_or_imp,
      forall_and]
    constructor
    · rintro ⟨inFront, ⟨afterX, inBack⟩, beforeX, across⟩
      exact ⟨⟨beforeX, afterX⟩, inFront, inBack, across⟩
    · rintro ⟨⟨beforeX, afterX⟩, inFront, inBack, across⟩
      exact ⟨inFront, ⟨afterX, inBack⟩, beforeX, across⟩

namespace Edit

/-- An insertion at the place where the range of the other edit starts. -/
def InsertsAtStart (e f : Edit) : Prop :=
  e.range.start = f.range.start ∧ e.range.stop = f.range.start ∧ f.range.start < f.range.stop

instance (e f : Edit) : Decidable (e.InsertsAtStart f) :=
  inferInstanceAs (Decidable (_ ∧ _))

def putX : Edit := ⟨⟨1, 1, by decide⟩, "X"⟩

def bToY : Edit := ⟨⟨1, 2, by decide⟩, "Y"⟩

def abcToZ : Edit := ⟨⟨0, 3, by decide⟩, "Z"⟩

example : putX.InsertsAtStart bToY ∧ putX.range.overlaps bToY.range = false := by decide

variable {e f : Edit}

theorem not_insertsAtStart (filled : e.range.start < e.range.stop) : ¬ e.InsertsAtStart f := by
  rintro ⟨start, stop, -⟩
  omega

theorem pairwise_not_insertsAtStart {edits : List Edit}
    (filled : ∀ e ∈ edits, e.range.start < e.range.stop) :
    edits.Pairwise fun e f => ¬ e.InsertsAtStart f ∧ ¬ f.InsertsAtStart e := by
  apply List.pairwise_of_forall_mem_list
  intro e he f hf
  exact ⟨not_insertsAtStart (filled e he), not_insertsAtStart (filled f hf)⟩

theorem overlaps_eq_false : e.range.overlaps f.range = false ↔ e.Before f ∨ f.Before e := by
  simp only [TextRange.overlaps, Before, Bool.not_eq_false', Bool.or_eq_true, decide_eq_true_eq]

theorem before_of_start_iff :
    (if e.range.start ≤ f.range.start then e.Before f else f.Before e) ↔
      e.range.overlaps f.range = false ∧ ¬ f.InsertsAtStart e := by
  have widthE := e.range.start_le_stop
  have widthF := f.range.start_le_stop
  rw [overlaps_eq_false]
  simp only [Before, InsertsAtStart]
  split
  · omega
  · omega

/-- The first edit ends before the other starts, unless the other inserts at its start. -/
def LooselyBefore (e f : Edit) : Prop := e.Before f ∨ f.InsertsAtStart e

/-- Of two edits that do not overlap one is before the other, if only loosely. -/
theorem looselyBefore_of_start_iff :
    (if e.range.start ≤ f.range.start then e.LooselyBefore f else f.LooselyBefore e) ↔
      e.range.overlaps f.range = false := by
  have widthE := e.range.start_le_stop
  have widthF := f.range.start_le_stop
  rw [overlaps_eq_false]
  simp only [LooselyBefore, Before, InsertsAtStart]
  split
  · omega
  · omega

private theorem start_le_trans (a b c : Edit)
    (hab : decide (a.range.start ≤ b.range.start) = true)
    (hbc : decide (b.range.start ≤ c.range.start) = true) :
    decide (a.range.start ≤ c.range.start) = true := by
  rw [decide_eq_true_eq] at *
  exact Int.le_trans hab hbc

private theorem start_le_total (a b : Edit) : (decide (a.range.start ≤ b.range.start) ||
    decide (b.range.start ≤ a.range.start)) = true := by
  rw [Bool.or_eq_true, decide_eq_true_eq, decide_eq_true_eq]
  exact Int.le_total _ _

/-- The edits by where they start. -/
def arranged (edits : List Edit) : List Edit :=
  edits.mergeSort fun a b => a.range.start ≤ b.range.start

theorem arranged_perm (edits : List Edit) : (arranged edits).Perm edits := List.mergeSort_perm _ _

theorem arranged_arranged (edits : List Edit) : arranged (arranged edits) = arranged edits :=
  List.mergeSort_of_pairwise (List.pairwise_mergeSort start_le_trans start_le_total edits)

theorem arranged_before_iff {edits : List Edit} : (arranged edits).Pairwise Before ↔
    edits.Pairwise fun e f => e.range.overlaps f.range = false ∧ ¬ f.InsertsAtStart e := by
  rw [arranged, pairwise_mergeSort_iff start_le_trans start_le_total]
  simp only [decide_eq_true_eq, before_of_start_iff]

end Edit

namespace EditSession
variable {s : EditSession}

/-- The accepted fixes as they lie in the text. -/
def fromStart (s : EditSession) : List Edit := s.fromEnd.reverse

theorem fromStart_perm (s : EditSession) : s.fromStart.Perm s.accepted :=
  (List.reverse_perm _).trans (List.mergeSort_perm _ _)

private theorem fromStart_pairwise_iff {R : Edit → Edit → Prop} :
    s.fromStart.Pairwise R ↔ s.accepted.Pairwise fun e f =>
      if f.range.start ≤ e.range.start then R f e else R e f := by
  rw [fromStart, List.pairwise_reverse, fromEnd,
    pairwise_mergeSort_iff (fun a b c hab hbc => Edit.start_le_trans c b a hbc hab)
      fun a b => Edit.start_le_total b a]
  simp only [decide_eq_true_eq]

theorem fromStart_looselyBefore_iff : s.fromStart.Pairwise Edit.LooselyBefore ↔ s.Apart := by
  rw [fromStart_pairwise_iff, Apart]
  apply List.Pairwise.iff
  intro e f
  rw [Edit.looselyBefore_of_start_iff, TextRange.overlaps_comm]

/-- The fixes lie one behind another, if no insertion was accepted before a fix that starts at its
place. -/
theorem fromStart_before_iff : s.fromStart.Pairwise Edit.Before ↔
    s.Apart ∧ s.accepted.Pairwise fun e f => ¬ e.InsertsAtStart f := by
  rw [fromStart_pairwise_iff, Apart, ← List.pairwise_and_iff]
  apply List.Pairwise.iff
  intro e f
  rw [Edit.before_of_start_iff, TextRange.overlaps_comm]

theorem apply_eq_foldr
    (inText : ∀ e ∈ s.accepted, 0 ≤ e.range.start ∧ e.range.stop ≤ s.text.length) :
    s.apply = .ok (s.fromStart.foldr (fun e text => e.applyTo text) s.text, s.stats) := by
  rw [apply_eq_ok inText, fromStart, List.foldr_reverse]

end EditSession

end FieldOrder
