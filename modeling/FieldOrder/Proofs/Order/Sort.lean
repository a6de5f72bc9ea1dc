import FieldOrder.Order
import Mathlib.Data.List.Chain

namespace FieldOrder

section
variable {α : Type} {m : Type → Type} [Monad m] (less : α → α → m Bool) (p : α) {sorted : List α}

theorem insertionPoint_of_drop_nil (h : sorted.drop (sorted.length / 2) = []) :
    insertionPoint less p sorted = pure 0 := by
  rw [insertionPoint]
  split
  · rfl
  · next h' => cases h.symm.trans h'

theorem insertionPoint_of_drop_cons {middle : α} {upper : List α}
    (h : sorted.drop (sorted.length / 2) = middle :: upper) :
    insertionPoint less p sorted = (do
      if ← less p middle then insertionPoint less p (sorted.take (sorted.length / 2))
      else do
        let n ← insertionPoint less p upper
        pure (sorted.length / 2 + 1 + n)) := by
  rw [insertionPoint]
  split
  · next h' => cases h.symm.trans h'
  · next h' =>
    cases h.symm.trans h'
    rfl

variable {less} [LawfulMonad m]

theorem splitRun_of_isChain {descending : Bool} {last : α} {rest : List α}
    (chain : (last :: rest).IsChain fun a b => less b a = pure descending) :
    splitRun less descending last rest = pure (rest, []) := by
  induction rest generalizing last with
  | nil => rfl
  | cons x rest ih =>
    obtain ⟨goesOn, later⟩ := List.isChain_cons_cons.mp chain
    simp [splitRun, goesOn, ih later]

theorem sortBy_of_isChain {xs : List α} (chain : xs.IsChain fun a b => less b a = pure false) :
    sortBy less xs = pure xs := by
  match xs, chain with
  | [], _ => rfl
  | [x], _ => rfl
  | x :: y :: rest, chain =>
    obtain ⟨ascends, later⟩ := List.isChain_cons_cons.mp chain
    simp [sortBy, ascends, splitRun_of_isChain later]

theorem sortOrderBy_of_isChain {compare : α → α → m Ordering} {xs : List α}
    (chain : xs.IsChain fun a b => ∃ o, compare b a = pure o ∧ o ≠ .lt) :
    sortOrderBy compare xs = pure (List.range xs.length) := by
  rw [← List.zipIdx_map_fst 0 xs, List.isChain_map] at chain
  rw [sortOrderBy, sortBy_of_isChain, pure_bind, List.zipIdx_map_snd, List.range_eq_range']
  refine chain.imp fun a b ⟨o, compared, notLess⟩ => ?_
  rw [compared, pure_bind]
  cases o <;> simp_all

end

section
variable {α : Type} (less : α → α → Bool)

/-- The run that goes on after `last`, and what follows it. -/
def runAfter (descending : Bool) (last : α) (rest : List α) : List α × List α :=
  Id.run (splitRun (fun a b => pure (less a b)) descending last rest)

/-- The place of an entry among sorted ones. -/
def placeAmong (p : α) (sorted : List α) : Nat :=
  Id.run (insertionPoint (fun a b => pure (less a b)) p sorted)

def inserted (sorted : List α) (p : α) : List α :=
  Id.run (insertSorted (fun a b => pure (less a b)) sorted p)

/-- The list in order. -/
def sorting (xs : List α) : List α :=
  Id.run (sortBy (fun a b => pure (less a b)) xs)

theorem runAfter_cons (descending : Bool) (last x : α) (rest : List α) :
    runAfter less descending last (x :: rest) =
      if less x last = descending then
        (x :: (runAfter less descending x rest).1, (runAfter less descending x rest).2)
      else ([], x :: rest) := by
  by_cases h : less x last = descending <;> simp [runAfter, splitRun, h]

theorem inserted_eq (sorted : List α) (p : α) :
    inserted less sorted p =
      sorted.take (placeAmong less p sorted) ++ p :: sorted.drop (placeAmong less p sorted) := rfl

theorem sorting_cons_cons (x y : α) (rest : List α) :
    sorting less (x :: y :: rest) =
      (runAfter less (less y x) y rest).2.foldl (inserted less)
        (if less y x then (x :: y :: (runAfter less (less y x) y rest).1).reverse
        else x :: y :: (runAfter less (less y x) y rest).1) := by
  simp [sorting, sortBy, runAfter, List.idRun_foldlM]
  rfl

theorem runAfter_append (descending : Bool) (last : α) (rest : List α) :
    (runAfter less descending last rest).1 ++ (runAfter less descending last rest).2 = rest := by
  induction rest generalizing last with
  | nil => rfl
  | cons x rest ih =>
    rw [runAfter_cons]
    split
    · exact congrArg (x :: ·) (ih x)
    · rfl

theorem runAfter_isChain (descending : Bool) (last : α) (rest : List α) :
    (last :: (runAfter less descending last rest).1).IsChain
      fun a b => less b a = descending := by
  induction rest generalizing last with
  | nil => exact .singleton _
  | cons x rest ih =>
    rw [runAfter_cons]
    split
    · exact .cons_cons ‹_› (ih x)
    · exact .singleton _

theorem placeAmong_step (p : α) (sorted : List α) :
    (sorted = [] ∧ placeAmong less p sorted = 0) ∨
      ∃ lower middle upper, sorted = lower ++ middle :: upper ∧
        placeAmong less p sorted =
          if less p middle then placeAmong less p lower
          else lower.length + 1 + placeAmong less p upper := by
  cases hd : sorted.drop (sorted.length / 2) with
  | nil =>
    have short := List.drop_eq_nil_iff.mp hd
    have empty : sorted = [] := List.eq_nil_of_length_eq_zero (by omega)
    exact .inl ⟨empty, congrArg Id.run (insertionPoint_of_drop_nil _ p hd)⟩
  | cons middle upper =>
    right
    refine ⟨sorted.take (sorted.length / 2), middle, upper, ?_, ?_⟩
    · rw [← hd, List.take_append_drop]
    · have half : sorted.length / 2 ≤ sorted.length := Nat.div_le_self ..
      rw [placeAmong, insertionPoint_of_drop_cons _ p hd]
      by_cases h : less p middle = true <;> simp [placeAmong, h, Nat.min_eq_left half]

/-- The bisection ends between an entry that is not greater than the new one and one that is, as far
as there are such. -/
theorem placeAmong_split (p : α) (sorted : List α) :
    ∃ lower upper, sorted = lower ++ upper ∧ placeAmong less p sorted = lower.length ∧
      (∀ a ∈ lower.getLast?, less p a = false) ∧ ∀ a ∈ upper.head?, less p a = true := by
  -- By halves: what was probed last on either side is the neighbour of the place.
  induction h : sorted.length using Nat.strong_induction_on generalizing sorted with
  | _ n ih =>
    rcases placeAmong_step less p sorted with ⟨rfl, place⟩ | ⟨below, middle, above, rfl, place⟩
    · exact ⟨[], [], rfl, place, by simp, by simp⟩
    · cases probe : less p middle with
      | true =>
        obtain ⟨lower, upper, rfl, hp, left, right⟩ :=
          ih below.length (by simp at h; omega) below rfl
        refine ⟨lower, upper ++ middle :: above, by simp, ?_, left, ?_⟩
        · rw [place, if_pos probe, hp]
        · cases upper with
          | nil => simpa using probe
          | cons u upper => simpa using right
      | false =>
        obtain ⟨lower, upper, rfl, hp, left, right⟩ :=
          ih above.length (by simp at h; omega) above rfl
        refine ⟨below ++ middle :: lower, upper, by simp, ?_, ?_, right⟩
        · rw [place, probe, hp, List.length_append, List.length_cons]
          simp
          omega
        · cases lower with
          | nil => simpa using probe
          | cons l lower => simpa [List.getLast?_cons_cons] using left

theorem inserted_split (p : α) (sorted : List α) :
    ∃ lower upper, sorted = lower ++ upper ∧ inserted less sorted p = lower ++ p :: upper ∧
      (∀ a ∈ lower.getLast?, less p a = false) ∧ ∀ a ∈ upper.head?, less p a = true := by
  obtain ⟨lower, upper, rfl, place, left, right⟩ := placeAmong_split less p sorted
  exact ⟨lower, upper, rfl, by simp [inserted_eq, place], left, right⟩

theorem inserted_perm (sorted : List α) (p : α) : (inserted less sorted p).Perm (p :: sorted) := by
  rw [inserted_eq]
  exact List.perm_middle.trans (by rw [List.take_append_drop])

variable {less}

theorem inserted_perm_append {sorted done : List α} (perm : sorted.Perm done) (p : α) :
    (inserted less sorted p).Perm (done ++ [p]) :=
  (inserted_perm less sorted p).trans ((perm.cons p).trans (List.perm_append_singleton p done).symm)

theorem foldl_inserted_induction {P : List α → List α → Prop} {xs done others sorted : List α}
    (insertion : ∀ done p rest sorted, xs = done ++ p :: rest → sorted.Perm done →
      P done sorted → P (done ++ [p]) (inserted less sorted p))
    (whole : xs = done ++ others) (perm : sorted.Perm done) (holds : P done sorted) :
    P xs (others.foldl (inserted less) sorted) := by
  induction others generalizing done sorted with
  | nil =>
    obtain rfl : xs = done := by simpa using whole
    exact holds
  | cons p others ih =>
    exact ih (by simpa using whole) (inserted_perm_append perm p)
      (insertion done p others sorted whole perm holds)

/-- What holds of each run that the list may begin with, a descending one being reversed, and is
kept when a further entry is inserted, holds of the sorted list. -/
theorem sorting_induction {P : List α → List α → Prop} {xs : List α}
    (ascending : ∀ run rest, xs = run ++ rest → run.IsChain (fun a b => less b a = false) →
      P run run)
    (descending : ∀ run rest, xs = run ++ rest → run.IsChain (fun a b => less b a = true) →
      P run run.reverse)
    (insertion : ∀ done p rest sorted, xs = done ++ p :: rest → sorted.Perm done →
      P done sorted → P (done ++ [p]) (inserted less sorted p)) :
    P xs (sorting less xs) := by
  match xs with
  | [] => exact ascending [] [] rfl .nil
  | [x] => exact ascending [x] [] rfl (.singleton x)
  | x :: y :: rest =>
    have parts := runAfter_append less (less y x) y rest
    have compared : (x :: y :: (runAfter less (less y x) y rest).1).IsChain
        fun a b => less b a = less y x := .cons_cons rfl (runAfter_isChain ..)
    rw [sorting_cons_cons]
    generalize runAfter less (less y x) y rest = found at *
    have whole : x :: y :: rest = (x :: y :: found.1) ++ found.2 :=
      congrArg (x :: y :: ·) parts.symm
    cases begins : less y x with
    | true =>
      exact foldl_inserted_induction insertion whole (List.reverse_perm _)
        (descending _ _ whole (begins ▸ compared))
    | false =>
      exact foldl_inserted_induction insertion whole (.refl _)
        (ascending _ _ whole (begins ▸ compared))

theorem sorting_perm (less : α → α → Bool) (xs : List α) : (sorting less xs).Perm xs := by
  refine sorting_induction (P := fun done sorted => sorted.Perm done) ?_ ?_ ?_
  · exact fun run _ _ _ => .refl run
  · exact fun run _ _ _ => List.reverse_perm run
  · exact fun done p _ sorted _ _ perm => inserted_perm_append perm p

variable {R : α → α → Prop}

/-- The relation holds of two entries in the order into which their comparison puts them; the
second argument comes later in the list that is sorted. -/
def Settles (less : α → α → Bool) (R : α → α → Prop) (a b : α) : Prop :=
  if less b a then R b a else R a b

theorem Settles.of_true {a b : α} (h : Settles less R a b) (hb : less b a = true) : R b a := by
  simpa [Settles, hb] using h

theorem Settles.of_false {a b : α} (h : Settles less R a b) (hb : less b a = false) : R a b := by
  simpa [Settles, hb] using h

theorem inserted_isChain {sorted : List α} {p : α} (chain : sorted.IsChain R)
    (settled : ∀ a ∈ sorted, Settles less R a p) : (inserted less sorted p).IsChain R := by
  obtain ⟨lower, upper, rfl, eq, left, right⟩ := inserted_split less p sorted
  rw [eq]
  refine chain.left_of_append.append (chain.right_of_append.cons ?_) ?_
  · intro b hb
    have mem : b ∈ lower ++ upper := List.mem_append_right _ (List.mem_of_mem_head? hb)
    exact (settled b mem).of_true (right b hb)
  · intro a ha b hb
    have mem : a ∈ lower ++ upper := List.mem_append_left _ (List.mem_of_mem_getLast? ha)
    cases hb
    exact (settled a mem).of_false (left a ha)

/-- Whatever relation the comparison settles for all pairs of entries holds of all neighbours in
the sorted list. The comparison need not be transitive: neighbours have been compared. -/
theorem sorting_isChain {xs : List α} (settled : xs.Pairwise (Settles less R)) :
    (sorting less xs).IsChain R := by
  refine sorting_induction (P := fun _ sorted => sorted.IsChain R) ?_ ?_ ?_
  · intro run rest whole compared
    rw [whole] at settled
    have inRun := (List.pairwise_append.mp settled).1.isChain
    exact List.isChain_iff_getElem.mpr fun i hi =>
      (inRun.getElem i hi).of_false (compared.getElem i hi)
  · intro run rest whole compared
    rw [whole] at settled
    have inRun := (List.pairwise_append.mp settled).1.isChain
    exact List.isChain_reverse.mpr <| List.isChain_iff_getElem.mpr fun i hi =>
      (inRun.getElem i hi).of_true (compared.getElem i hi)
  · intro done p rest sorted whole perm chain
    rw [whole] at settled
    have across := (List.pairwise_append.mp settled).2.2
    exact inserted_isChain chain fun a ha => across a (perm.subset ha) p List.mem_cons_self

theorem sortOrderBy_eq_sorting (cmp : α → α → Ordering) (xs : List α) :
    Id.run (sortOrderBy (fun a b => pure (cmp a b)) xs) =
      (sorting (fun a b => cmp a.1 b.1 == .lt) xs.zipIdx).map (·.2) := by
  rw [sortOrderBy, sorting]
  refine congrArg (fun less => (Id.run (sortBy less xs.zipIdx)).map Prod.snd) ?_
  funext a b
  cases cmp a.1 b.1 <;> rfl

end

namespace Policy

theorem sortOrder_eq_sorting (p : Policy) (fields : List Field) :
    p.sortOrder fields =
      (sorting (fun a b => p.compare a.1 b.1 == .lt) fields.zipIdx).map (·.2) :=
  sortOrderBy_eq_sorting p.compare fields

theorem sortOrder_perm (p : Policy) (fields : List Field) :
    (p.sortOrder fields).Perm (List.range fields.length) := by
  rw [sortOrder_eq_sorting]
  refine ((sorting_perm _ _).map _).trans (.of_eq ?_)
  rw [List.zipIdx_map_snd, List.range_eq_range']

theorem lt_of_mem_sortOrder {p : Policy} {fields : List Field} {i : Nat}
    (h : i ∈ p.sortOrder fields) : i < fields.length :=
  List.mem_range.mp ((p.sortOrder_perm fields).mem_iff.mp h)

/-- What the comparison settles for all pairs of positions holds of neighbours in the order. -/
theorem sortOrder_isChain (p : Policy) (fields : List Field) {R : Nat → Nat → Prop}
    (settled : ∀ i j, ∀ hij : i < j, ∀ hj : j < fields.length,
      if p.compare fields[j] fields[i] = .lt then R j i else R i j) :
    (p.sortOrder fields).IsChain R := by
  rw [sortOrder_eq_sorting, List.isChain_map]
  apply sorting_isChain
  apply List.pairwise_iff_getElem.mpr
  intro i j hi hj hij
  have := settled i j hij (by simpa using hj)
  simpa [Settles] using this

end Policy

end FieldOrder
