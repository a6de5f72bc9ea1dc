import FieldOrder.Proofs.Order.Sort

namespace FieldOrder

/-- A sense in which computations give values. -/
structure Giving (m : Type → Type) [Monad m] where
  Gives {α : Type} : m α → α → Prop
  pure {α : Type} (a : α) : Gives (Pure.pure a) a
  bind {α β : Type} {x : m α} {f : α → m β} {a : α} {b : β} :
    Gives x a → Gives (f a) b → Gives (x >>= f) b

/-- In every state of the invariant the computation gives the value and keeps the invariant. -/
def Yields {σ α : Type} (inv : σ → Prop) (x : StateM σ α) (a : α) : Prop :=
  ∀ s, inv s → (x.run s).1 = a ∧ inv (x.run s).2

namespace Yields
variable {σ α β : Type} {inv : σ → Prop}

theorem pure (a : α) : Yields inv (pure a) a := fun _ h => ⟨rfl, h⟩

theorem bind {x : StateM σ α} {f : α → StateM σ β} {a : α} {b : β} (hx : Yields inv x a)
    (hf : Yields inv (f a) b) : Yields inv (x >>= f) b := by
  intro s h
  obtain ⟨value, kept⟩ := hx s h
  have next := hf _ kept
  rw [← value] at next
  exact next

end Yields

namespace Giving

def always {σ : Type} (inv : σ → Prop) : Giving (StateM σ) where
  Gives := Yields inv
  pure := .pure
  bind := .bind

/-- The computation succeeds. -/
def success (ε : Type) : Giving (Except ε) where
  Gives x a := x = .ok a
  pure _ := rfl
  bind := by
    rintro _ _ _ f _ _ rfl given
    exact given

/-- The computation gives the value if it succeeds. -/
def unlessError (ε : Type) : Giving (Except ε) where
  Gives x a := ∀ v, x = .ok v → v = a
  pure _ _ := fun h => (Except.ok.inj h).symm
  bind := by
    intro _ _ x f a b hx hf v ran
    cases x with
    | error e => cases ran
    | ok w =>
      obtain rfl := hx w rfl
      exact hf v ran

end Giving

variable {m : Type → Type} [Monad m] {G : Giving m}

section
variable {α : Type} {P : α → Prop} {lessM : α → α → m Bool} {less : α → α → Bool}
  (compared : ∀ a b, P a → P b → G.Gives (lessM a b) (less a b))
include compared

theorem splitRun_gives (descending : Bool) {last : α} {rest : List α} (hlast : P last)
    (hrest : ∀ x ∈ rest, P x) :
    G.Gives (splitRun lessM descending last rest) (runAfter less descending last rest) := by
  induction rest generalizing last with
  | nil => exact G.pure _
  | cons x rest ih =>
    obtain ⟨hx, hrest⟩ := List.forall_mem_cons.mp hrest
    rw [runAfter_cons]
    refine G.bind (compared x last hx hlast) ?_
    by_cases h : less x last = descending
    · simp only [h, beq_self_eq_true, if_true]
      exact G.bind (ih hx hrest) (G.pure _)
    · simp only [beq_eq_false_iff_ne.mpr h, Bool.false_eq_true, if_false, h]
      exact G.pure _

theorem insertionPoint_gives {p : α} {sorted : List α} (hp : P p) (hs : ∀ a ∈ sorted, P a) :
    G.Gives (insertionPoint lessM p sorted) (placeAmong less p sorted) := by
  induction h : sorted.length using Nat.strong_induction_on generalizing sorted with
  | _ n ih =>
    cases hd : sorted.drop (sorted.length / 2) with
    | nil =>
      rw [placeAmong, insertionPoint_of_drop_nil _ _ hd, insertionPoint_of_drop_nil _ _ hd]
      exact G.pure _
    | cons middle upper =>
      have lengths := congrArg List.length hd
      simp only [List.length_drop, List.length_cons] at lengths
      have inSorted (a : α) (ha : a ∈ middle :: upper) : P a :=
        hs a (List.mem_of_mem_drop (hd ▸ ha))
      rw [placeAmong, insertionPoint_of_drop_cons _ _ hd, insertionPoint_of_drop_cons _ _ hd]
      refine G.bind (compared p middle hp (inSorted _ (by simp))) ?_
      by_cases probe : less p middle = true
      · simp only [probe, if_true]
        refine ih _ ?_ (fun a ha => hs a (List.mem_of_mem_take ha)) rfl
        rw [List.length_take]
        omega
      · simp only [probe]
        exact G.bind (ih _ (by omega) (fun a ha => inSorted a (by simp [ha])) rfl) (G.pure _)

theorem foldlM_insertSorted_gives {sorted others : List α} (hs : ∀ a ∈ sorted, P a)
    (ho : ∀ a ∈ others, P a) :
    G.Gives (others.foldlM (insertSorted lessM) sorted)
      (others.foldl (inserted less) sorted) := by
  induction others generalizing sorted with
  | nil => exact G.pure _
  | cons p others ih =>
    obtain ⟨hp, ho⟩ := List.forall_mem_cons.mp ho
    have insertion : G.Gives (insertSorted lessM sorted p) (inserted less sorted p) :=
      G.bind (insertionPoint_gives compared hp hs) (G.pure _)
    rw [List.foldlM_cons]
    refine G.bind insertion (ih ?_ ho)
    intro a ha
    rcases List.mem_cons.mp ((inserted_perm less sorted p).mem_iff.mp ha) with rfl | ha
    · exact hp
    · exact hs a ha

theorem sortBy_gives {xs : List α} (hx : ∀ a ∈ xs, P a) :
    G.Gives (sortBy lessM xs) (sorting less xs) := by
  match xs, hx with
  | [], _ => exact G.pure _
  | [x], _ => exact G.pure _
  | x :: y :: rest, hx =>
    have px := hx x (by simp)
    have py := hx y (by simp)
    have inRest : ∀ a ∈ rest, P a := fun a ha => hx a (by simp [ha])
    have run := splitRun_gives compared (less y x) py inRest
    have parts := runAfter_append less (less y x) y rest
    rw [sorting_cons_cons]
    refine G.bind (compared y x py px) (G.bind run ?_)
    generalize runAfter less (less y x) y rest = found at *
    subst parts
    refine foldlM_insertSorted_gives compared ?_ ?_
    · intro a ha
      have mem : a = x ∨ a = y ∨ a ∈ found.1 := by
        split at ha
        · simpa [or_comm, or_assoc] using ha
        · simpa using ha
      rcases mem with rfl | rfl | ha
      · exact px
      · exact py
      · exact hx a (by simp [ha])
    · exact fun a ha => hx a (by simp [ha])

end

section
variable {α : Type} {P : α → Prop} {compareM : α → α → m Ordering} {cmp : α → α → Ordering}
  (compared : ∀ a b, P a → P b → G.Gives (compareM a b) (cmp a b))
include compared

theorem isSortedBy_gives {xs : List α} (hx : ∀ a ∈ xs, P a) :
    G.Gives (isSortedBy compareM xs) (Id.run (isSortedBy (fun a b => pure (cmp a b)) xs)) := by
  induction xs with
  | nil => exact G.pure _
  | cons x xs ih =>
    cases xs with
    | nil => exact G.pure _
    | cons y rest =>
      have tail := ih fun a ha => hx a (List.mem_cons_of_mem x ha)
      refine G.bind (compared x y (hx x (by simp)) (hx y (by simp))) ?_
      rw [isSortedBy]
      cases h : cmp x y with
      | gt => exact G.pure _
      | lt => exact tail
      | eq => exact tail

theorem sortOrderBy_gives {xs : List α} (hx : ∀ a ∈ xs, P a) :
    G.Gives (sortOrderBy compareM xs)
      (Id.run (sortOrderBy (fun a b => pure (cmp a b)) xs)) := by
  have entries : ∀ a ∈ xs.zipIdx, P a.1 := fun a ha => hx a.1 (List.fst_mem_of_mem_zipIdx ha)
  rw [sortOrderBy_eq_sorting, sortOrderBy]
  refine G.bind (sortBy_gives (fun a b ha hb => ?_) entries) (G.pure _)
  refine G.bind (compared a.1 b.1 ha hb) ?_
  cases cmp a.1 b.1 <;> exact G.pure _

end

namespace Policy
variable {namesM : String → String → m Ordering} {names : String → String → Ordering} {p : Policy}

/-- Only the criteria that are asked matter, and names are compared by one of them alone. -/
theorem firstDecision_gives {a b : Field} {na nb : String} {cs : List Criterion}
    (compared : .names ∈ cs → G.Gives (namesM na nb) (names na nb)) :
    G.Gives (firstDecision (p.judge namesM a b na nb) cs)
      (Id.run (firstDecision (p.judge (fun na nb => pure (names na nb)) a b na nb) cs)) := by
  induction cs with
  | nil => exact G.pure _
  | cons c rest ih =>
    have first : G.Gives (p.judge namesM a b na nb c)
        (p.judge (m := Id) (fun na nb => pure (names na nb)) a b na nb c) := by
      cases c with
      | names => exact compared List.mem_cons_self
      | _ => exact G.pure _
    refine G.bind first ?_
    simp only [firstDecision]
    cases p.judge (m := Id) _ a b na nb c with
    | eq => exact ih fun h => compared (List.mem_cons_of_mem c h)
    | lt => exact G.pure _
    | gt => exact G.pure _

theorem compareWith_gives {a b : Field}
    (compared : .names ∈ p.criteria → ∀ na ∈ a.name, ∀ nb ∈ b.name,
      G.Gives (namesM na nb) (names na nb)) :
    G.Gives (p.compareWith namesM a b)
      (Id.run (p.compareWith (fun na nb => pure (names na nb)) a b)) := by
  rw [compareWith, compareWith]
  split
  · exact G.pure _
  · split
    · next na nb ha hb => exact firstDecision_gives fun h => compared h na ha nb hb
    · exact G.pure _

end Policy

end FieldOrder
