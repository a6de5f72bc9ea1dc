import Mathlib.Data.List.Forall2

namespace FieldOrder

variable {α β γ ε ε' : Type}

theorem ok_bind (a : α) (f : α → Except ε β) : (Except.ok a >>= f) = f a := rfl

theorem error_bind (e : ε) (f : α → Except ε β) : (Except.error e >>= f) = .error e := rfl

theorem bind_eq_ok {x : Except ε α} {f : α → Except ε β} {b : β} :
    (x >>= f) = .ok b ↔ ∃ a, x = .ok a ∧ f a = .ok b := by
  cases x with
  | error e => simp [bind, Except.bind]
  | ok a => simp [bind, Except.bind]

theorem bind_eq_error {x : Except ε α} {f : α → Except ε β} {e : ε} :
    (x >>= f) = .error e ↔ x = .error e ∨ ∃ a, x = .ok a ∧ f a = .error e := by
  cases x with
  | error e => simp [bind, Except.bind]
  | ok a => simp [bind, Except.bind]

theorem map_eq_ok {x : Except ε α} {f : α → β} {b : β} :
    x.map f = .ok b ↔ ∃ a, x = .ok a ∧ f a = b := by
  cases x <;> simp [Except.map]

theorem exists_eq_ok_of_isOk {x : Except ε α} (h : x.isOk = true) : ∃ a, x = .ok a := by
  cases x with
  | ok a => exact ⟨a, rfl⟩
  | error e => cases h

theorem pure_eq_ok {a b : α} : (pure a : Except ε α) = .ok b ↔ a = b := by
  simp [pure, Except.pure]

theorem pure_ne_error {a : α} {e : ε} : (pure a : Except ε α) ≠ .error e := nofun

theorem mapError_eq_ok {x : Except ε α} {f : ε → ε'} {a : α} :
    x.mapError f = .ok a ↔ x = .ok a := by
  cases x <;> simp [Except.mapError]

theorem mapError_eq_error {x : Except ε α} {f : ε → ε'} {e : ε'} :
    x.mapError f = .error e ↔ ∃ cause, x = .error cause ∧ f cause = e := by
  cases x <;> simp [Except.mapError]

theorem exists_mapM_eq_ok {f : α → Except ε β} {R : α → β → Prop} {xs : List α}
    (h : ∀ x ∈ xs, ∃ y, f x = .ok y ∧ R x y) :
    ∃ ys, xs.mapM f = .ok ys ∧ List.Forall₂ R xs ys := by
  induction xs with
  | nil => exact ⟨[], rfl, .nil⟩
  | cons x xs ih =>
    obtain ⟨hx, hxs⟩ := List.forall_mem_cons.mp h
    obtain ⟨y, eq, rel⟩ := hx
    obtain ⟨ys, eqs, rels⟩ := ih hxs
    refine ⟨y :: ys, ?_, .cons rel rels⟩
    rw [List.mapM_cons, eq, eqs]
    rfl

theorem forall₂_of_mapM_eq_ok {f : α → Except ε β} {xs : List α} {ys : List β}
    (h : xs.mapM f = .ok ys) : List.Forall₂ (fun x y => f x = .ok y) xs ys := by
  induction xs generalizing ys with
  | nil =>
    cases h
    exact .nil
  | cons x xs ih =>
    simp only [List.mapM_cons, bind_eq_ok, pure_eq_ok] at h
    obtain ⟨y, first, ys, rest, rfl⟩ := h
    exact .cons first (ih rest)

theorem mapM_eq_ok_of_forall₂ {f : α → Except ε β} {xs : List α} {ys : List β}
    (h : List.Forall₂ (fun x y => f x = .ok y) xs ys) : xs.mapM f = .ok ys := by
  induction h with
  | nil => rfl
  | cons first rest ih =>
    rw [List.mapM_cons, first, ih]
    rfl

theorem exists_first_error_of_mapM {f : α → Except ε β} {xs : List α} {e : ε}
    (h : xs.mapM f = .error e) : ∃ before x after, xs = before ++ x :: after ∧
      (∀ a ∈ before, ∃ b, f a = .ok b) ∧ f x = .error e := by
  induction xs with
  | nil => cases h
  | cons x xs ih =>
    simp only [List.mapM_cons, bind_eq_error, pure_ne_error, and_false, exists_false,
      or_false] at h
    rcases h with first | ⟨y, first, rest⟩
    · exact ⟨[], x, xs, rfl, nofun, first⟩
    · obtain ⟨before, z, after, rfl, succeeded, failed⟩ := ih rest
      exact ⟨x :: before, z, after, rfl, List.forall_mem_cons.mpr ⟨⟨y, first⟩, succeeded⟩, failed⟩

theorem exists_error_of_mapM {f : α → Except ε β} {xs : List α} {e : ε}
    (h : xs.mapM f = .error e) : ∃ x ∈ xs, f x = .error e := by
  obtain ⟨before, x, after, rfl, -, failed⟩ := exists_first_error_of_mapM h
  exact ⟨x, by simp, failed⟩

theorem mapM_except_map (f : α → Except ε β) (g : β → γ) (xs : List α) :
    (xs.mapM fun x => (f x).map g) = (xs.mapM f).map (List.map g) := by
  induction xs with
  | nil => rfl
  | cons x xs ih =>
    rw [List.mapM_cons, List.mapM_cons, ih]
    rcases f x with e | y
    · rfl
    · rcases xs.mapM f with e | ys <;> rfl

theorem mapM_filter {f : α → Except ε β} {keeps : α → Bool} {shows : β → Bool}
    (agree : ∀ x y, f x = .ok y → shows y = keeps x) {xs : List α}
    (dropped : ∀ x ∈ xs, keeps x = false → ∃ y, f x = .ok y) :
    (xs.mapM f).map (List.filter shows) = (xs.filter keeps).mapM f := by
  induction xs with
  | nil => rfl
  | cons x xs ih =>
    obtain ⟨hx, hxs⟩ := List.forall_mem_cons.mp dropped
    rw [List.mapM_cons]
    cases first : f x with
    | error e =>
      have kept : keeps x = true := by
        by_contra left
        obtain ⟨y, eq⟩ := hx (by simpa using left)
        rw [first] at eq
        cases eq
      rw [List.filter_cons_of_pos kept, List.mapM_cons, first]
      rfl
    | ok y =>
      have same := agree x y first
      cases kept : keeps x with
      | true =>
        rw [List.filter_cons_of_pos kept, List.mapM_cons, first, ← ih hxs]
        rcases xs.mapM f with e | ys
        · rfl
        · exact congrArg Except.ok (List.filter_cons_of_pos (same.trans kept))
      | false =>
        rw [List.filter_cons_of_neg (by simp [kept]), ← ih hxs]
        rcases xs.mapM f with e | ys
        · rfl
        · exact congrArg Except.ok (List.filter_cons_of_neg (by simp [same, kept]))

theorem mapM_flatMap (f : β → Except ε γ) (g : α → List β) (xs : List α) :
    (xs.flatMap g).mapM f = (xs.mapM fun x => (g x).mapM f).map List.flatten := by
  induction xs with
  | nil => rfl
  | cons x xs ih =>
    rw [List.flatMap_cons, List.mapM_append, ih, List.mapM_cons]
    rcases (g x).mapM f with e | ys
    · rfl
    · rcases xs.mapM fun x => (g x).mapM f with e | yss <;> rfl

section
variable {R : α → β → Prop} {xs : List α} {ys : List β}

theorem exists_rel_of_mem_right (h : List.Forall₂ R xs ys) {y : β} (hy : y ∈ ys) :
    ∃ x ∈ xs, R x y := by
  induction h with
  | nil => simp at hy
  | cons rel rest ih =>
    rcases List.mem_cons.mp hy with rfl | hy
    · exact ⟨_, List.mem_cons_self, rel⟩
    · obtain ⟨x, hx, rel⟩ := ih hy
      exact ⟨x, List.mem_cons_of_mem _ hx, rel⟩

theorem exists_rel_of_mem_left (h : List.Forall₂ R xs ys) {x : α} (hx : x ∈ xs) :
    ∃ y ∈ ys, R x y :=
  exists_rel_of_mem_right (R := flip R) h.flip hx

theorem exists_head?_of_forall₂ (h : List.Forall₂ R xs ys) {x : α} (hx : xs.head? = some x) :
    ∃ y, ys.head? = some y ∧ R x y := by
  cases h with
  | nil => cases hx
  | cons rel rest =>
    cases hx
    exact ⟨_, rfl, rel⟩

end

section
variable {σ : Type} (s : σ)

theorem run_run_bind (x : ExceptT ε (StateM σ) α) (f : α → ExceptT ε (StateM σ) β) :
    (x >>= f).run.run s = match x.run.run s with
      | (.ok a, t) => (f a).run.run t
      | (.error e, t) => (.error e, t) := by
  unfold ExceptT.run StateT.run
  simp only [bind, ExceptT.bind, ExceptT.mk, StateT.bind, ExceptT.bindCont]
  rcases x s with ⟨_ | _, t⟩
  · rfl
  · rfl

theorem run_run_map (x : ExceptT ε (StateM σ) α) (f : α → β) :
    (f <$> x).run.run s = ((x.run.run s).1.map f, (x.run.run s).2) := by
  rw [map_eq_pure_bind, run_run_bind]
  rcases x.run.run s with ⟨_ | _, t⟩
  · rfl
  · rfl

end

end FieldOrder
