import FieldOrder.Schema.Value
import Mathlib.Data.List.Basic

namespace FieldOrder

variable {α β : Type} {same : α → α → Bool}

/-- What is kept so far, and then the elements that are the same as none before them. -/
def keepFirst (same : α → α → Bool) (kept xs : List α) : List α :=
  xs.foldl (fun seen x => if seen.any (same · x) then seen else seen ++ [x]) kept

section
variable {kept : List α}

theorem keepFirst_cons (x : α) (xs : List α) :
    keepFirst same kept (x :: xs) =
      keepFirst same (if kept.any (same · x) then kept else kept ++ [x]) xs := rfl

theorem mem_keepFirst_of_mem {x : α} (h : x ∈ kept) (xs : List α) :
    x ∈ keepFirst same kept xs := by
  induction xs generalizing kept with
  | nil => exact h
  | cons y xs ih =>
    rw [keepFirst_cons]
    apply ih
    split
    · exact h
    · exact List.mem_append_left _ h

theorem mem_or_mem_of_mem_keepFirst {xs : List α} {x : α} (h : x ∈ keepFirst same kept xs) :
    x ∈ kept ∨ x ∈ xs := by
  induction xs generalizing kept with
  | nil => exact .inl h
  | cons y xs ih =>
    rw [keepFirst_cons] at h
    rcases ih h with before | later
    · split at before
      · exact .inl before
      · rcases List.mem_append.mp before with old | new
        · exact .inl old
        · exact .inr (List.mem_cons.mpr (.inl (List.mem_singleton.mp new)))
    · exact .inr (List.mem_cons_of_mem _ later)

theorem exists_mem_keepFirst {xs : List α} {x : α} (h : x ∈ xs) :
    ∃ y ∈ keepFirst same kept xs, y = x ∨ same y x = true := by
  induction xs generalizing kept with
  | nil => cases h
  | cons y xs ih =>
    rw [keepFirst_cons]
    rcases List.mem_cons.mp h with rfl | later
    · by_cases seen : kept.any (same · x) = true
      · obtain ⟨y, hy, equal⟩ := List.any_eq_true.mp seen
        rw [if_pos seen]
        exact ⟨y, mem_keepFirst_of_mem hy xs, .inr equal⟩
      · rw [if_neg seen]
        have new : x ∈ kept ++ [x] := List.mem_append_right _ List.mem_cons_self
        exact ⟨x, mem_keepFirst_of_mem new xs, .inl rfl⟩
    · exact ih later

theorem keepFirst_pairwise (distinct : kept.Pairwise fun a b => same a b = false)
    (xs : List α) : (keepFirst same kept xs).Pairwise fun a b => same a b = false := by
  induction xs generalizing kept with
  | nil => exact distinct
  | cons x xs ih =>
    rw [keepFirst_cons]
    apply ih
    split
    · exact distinct
    · next unseen =>
      have differ : ∀ y ∈ kept, same y x = false := by simpa using unseen
      refine List.pairwise_append.mpr ⟨distinct, List.pairwise_singleton _ _, ?_⟩
      intro y hy z hz
      rw [List.mem_singleton.mp hz]
      exact differ y hy

end

section
variable {entries : List (α × β)}

theorem map_fst_putEntry (key : α) (value : β) (entries : List (α × β)) :
    (putEntry same key value entries).map (·.1) =
      if (entries.map (·.1)).any (same · key) then entries.map (·.1)
      else entries.map (·.1) ++ [key] := by
  induction entries with
  | nil => rfl
  | cons e entries ih =>
    obtain ⟨k, v⟩ := e
    rw [putEntry]
    by_cases here : same k key = true
    · simp [here]
    · rw [if_neg here, List.map_cons, ih]
      by_cases later : (entries.map (·.1)).any (same · key) = true
      · simp [later]
      · rw [if_neg later, if_neg (by simpa [here] using later)]
        rfl

theorem snd_mem_of_mem_putEntry {key : α} {value : β} {e : α × β}
    (h : e ∈ putEntry same key value entries) : e ∈ entries ∨ e.2 = value := by
  induction entries with
  | nil => exact .inr (congrArg Prod.snd (List.mem_singleton.mp h))
  | cons first entries ih =>
    rw [putEntry] at h
    split at h
    · rcases List.mem_cons.mp h with rfl | later
      · exact .inr rfl
      · exact .inl (List.mem_cons_of_mem _ later)
    · rcases List.mem_cons.mp h with rfl | later
      · exact .inl List.mem_cons_self
      · exact (ih later).imp_left (List.mem_cons_of_mem _)

/-- Puts entries one after the other. -/
def putEntries (same : α → α → Bool) (entries put : List (α × β)) : List (α × β) :=
  put.foldl (fun done e => putEntry same e.1 e.2 done) entries

theorem putEntries_cons (e : α × β) (put : List (α × β)) :
    putEntries same entries (e :: put) = putEntries same (putEntry same e.1 e.2 entries) put := rfl

theorem map_fst_putEntries (entries put : List (α × β)) :
    (putEntries same entries put).map (·.1) =
      keepFirst same (entries.map (·.1)) (put.map (·.1)) := by
  induction put generalizing entries with
  | nil => rfl
  | cons e put ih => rw [putEntries_cons, ih, map_fst_putEntry, List.map_cons, keepFirst_cons]

theorem snd_mem_of_mem_putEntries {put : List (α × β)} {e : α × β}
    (h : e ∈ putEntries same entries put) : e ∈ entries ∨ e.2 ∈ put.map (·.2) := by
  induction put generalizing entries with
  | nil => exact .inl h
  | cons first put ih =>
    rw [putEntries_cons] at h
    rcases ih h with before | later
    · rcases snd_mem_of_mem_putEntry before with old | new
      · exact .inl old
      · exact .inr (List.mem_cons.mpr (.inl new))
    · exact .inr (List.mem_cons_of_mem _ later)

section
variable {put : List (α × β)} {e : α × β}

theorem keys_putEntries (put : List (α × β)) :
    (putEntries same [] put).map (·.1) = keepFirst same [] (put.map (·.1)) :=
  map_fst_putEntries [] put

theorem mem_of_mem_putEntries (h : e ∈ putEntries same [] put) :
    e.1 ∈ put.map (·.1) ∧ e.2 ∈ put.map (·.2) := by
  have key : e.1 ∈ keepFirst same [] (put.map (·.1)) := by
    rw [← keys_putEntries]
    exact List.mem_map_of_mem h
  exact ⟨(mem_or_mem_of_mem_keepFirst key).resolve_left List.not_mem_nil,
    (snd_mem_of_mem_putEntries h).resolve_left List.not_mem_nil⟩

theorem exists_mem_putEntries (h : e ∈ put) :
    ∃ f ∈ putEntries same [] put, f.1 = e.1 ∨ same f.1 e.1 = true := by
  have key : e.1 ∈ put.map (·.1) := List.mem_map_of_mem h
  obtain ⟨k, kept, equal⟩ : ∃ k ∈ keepFirst same [] (put.map (·.1)), k = e.1 ∨ same k e.1 = true :=
    exists_mem_keepFirst key
  rw [← keys_putEntries] at kept
  obtain ⟨f, hf, rfl⟩ := List.mem_map.mp kept
  exact ⟨f, hf, equal⟩

theorem putEntries_pairwise (put : List (α × β)) :
    (putEntries same [] put).Pairwise fun a b => same a.1 b.1 = false := by
  have keys : ((putEntries same [] put).map (·.1)).Pairwise fun a b => same a b = false := by
    rw [keys_putEntries]
    exact keepFirst_pairwise .nil _
  exact List.pairwise_map.mp keys

end

end

section
variable [BEq α] [LawfulBEq α]

theorem lookup_putEntry (key name : α) (value : β) (entries : List (α × β)) :
    (putEntry (· == ·) key value entries).lookup name =
      if name == key then some value else entries.lookup name := by
  induction entries with
  | nil => cases asked : name == key <;> simp [putEntry, List.lookup_cons, asked]
  | cons e entries ih =>
    obtain ⟨k, v⟩ := e
    rw [putEntry]
    by_cases here : k = key
    · subst here
      cases asked : name == k <;> simp [List.lookup_cons, asked]
    · rw [if_neg (by simpa using here), List.lookup_cons, List.lookup_cons, ih]
      cases first : name == k with
      | false => rfl
      | true =>
        have other : (name == key) = false := by
          rw [eq_of_beq first]
          simpa using here
        simp [other]

omit [LawfulBEq α] in
theorem lookup_map_snd {γ : Type} (f : β → γ) (name : α) (entries : List (α × β)) :
    (entries.map fun e => (e.1, f e.2)).lookup name = (entries.lookup name).map f := by
  induction entries with
  | nil => rfl
  | cons e entries ih =>
    rw [List.map_cons, List.lookup_cons, List.lookup_cons, ih]
    cases name == e.1 <;> rfl

theorem lookup_eq_some_iff_mem {entries : List (α × β)} (distinct : (entries.map (·.1)).Nodup)
    {name : α} {value : β} : entries.lookup name = some value ↔ (name, value) ∈ entries := by
  induction entries with
  | nil => simp
  | cons e entries ih =>
    obtain ⟨k, v⟩ := e
    obtain ⟨once, distinct⟩ := List.nodup_cons.mp distinct
    rw [List.lookup_cons, List.mem_cons, Prod.mk.injEq]
    cases asked : name == k with
    | false =>
      have other : name ≠ k := by simpa using asked
      simp [other, ih distinct]
    | true =>
      obtain rfl := eq_of_beq asked
      have absent : (name, value) ∉ entries := fun mem =>
        once (List.mem_map.mpr ⟨_, mem, rfl⟩)
      simp [absent, eq_comm]

/-- Each key has the value put last, which is the only one put for it. -/
theorem lookup_putEntries {put : List (α × β)} (distinct : (put.map (·.1)).Nodup) (name : α)
    (entries : List (α × β)) :
    (putEntries (· == ·) entries put).lookup name = (put.lookup name).or (entries.lookup name) := by
  induction put generalizing entries with
  | nil => rfl
  | cons e put ih =>
    obtain ⟨k, v⟩ := e
    obtain ⟨once, distinct⟩ := List.nodup_cons.mp distinct
    rw [putEntries_cons, ih distinct, lookup_putEntry, List.lookup_cons]
    cases asked : name == k with
    | false => simp
    | true =>
      have unput : put.lookup name = none := by
        rw [List.lookup_eq_none_iff, eq_of_beq asked]
        intro f hf
        have other : k ≠ f.1 := fun same => once (List.mem_map.mpr ⟨f, hf, same.symm⟩)
        simpa using other
      simp [unput]

/-- Where keys are put one by one none is there twice. -/
theorem nodup_putEntries {entries : List (α × β)} (distinct : (entries.map (·.1)).Nodup)
    (put : List (α × β)) : ((putEntries (· == ·) entries put).map (·.1)).Nodup := by
  rw [map_fst_putEntries]
  have apart : (entries.map (·.1)).Pairwise fun a b => (a == b) = false := by
    simpa [List.Nodup] using distinct
  have kept : (keepFirst (· == ·) (entries.map (·.1)) (put.map (·.1))).Pairwise
      fun a b => (a == b) = false := keepFirst_pairwise apart _
  simpa [List.Nodup] using kept

end

end FieldOrder
