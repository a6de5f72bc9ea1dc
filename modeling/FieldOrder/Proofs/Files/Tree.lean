import FieldOrder.Files.Tree
import Mathlib.Data.List.Basic

namespace FieldOrder.FileTree

@[simp]
theorem fileAt?_nil_file (bytes : List UInt8) : (file bytes).fileAt? [] = some bytes := rfl

@[simp]
theorem fileAt?_nil_directory (entries : List (String × FileTree)) :
    (directory entries).fileAt? [] = Option.none := rfl

@[simp]
theorem fileAt?_nil_link (target : Path) : (link target).fileAt? [] = Option.none := rfl

theorem fileAt?_cons (t : FileTree) (name : String) (rest : List String) :
    t.fileAt? (name :: rest) = (t.child? name).bind (·.fileAt? rest) := by
  rw [fileAt?, at?]
  cases t.child? name <;> rfl

theorem fileAt?_cons_of_leaf {t : FileTree} (leaf : t.isDirectory = false) (name : String)
    (rest : List String) : t.fileAt? (name :: rest) = Option.none := by
  rw [fileAt?_cons]
  cases t with
  | directory entries => cases leaf
  | file bytes => rfl
  | link target => rfl

@[simp]
theorem fileAt?_cons_file (bytes : List UInt8) (name : String) (rest : List String) :
    (file bytes).fileAt? (name :: rest) = Option.none := fileAt?_cons_of_leaf rfl name rest

theorem lookup_cons_eq {κ α : Type} [BEq κ] [LawfulBEq κ] [DecidableEq κ] (name : κ) (a : α)
    (entries : List (κ × α)) (other : κ) :
    ((name, a) :: entries).lookup other =
      if other = name then some a else entries.lookup other := by
  by_cases same : other = name
  · simp [same]
  · have differ : (other == name) = false := by simpa using same
    simp [List.lookup_cons, differ, same]

theorem lookup_putInOrder (name : String) (t : FileTree) (entries : List (String × FileTree))
    (other : String) :
    (putInOrder name t entries).lookup other =
      if other = name then some t else entries.lookup other := by
  induction entries with
  | nil => rw [putInOrder, lookup_cons_eq]
  | cons e entries ih =>
    obtain ⟨n, u⟩ := e
    rw [putInOrder]
    by_cases same : n = name
    · subst same
      by_cases h : other = n <;> simp [lookup_cons_eq, h]
    by_cases before : name < n
    · simp [same, before, lookup_cons_eq]
    · by_cases h : other = n
      · subst h
        simp [same, before]
      · simp [same, before, lookup_cons_eq, ih, h]

theorem lookup_of_mem {α : Type} {entries : List (String × α)} {name : String} {a : α}
    (ordered : entries.Pairwise (·.1 < ·.1)) (mem : (name, a) ∈ entries) :
    entries.lookup name = some a := by
  induction ordered with
  | nil => cases mem
  | cons first rest ih =>
    rcases List.mem_cons.mp mem with rfl | mem
    · simp
    · have after := first _ mem
      rw [lookup_cons_eq, if_neg (String.ne_of_lt after).symm]
      exact ih mem

theorem mem_of_lookup {α : Type} {entries : List (String × α)} {name : String} {a : α}
    (h : entries.lookup name = some a) : (name, a) ∈ entries := by
  obtain ⟨before, after, eq, -⟩ := List.lookup_eq_some_iff.mp h
  simp [eq]

theorem child?_insert (t added : FileTree) (name : String) (rest : List String) (other : String) :
    (t.insert added (name :: rest)).child? other =
      if other = name then some (((t.child? name).getD none).insert added rest)
      else t.child? other :=
  lookup_putInOrder name _ t.entries other

/-- A file is replaced by another, and all others stay. -/
theorem fileAt?_insert {t : FileTree} {location : List String} (there : (t.fileAt? location).isSome)
    (bytes : List UInt8) (other : List String) :
    (t.insert (file bytes) location).fileAt? other =
      if other = location then some bytes else t.fileAt? other := by
  -- On the way only the child with the next name changes, so the two names decide.
  induction location generalizing t other with
  | nil =>
    cases t with
    | directory entries => cases there
    | link target => cases there
    | file old =>
      cases other with
      | nil => simp [insert, isDirectory]
      | cons name rest => simp [insert, isDirectory]
  | cons name rest ih =>
    cases other with
    | nil =>
      cases t with
      | directory entries => rfl
      | file old => simp at there
      | link target =>
        rw [fileAt?_cons_of_leaf rfl] at there
        cases there
    | cons name' rest' =>
      rw [fileAt?_cons, child?_insert, fileAt?_cons]
      by_cases same : name' = name
      · subst same
        rw [fileAt?_cons] at there
        cases found : t.child? name' with
        | none => simp [found] at there
        | some child =>
          simp only [found, Option.bind_some] at there
          simpa [found] using ih there rest'
      · simp [same]

/-- The names in each directory are in ascending order, so that they differ. -/
inductive Proper : FileTree → Prop
  | file (bytes : List UInt8) : Proper (file bytes)
  | link (target : Path) : Proper (link target)
  | directory {entries : List (String × FileTree)} (ordered : entries.Pairwise (·.1 < ·.1))
      (each : ∀ e ∈ entries, Proper e.2) : Proper (directory entries)

namespace Proper
variable {t : FileTree} (proper : t.Proper)
include proper

theorem entries : t.entries.Pairwise (·.1 < ·.1) ∧ ∀ e ∈ t.entries, e.2.Proper := by
  cases proper with
  | file bytes => exact ⟨.nil, nofun⟩
  | link target => exact ⟨.nil, nofun⟩
  | directory ordered each => exact ⟨ordered, each⟩

theorem child? {name : String} {child : FileTree} (h : t.child? name = some child) :
    child.Proper :=
  proper.entries.2 (name, child) (mem_of_lookup h)

theorem at? {location : List String} {u : FileTree} (h : t.at? location = some u) : u.Proper := by
  induction location generalizing t with
  | nil =>
    cases h
    exact proper
  | cons name rest ih =>
    rw [FileTree.at?, Option.bind_eq_some_iff] at h
    obtain ⟨child, there, h⟩ := h
    exact ih (proper.child? there) h

end Proper

theorem mem_putInOrder {name : String} {t : FileTree} {entries : List (String × FileTree)}
    {e : String × FileTree} (h : e ∈ putInOrder name t entries) : e = (name, t) ∨ e ∈ entries := by
  induction entries with
  | nil => exact .inl (List.mem_singleton.mp h)
  | cons first entries ih =>
    obtain ⟨n, u⟩ := first
    rw [putInOrder] at h
    split at h
    · rcases List.mem_cons.mp h with rfl | later
      · exact .inl rfl
      · exact .inr (List.mem_cons_of_mem _ later)
    split at h
    · exact List.mem_cons.mp h
    · rcases List.mem_cons.mp h with rfl | later
      · exact .inr List.mem_cons_self
      · exact (ih later).imp_right (List.mem_cons_of_mem _)

theorem putInOrder_pairwise {entries : List (String × FileTree)}
    (ordered : entries.Pairwise (·.1 < ·.1)) (name : String) (t : FileTree) :
    (putInOrder name t entries).Pairwise (·.1 < ·.1) := by
  induction ordered with
  | nil => exact List.pairwise_singleton _ _
  | @cons first entries after ordered ih =>
    obtain ⟨n, u⟩ := first
    rw [putInOrder]
    by_cases same : n = name
    · subst same
      rw [if_pos rfl]
      exact .cons after ordered
    rw [if_neg same]
    by_cases before : name < n
    · rw [if_pos before]
      refine .cons (fun e he => ?_) (.cons after ordered)
      rcases List.mem_cons.mp he with rfl | he
      · exact before
      · exact String.lt_trans before (after e he)
    · rw [if_neg before]
      refine .cons (fun e he => ?_) ih
      rcases mem_putInOrder he with rfl | he
      · by_contra behind
        exact same (String.le_antisymm (String.not_lt.mp before) (String.not_lt.mp behind))
      · exact after e he

theorem Proper.none : FileTree.none.Proper := .directory .nil nofun

theorem Proper.insert {t added : FileTree} (proper : t.Proper) (part : added.Proper)
    (location : List String) : (t.insert added location).Proper := by
  induction location generalizing t with
  | nil =>
    rw [FileTree.insert]
    split
    · exact proper
    · exact part
  | cons name rest ih =>
    obtain ⟨ordered, each⟩ := proper.entries
    refine .directory (putInOrder_pairwise ordered name _) fun e he => ?_
    rcases mem_putInOrder he with rfl | he
    · apply ih
      cases found : t.child? name with
      | none => exact Proper.none
      | some child => exact proper.child? found
    · exact each e he

end FieldOrder.FileTree
