import FieldOrder.Files.Tree
import FieldOrder.Proofs.Computation
import FieldOrder.Proofs.Files.Tree

namespace FieldOrder

open FileTree hiding none

namespace FileTree

theorem at?_append (t : FileTree) (location rest : List String) :
    t.at? (location ++ rest) = (t.at? location).bind (·.at? rest) := by
  induction location generalizing t with
  | nil => rfl
  | cons name location ih =>
    rw [List.cons_append, at?, at?]
    cases t.child? name with
    | none => rfl
    | some child => exact ih child

theorem isDirectory_of_at? {t u v : FileTree} {location below : List String}
    (there : t.at? location = some u) (deeper : t.at? (location ++ below) = some v)
    (notHere : below ≠ []) : u.isDirectory = true := by
  rw [at?_append, there, Option.bind_some] at deeper
  cases below with
  | nil => exact absurd rfl notHere
  | cons name rest =>
    cases u with
    | directory entries => rfl
    | file bytes => cases deeper
    | link target => cases deeper

theorem fileAt?_isSome_iff {t : FileTree} {location : List String} :
    (t.fileAt? location).isSome ↔ ∃ bytes, t.at? location = some (.file bytes) := by
  rw [fileAt?]
  split <;> simp_all

end FileTree

namespace FileTree

/-- There are no links in the tree. -/
inductive LinkFree : FileTree → Prop
  | file (bytes : List UInt8) : LinkFree (.file bytes)
  | directory {entries : List (String × FileTree)} (each : ∀ e ∈ entries, LinkFree e.2) :
    LinkFree (.directory entries)

theorem LinkFree.at? {t u : FileTree} {location : List String} (linkFree : t.LinkFree)
    (h : t.at? location = some u) : u.LinkFree := by
  induction location generalizing t with
  | nil =>
    cases h
    exact linkFree
  | cons name rest ih =>
    rw [FileTree.at?, Option.bind_eq_some_iff] at h
    obtain ⟨child, found, h⟩ := h
    cases linkFree with
    | file bytes => cases found
    | directory each => exact ih (each (name, child) (mem_of_lookup found)) h

theorem LinkFree.at?_ne {t : FileTree} (linkFree : t.LinkFree) (location : List String)
    (target : Path) : t.at? location ≠ some (.link target) := by
  intro found
  cases linkFree.at? found

end FileTree

namespace Workspace
variable {w : Workspace}

/-- A run takes place in a directory. -/
def InDirectory (w : Workspace) : Prop :=
  ∃ entries, w.tree.at? w.current = some (.directory entries)

theorem InDirectory.isDirectory (h : w.InDirectory) : w.tree.isDirectory = true := by
  obtain ⟨entries, there⟩ := h
  by_cases top : w.current = []
  · rw [top] at there
    rw [Option.some_inj.mp there]
    rfl
  · have here : w.tree.at? [] = some w.tree := rfl
    exact isDirectory_of_at? here there top

/-- There is something at the location that the target is for. -/
def Leads (w : Workspace) (target : Path) (location : List String) : Prop :=
  w.locate (w.fullName target) target = .ok location

/-- There is nothing for the target. -/
def Missing (w : Workspace) (target : Path) : Prop :=
  ∃ e, w.locate (w.fullName target) target = .error e ∧ e.leadsNowhere = true

/-- There is nothing for the target, as no path and no name in a directory is that long. -/
def TooLong (w : Workspace) (target : Path) : Prop :=
  w.locate (w.fullName target) target = .error .nameTooLong

theorem lookup_ne_link (linkFree : w.tree.LinkFree) {location : List String}
    {entries : List (String × FileTree)} (there : w.tree.at? location = some (.directory entries))
    (name : String) (target : Path) : entries.lookup name ≠ some (.link target) := by
  intro found
  refine linkFree.at?_ne (location ++ [name]) target ?_
  rw [at?_append, there, Option.bind_some, at?, FileTree.child?, FileTree.entries, found]
  rfl

section
variable {follow : List String → Path → Except OsError (List String)} {location : List String}
  {bytes : List UInt8} (linkFree : w.tree.LinkFree)
  (isFile : w.tree.at? location = some (.file bytes))
include linkFree isFile

theorem eq_of_step {start : List String} {name : String}
    (h : w.step follow start name = .ok location) : location = start ++ [name] := by
  rw [step] at h
  split at h
  · next entries there =>
    split at h
    · rw [around] at h
      split at h
      · cases h
      cases h
      -- Double points lead to a directory, which no file is.
      by_cases top : start = []
      · subst top
        rw [List.dropLast_nil, there] at isFile
        cases isFile
      · have up : start.dropLast ++ [start.getLast top] = start := List.dropLast_append_getLast top
        have deeper : w.tree.at? (start.dropLast ++ [start.getLast top]) = _ := up.symm ▸ there
        cases isDirectory_of_at? isFile deeper (List.cons_ne_nil _ _)
    · split at h
      · cases h
      split at h
      · cases h
      · next target found => exact absurd found (lookup_ne_link linkFree there name target)
      · cases h
        rfl
  · cases h

theorem getLast?_of_steps {names start : List String}
    (h : names.foldlM (w.step follow) start = .ok location) :
    (names = [] ∧ location = start) ∨ names ≠ [] ∧ names.getLast? = location.getLast? := by
  rcases List.eq_nil_or_concat names with rfl | ⟨before, last, rfl⟩
  · cases h
    exact .inl ⟨rfl, rfl⟩
  · rw [List.concat_eq_append, List.foldlM_append] at h
    obtain ⟨middle, -, h⟩ := bind_eq_ok.mp h
    rw [List.foldlM_cons] at h
    obtain ⟨_, stepped, ends⟩ := bind_eq_ok.mp h
    cases ends
    refine .inr ⟨by simp, ?_⟩
    rw [eq_of_step linkFree isFile stepped]
    simp

/-- A path that leads to a file ends in its name. -/
theorem Leads.getLast? (inDirectory : w.InDirectory) {p : Path} (leads : w.Leads p location) :
    p.names.getLast? = location.getLast? := by
  rw [Leads, locate] at leads
  split at leads
  · cases leads
  obtain ⟨⟨start, names⟩, anchored, steps⟩ := bind_eq_ok.mp leads
  rw [anchor] at anchored
  split at anchored
  · cases anchored
    rcases getLast?_of_steps linkFree isFile steps with ⟨-, rfl⟩ | ⟨-, same⟩
    · obtain ⟨entries, there⟩ := inDirectory
      rw [isFile] at there
      cases there
    · exact same
  split at anchored
  · cases anchored
    rcases getLast?_of_steps linkFree isFile steps with ⟨-, rfl⟩ | ⟨names, same⟩
    · have isDirectory := inDirectory.isDirectory
      rw [Option.some_inj.mp isFile] at isDirectory
      cases isDirectory
    · have more : ¬ p.names.length ≤ w.root.names.length := by
        simpa [List.drop_eq_nil_iff] using names
      rw [← same, List.getLast?_drop, if_neg more]
  · cases anchored

end

theorem isSome_at?_of_append {t : FileTree} {location : List String} (rest : List String)
    (h : (t.at? (location ++ rest)).isSome) : (t.at? location).isSome := by
  rw [at?_append] at h
  cases there : t.at? location with
  | none => simp [there] at h
  | some u => rfl

section
variable (linkFree : w.tree.LinkFree)
include linkFree

/-- A step leads to what is there. -/
theorem isSome_at?_of_step {follow : List String → Path → Except OsError (List String)}
    {start location : List String} {name : String} (h : w.step follow start name = .ok location) :
    (w.tree.at? location).isSome := by
  rw [step] at h
  split at h
  · next entries there =>
    split at h
    · rw [around] at h
      split at h
      · cases h
      cases h
      refine isSome_at?_of_append (start.drop (start.length - 1)) ?_
      rw [List.dropLast_eq_take, List.take_append_drop, there]
      rfl
    · split at h
      · cases h
      split at h
      · cases h
      · next target found => exact absurd found (lookup_ne_link linkFree there name target)
      · next child _ found =>
        cases h
        rw [at?_append, there, Option.bind_some, at?, FileTree.child?, FileTree.entries, found]
        rfl
  · cases h

theorem isSome_at?_of_steps {follow : List String → Path → Except OsError (List String)}
    {names start location : List String} (there : (w.tree.at? start).isSome)
    (h : names.foldlM (w.step follow) start = .ok location) : (w.tree.at? location).isSome := by
  induction names generalizing start with
  | nil =>
    cases h
    exact there
  | cons name names ih =>
    rw [List.foldlM_cons] at h
    obtain ⟨_, first, later⟩ := bind_eq_ok.mp h
    exact ih (isSome_at?_of_step linkFree first) later

theorem Leads.isSome_at? (inDirectory : w.InDirectory) {target : Path} {location : List String}
    (leads : w.Leads target location) : (w.tree.at? location).isSome := by
  rw [Leads, locate] at leads
  split at leads
  · cases leads
  obtain ⟨⟨start, names⟩, anchored, steps⟩ := bind_eq_ok.mp leads
  refine isSome_at?_of_steps linkFree ?_ steps
  rw [anchor] at anchored
  split at anchored
  · cases anchored
    obtain ⟨entries, there⟩ := inDirectory
    rw [there]
    rfl
  split at anchored
  · cases anchored
    rfl
  · cases anchored

end

section
variable {target : Path} (linkFree : w.tree.LinkFree)
include linkFree

/-- A step goes wrong where there is nothing of that name, or can be nothing. -/
theorem step_eq_error {follow : List String → Path → Except OsError (List String)}
    {start : List String} {name : String} {e : OsError}
    (h : w.step follow start name = .error e) : e.leadsNowhere = true ∨ e = .nameTooLong := by
  rw [step] at h
  split at h
  · next entries there =>
    split at h
    · rw [around] at h
      split at h
      · cases h
        exact .inl rfl
      · cases h
    · split at h
      · cases h
        exact .inr rfl
      split at h
      · cases h
        exact .inl rfl
      · next target found => exact absurd found (lookup_ne_link linkFree there name target)
      · cases h
  · cases h
    exact .inl rfl

theorem steps_eq_error {follow : List String → Path → Except OsError (List String)}
    {names start : List String} {e : OsError} (h : names.foldlM (w.step follow) start = .error e) :
    e.leadsNowhere = true ∨ e = .nameTooLong := by
  induction names generalizing start with
  | nil => cases h
  | cons name names ih =>
    rw [List.foldlM_cons] at h
    rcases bind_eq_error.mp h with first | ⟨_, -, later⟩
    · exact step_eq_error linkFree first
    · exact ih later

theorem leads_or_missing_or_tooLong (target : Path) :
    (∃ location, w.Leads target location) ∨ w.Missing target ∨ w.TooLong target := by
  cases located : w.locate (w.fullName target) target with
  | ok location => exact .inl ⟨location, located⟩
  | error e =>
    suffices e.leadsNowhere = true ∨ e = .nameTooLong by
      rcases this with nowhere | rfl
      · exact .inr (.inl ⟨e, located, nowhere⟩)
      · exact .inr (.inr located)
    rw [locate] at located
    split at located
    · cases located
      exact .inr rfl
    rcases bind_eq_error.mp located with unanchored | ⟨_, -, steps⟩
    · rw [anchor] at unanchored
      split at unanchored
      · cases unanchored
      split at unanchored
      · cases unanchored
      · cases unanchored
        exact .inl rfl
    · exact steps_eq_error linkFree steps

end

theorem byteLength_ofList (cs : List Char) :
    byteLength (String.ofList cs) = (Text.encode cs).length := by
  rw [byteLength, String.toList_ofList]

theorem tooLong_of_byteLength (inDirectory : w.InDirectory) {name : String}
    (long : nameLimit < byteLength name) : w.TooLong { names := [name] } := by
  obtain ⟨entries, there⟩ := inDirectory
  have noPoints : name ≠ ".." := by
    rintro rfl
    exact absurd long (by decide +kernel)
  have stepped (follow : List String → Path → Except OsError (List String)) :
      w.step follow w.current name = .error .nameTooLong := by
    rw [step, there]
    simp only [if_neg noPoints, if_pos long]
  rw [TooLong, locate]
  split
  · rfl
  · show List.foldlM _ _ _ = _
    rw [List.foldlM_cons, stepped]
    rfl

theorem Leads.not_missing {target : Path} {location : List String}
    (leads : w.Leads target location) : ¬ w.Missing target ∧ ¬ w.TooLong target := by
  constructor
  · rintro ⟨e, located, -⟩
    cases located.symm.trans leads
  · intro tooLong
    cases tooLong.symm.trans leads

end Workspace

end FieldOrder
