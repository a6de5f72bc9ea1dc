import FieldOrder.Files.Collect
import FieldOrder.Proofs.Computation
import FieldOrder.Proofs.Distinct
import FieldOrder.Proofs.Files.Tree

namespace FieldOrder

open FileTree

namespace Filter

/-- A walk goes along the names: it enters the directories, and takes the file at the end. -/
def Reaches (f : Filter) (location : List String) : List String → Prop
  | [] => False
  | [name] => f.takesFile location name = true
  | name :: next :: rest => f.enters location name = true ∧
    f.Reaches (location ++ [name]) (next :: rest)

/-- The names lead from a tree to a file or a link. -/
def LeadsToLeaf (t : FileTree) (names : List String) : Prop :=
  ∃ leaf, t.at? names = some leaf ∧ leaf.isDirectory = false

theorem leadsToLeaf_cons {entries : List (String × FileTree)}
    (ordered : entries.Pairwise (·.1 < ·.1)) {name : String} {rest : List String} :
    LeadsToLeaf (directory entries) (name :: rest) ↔
      ∃ child, (name, child) ∈ entries ∧ LeadsToLeaf child rest := by
  have found_iff (child : FileTree) :
      (directory entries).child? name = some child ↔ (name, child) ∈ entries :=
    ⟨mem_of_lookup, lookup_of_mem ordered⟩
  simp only [LeadsToLeaf, FileTree.at?, Option.bind_eq_some_iff, found_iff]
  constructor
  · rintro ⟨leaf, ⟨child, mem, there⟩, isLeaf⟩
    exact ⟨child, mem, leaf, there, isLeaf⟩
  · rintro ⟨child, mem, leaf, there, isLeaf⟩
    exact ⟨leaf, ⟨child, mem, there⟩, isLeaf⟩

theorem leadsToLeaf_nil {t : FileTree} : LeadsToLeaf t [] ↔ t.isDirectory = false := by
  simp [LeadsToLeaf, FileTree.at?]

theorem not_leadsToLeaf_cons_of_leaf {t : FileTree} (leaf : t.isDirectory = false) {name : String}
    {rest : List String} : ¬ LeadsToLeaf t (name :: rest) := by
  rintro ⟨u, there, -⟩
  cases t with
  | directory entries => cases leaf
  | file bytes => cases there
  | link target => cases there

theorem exists_reached_iff {f : Filter} {location : List String}
    {entries : List (String × FileTree)} (ordered : entries.Pairwise (·.1 < ·.1))
    {found : List String} :
    (∃ rest, found = location ++ rest ∧ LeadsToLeaf (directory entries) rest ∧
      f.Reaches location rest) ↔
    (∃ e ∈ entries, e.2.isDirectory = false ∧ f.takesFile location e.1 = true ∧
      found = location ++ [e.1]) ∨
    ∃ e ∈ entries, e.2.isDirectory = true ∧ f.enters location e.1 = true ∧
      ∃ rest, found = location ++ [e.1] ++ rest ∧ LeadsToLeaf e.2 rest ∧
        f.Reaches (location ++ [e.1]) rest := by
  constructor
  · rintro ⟨rest, rfl, isLeaf, reached⟩
    cases rest with
    | nil => cases reached
    | cons name rest =>
      obtain ⟨child, mem, below⟩ := (leadsToLeaf_cons ordered).mp isLeaf
      cases rest with
      | nil => exact .inl ⟨(name, child), mem, leadsToLeaf_nil.mp below, reached, rfl⟩
      | cons next rest =>
        obtain ⟨entered, reached⟩ := reached
        have inner : child.isDirectory = true := by
          by_contra leaf
          exact not_leadsToLeaf_cons_of_leaf (by simpa using leaf) below
        exact .inr ⟨(name, child), mem, inner, entered, next :: rest, by simp, below, reached⟩
  · rintro (⟨⟨name, child⟩, mem, isLeaf, taken, rfl⟩ |
      ⟨⟨name, child⟩, mem, inner, entered, rest, rfl, below, reached⟩)
    · exact ⟨[name], rfl, (leadsToLeaf_cons ordered).mpr ⟨child, mem, leadsToLeaf_nil.mpr isLeaf⟩,
        taken⟩
    · refine ⟨name :: rest, by simp, (leadsToLeaf_cons ordered).mpr ⟨child, mem, below⟩, ?_⟩
      cases rest with
      | nil => cases reached
      | cons next rest => exact ⟨entered, reached⟩

theorem not_reached_of_leaf {f : Filter} {location found : List String} {t : FileTree}
    (leaf : t.isDirectory = false) :
    ¬ ∃ rest, found = location ++ rest ∧ LeadsToLeaf t rest ∧ f.Reaches location rest := by
  rintro ⟨rest, -, isLeaf, reached⟩
  cases rest with
  | nil => cases reached
  | cons name rest => exact not_leadsToLeaf_cons_of_leaf leaf isLeaf

mutual

/-- A walk finds exactly the files and links that it reaches. -/
theorem mem_walk_iff (f : Filter) (location : List String) (t : FileTree) (proper : t.Proper)
    {found : List String} : found ∈ f.walk location t ↔
      ∃ rest, found = location ++ rest ∧ LeadsToLeaf t rest ∧ f.Reaches location rest := by
  cases proper with
  | file bytes => exact iff_of_false List.not_mem_nil (not_reached_of_leaf rfl)
  | link target => exact iff_of_false List.not_mem_nil (not_reached_of_leaf rfl)
  | @directory entries ordered each =>
    rw [walk, List.mem_append, exists_reached_iff ordered, mem_walkEach_iff f location entries each]
    refine or_congr_left ?_
    simp only [List.mem_map, List.mem_filter, Bool.and_eq_true, Bool.not_eq_true']
    constructor
    · rintro ⟨e, ⟨mem, isLeaf, taken⟩, rfl⟩
      exact ⟨e, mem, isLeaf, taken, rfl⟩
    · rintro ⟨e, mem, isLeaf, taken, rfl⟩
      exact ⟨e, ⟨mem, isLeaf, taken⟩, rfl⟩

theorem mem_walkEach_iff (f : Filter) (location : List String)
    (entries : List (String × FileTree)) (each : ∀ e ∈ entries, e.2.Proper)
    {found : List String} : found ∈ f.walkEach location entries ↔
      ∃ e ∈ entries, e.2.isDirectory = true ∧ f.enters location e.1 = true ∧
        ∃ rest, found = location ++ [e.1] ++ rest ∧ LeadsToLeaf e.2 rest ∧
          f.Reaches (location ++ [e.1]) rest := by
  cases entries with
  | nil => simp [walkEach]
  | cons e entries =>
    obtain ⟨name, child⟩ := e
    obtain ⟨first, later⟩ := List.forall_mem_cons.mp each
    rw [walkEach, List.mem_append, mem_walkEach_iff f location entries later,
      List.exists_mem_cons_iff, ← and_assoc]
    refine or_congr_left ?_
    split
    · next entered =>
      rw [mem_walk_iff f (location ++ [name]) child first]
      simp only [Bool.and_eq_true] at entered
      exact (and_iff_right entered).symm
    · next closed =>
      simp only [Bool.and_eq_true] at closed
      exact iff_of_false List.not_mem_nil fun h => closed h.1

end

end Filter

/-- Files at one location count as one. -/
def FoundFile.sameLocation (a b : FoundFile) : Bool := a.location == b.location

theorem FoundFile.nodup_keepFirst (found : List FoundFile) :
    ((keepFirst sameLocation [] found).map (·.location)).Nodup := by
  refine List.pairwise_map.mpr ((keepFirst_pairwise .nil found).imp fun differ => ?_)
  simpa [sameLocation] using differ

namespace Workspace
variable {w : Workspace} {compile : IgnoreCompiler} {targets : List Path}
  {extensions exclude : List String} {files : List FoundFile}

theorem collect_eq_ok : w.collect compile targets extensions exclude = .ok files ↔
    ∃ ignore, w.ignore compile exclude = .ok ignore ∧
      ∃ found, targets.mapM (w.filesOf ⟨ignore, extensions⟩) = .ok found ∧
        keepFirst FoundFile.sameLocation [] found.flatten = files := by
  simp only [collect, bind_eq_ok, pure_eq_ok]
  rfl

theorem collect_distinct (h : w.collect compile targets extensions exclude = .ok files) :
    (files.map (·.location)).Nodup := by
  obtain ⟨ignore, -, found, -, rfl⟩ := collect_eq_ok.mp h
  exact FoundFile.nodup_keepFirst _

end Workspace

end FieldOrder
