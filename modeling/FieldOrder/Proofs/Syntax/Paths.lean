import FieldOrder.Proofs.Syntax.Walk
import Mathlib.Data.List.Pairwise

namespace FieldOrder

namespace Node

/-- The node to which a path of child positions leads. -/
def at? (n : Node) : List Nat → Option Node
  | [] => some n
  | i :: path => n.children[i]?.bind (·.at? path)

theorem at?_append (n : Node) (path path' : List Nat) :
    n.at? (path ++ path') = (n.at? path).bind (·.at? path') := by
  induction path generalizing n with
  | nil => rfl
  | cons i path ih =>
    rw [List.cons_append, at?, at?]
    cases n.children[i]? with
    | none => rfl
    | some c => exact ih c

mutual

/-- The paths to a node and its descendants, each before those that lead on from it. -/
def paths : Node → List (List Nat)
  | mk _ children => [] :: pathsFrom 0 children

/-- The paths into siblings of which the first stands at position `i`. -/
def pathsFrom (i : Nat) : List Node → List (List Nat)
  | [] => []
  | n :: rest => n.paths.map (i :: ·) ++ pathsFrom (i + 1) rest

end

theorem paths_eq (n : Node) : n.paths = [] :: pathsFrom 0 n.children := by
  obtain ⟨info, children⟩ := n
  rw [paths, Node.children]

theorem mem_pathsFrom {path : List Nat} {i : Nat} {ns : List Node} :
    path ∈ pathsFrom i ns ↔
      ∃ k n below, ns[k]? = some n ∧ below ∈ n.paths ∧ path = (i + k) :: below := by
  induction ns generalizing i with
  | nil => simp [pathsFrom]
  | cons n rest ih =>
    rw [pathsFrom, List.mem_append, List.mem_map, ih]
    constructor
    · rintro (⟨below, mem, rfl⟩ | ⟨k, m, below, hk, mem, rfl⟩)
      · exact ⟨0, n, below, rfl, mem, rfl⟩
      · exact ⟨k + 1, m, below, hk, mem, by rw [Nat.add_right_comm, Nat.add_assoc]⟩
    · rintro ⟨k, m, below, hk, mem, rfl⟩
      cases k with
      | zero =>
        obtain rfl : n = m := Option.some.inj hk
        exact .inl ⟨below, mem, rfl⟩
      | succ k => exact .inr ⟨k, m, below, hk, mem, by rw [Nat.add_right_comm, Nat.add_assoc]⟩

theorem mem_paths {n : Node} {path : List Nat} : path ∈ n.paths ↔ (n.at? path).isSome := by
  induction n using childInduction generalizing path with
  | node n ih =>
    rw [paths_eq, List.mem_cons, mem_pathsFrom]
    cases path with
    | nil => simp [at?]
    | cons i path =>
      rw [at?, Option.isSome_bind, Option.any_eq_true]
      constructor
      · rintro (h | ⟨k, c, below, hk, mem, eq⟩)
        · cases h
        · obtain ⟨rfl, rfl⟩ := List.cons.inj eq
          rw [Nat.zero_add]
          exact ⟨c, hk, (ih c (List.mem_of_getElem? hk)).mp mem⟩
      · rintro ⟨c, hk, found⟩
        refine .inr ⟨i, c, path, hk, (ih c (List.mem_of_getElem? hk)).mpr found, ?_⟩
        rw [Nat.zero_add]

theorem paths_pairwise (n : Node) : n.paths.Pairwise (· < ·) := by
  induction n using childInduction with
  | node n ih =>
    have below (ns : List Node) (i : Nat) (h : ∀ c ∈ ns, c ∈ n.children) :
        (pathsFrom i ns).Pairwise (· < ·) := by
      induction ns generalizing i with
      | nil => exact .nil
      | cons c rest later =>
        obtain ⟨hc, hrest⟩ := List.forall_mem_cons.mp h
        rw [pathsFrom, List.pairwise_append]
        refine ⟨?_, later (i + 1) hrest, ?_⟩
        · refine List.pairwise_map.mpr ((ih c hc).imp fun lt => ?_)
          exact List.cons_lt_cons_iff.mpr (.inr ⟨rfl, lt⟩)
        · intro path mem path' mem'
          obtain ⟨-, -, rfl⟩ := List.mem_map.mp mem
          obtain ⟨k, -, -, -, -, rfl⟩ := mem_pathsFrom.mp mem'
          exact List.cons_lt_cons_iff.mpr (.inl (by omega))
    rw [paths_eq, List.pairwise_cons]
    refine ⟨fun path mem => ?_, below n.children 0 fun _ => id⟩
    obtain ⟨k, -, -, -, -, rfl⟩ := mem_pathsFrom.mp mem
    exact List.nil_lt_cons _ _

/-- The paths lead to the node and its descendants, each before what is below it. -/
theorem map_at?_paths (n : Node) : n.paths.map n.at? = n.preorder.map some := by
  induction n using childInduction with
  | node n ih =>
    have below (ns : List Node) (i : Nat)
        (h : ∀ k c, ns[k]? = some c → n.children[i + k]? = some c) :
        (pathsFrom i ns).map n.at? = (preorders ns).map some := by
      induction ns generalizing i with
      | nil => rfl
      | cons c rest later =>
        have hc : n.children[i]? = some c := h 0 c rfl
        have inChild : n.at? ∘ (i :: ·) = c.at? := by
          funext path
          rw [Function.comp_apply, at?, hc]
          rfl
        rw [pathsFrom, preorders, List.map_append, List.map_append, List.map_map, inChild,
          ih c (List.mem_of_getElem? hc), later (i + 1) fun k d hk => ?_]
        rw [Nat.add_right_comm, Nat.add_assoc]
        exact h (k + 1) d hk
    rw [paths_eq, List.map_cons, below n.children 0 fun k c hk => by rwa [Nat.zero_add]]
    obtain ⟨info, children⟩ := n
    rfl

end Node

namespace Cursor

/-- One round of the walk: the site that it visits, if any, and where it goes on, unless it ends. -/
def round (c : Cursor) (descended : Bool) : Option Site × Option (Cursor × Bool) :=
  if descended then
    match c.nextSibling? with
    | some d => (none, some (d, false))
    | none => (none, c.parent?.map (·, true))
  else
    match c.firstChild? with
    | some d => (some c.site, some (d, false))
    | none => (some c.site, some (c, true))

/-- The sites visited in a number of rounds, and where the walk goes on after these, unless it has
ended. -/
def rounds : Nat → Cursor → Bool → List Site × Option (Cursor × Bool)
  | 0, c, descended => ([], some (c, descended))
  | n + 1, c, descended =>
    match c.round descended with
    | (visited, none) => (visited.toList, none)
    | (visited, some (d, descended)) =>
      let (later, next) := rounds n d descended
      (visited.toList ++ later, next)

/-- A walk is a round and, unless that ends it, the walk from where it goes on. -/
theorem walk_eq_round (c : Cursor) (descended : Bool) :
    c.walk descended = (c.round descended).1.toList ++
      match (c.round descended).2 with
      | some (d, descended) => d.walk descended
      | none => [] := by
  obtain ⟨n, above⟩ := c
  cases descended with
  | false =>
    rw [walk_false, round, if_neg Bool.false_ne_true, firstChild?]
    cases n.children <;> rfl
  | true =>
    rw [round, if_pos rfl]
    rcases above with _ | ⟨⟨parent, _ | ⟨sibling, rest⟩⟩, above⟩
    · rw [walk_true_nil]
      rfl
    · rw [walk_true_parent]
      rfl
    · rw [walk_true_sibling]
      rfl

/-- A round makes one of the moves that are left and ends the walk if there are none. -/
theorem movesLeft_round (c : Cursor) (descended : Bool) :
    ((c.round descended).2 = none → c.movesLeft descended = 0) ∧
      ∀ next, (c.round descended).2 = some next →
        c.movesLeft descended = next.1.movesLeft next.2 + 1 := by
  obtain ⟨⟨info, children⟩, above⟩ := c
  cases descended with
  | false =>
    rw [round, if_neg Bool.false_ne_true]
    cases children with
    | nil => simp [firstChild?, Node.children, movesLeft, Node.size, Node.sizes, Nat.add_comm]
    | cons child rest =>
      have := one_le_size child
      simp only [firstChild?, Node.children, reduceCtorEq, movesLeft, Bool.false_eq_true,
        ↓reduceIte, Node.size, Node.sizes, false_implies, Option.some.injEq, forall_eq', pending,
        true_and]
      omega
  | true =>
    rw [round, if_pos rfl]
    rcases above with _ | ⟨⟨parent, _ | ⟨sibling, rest⟩⟩, above⟩
    · simp [nextSibling?, parent?, movesLeft, pending]
    · simp [nextSibling?, parent?, movesLeft, pending, Node.sizes, Nat.add_comm]
    · have := one_le_size sibling
      simp only [nextSibling?, reduceCtorEq, false_implies, movesLeft, ↓reduceIte, pending,
        Node.sizes, Option.some.injEq, forall_eq', Bool.false_eq_true, true_and]
      omega

theorem rounds_of_end {c : Cursor} {descended : Bool} (h : (c.round descended).2 = none) (n : Nat) :
    rounds (n + 1) c descended = ((c.round descended).1.toList, none) := by
  rw [rounds]
  split
  · simp_all
  · simp_all

theorem rounds_of_goesOn {c d : Cursor} {descended descended' : Bool}
    (h : (c.round descended).2 = some (d, descended')) (n : Nat) :
    rounds (n + 1) c descended =
      ((c.round descended).1.toList ++ (rounds n d descended').1, (rounds n d descended').2) := by
  rw [rounds]
  split
  · simp_all
  · simp_all

/-- As many rounds as there are moves left do not end the walk; one more does, and they visit its
sites. -/
theorem rounds_eq (n : Nat) (c : Cursor) (descended : Bool) :
    ((rounds n c descended).2 = none ↔ c.movesLeft descended < n) ∧
      (c.movesLeft descended < n → (rounds n c descended).1 = c.walk descended) := by
  induction n generalizing c descended with
  | zero => simp [rounds]
  | succ n ih =>
    obtain ⟨ended, goesOn⟩ := c.movesLeft_round descended
    rw [walk_eq_round]
    cases h : (c.round descended).2 with
    | none => simp [rounds_of_end h, ended h]
    | some next =>
      obtain ⟨d, descended'⟩ := next
      obtain ⟨ends, visits⟩ := ih d descended'
      rw [rounds_of_goesOn h, goesOn _ h, Nat.succ_lt_succ_iff]
      exact ⟨ends, fun enough => congrArg _ (visits enough)⟩

end Cursor

namespace Node

theorem length_preorder (n : Node) : n.preorder.length = n.size := by
  induction n using childInduction with
  | node n ih =>
    have below (ns : List Node) (h : ∀ c ∈ ns, c ∈ n.children) :
        (preorders ns).length = sizes ns := by
      induction ns with
      | nil => rfl
      | cons c rest later =>
        obtain ⟨hc, hrest⟩ := List.forall_mem_cons.mp h
        rw [preorders, List.length_append, ih c hc, later hrest, sizes]
    have children := below n.children fun _ => id
    obtain ⟨info, cs⟩ := n
    rw [preorder, size, List.length_cons, Nat.add_comm]
    exact congrArg _ children

theorem length_paths (n : Node) : n.paths.length = n.size := by
  rw [← length_preorder, ← List.length_map (f := n.at?), map_at?_paths, List.length_map]

/-- A walk from a node of a tree ends after two rounds for each node below, itself included. It
visits the places of the tree that lie below, each once and no other, in the order of their paths.
-/
theorem walk_in_order (root start : Node) (path : List Nat) (h : root.at? path = some start) :
    let places := start.paths.map (path ++ ·)
    let rounds (n : Nat) := Cursor.rounds n ⟨start, []⟩ false
    (∀ place, place ∈ places ↔ path <+: place ∧ (root.at? place).isSome) ∧
      places.Pairwise (· < ·) ∧
      start.walk.map (some ·.node) = places.map root.at? ∧
      (∀ n, (rounds n).2 = none ↔ 2 * places.length ≤ n) ∧
      rounds (2 * places.length) = (start.walk, none) := by
  intro places rounds
  -- Below the start, places of the whole tree are places of the part that is walked.
  have below (q : List Nat) : root.at? (path ++ q) = start.at? q := by rw [at?_append, h]; rfl
  have length : places.length = start.size := by rw [List.length_map, length_paths]
  -- Each node is come to and left, and the last leaving ends the walk.
  have moves : Cursor.movesLeft ⟨start, []⟩ false + 1 = 2 * start.size := by
    have := Cursor.one_le_size start
    simp only [Cursor.movesLeft, Bool.false_eq_true, ↓reduceIte, Cursor.pending, Nat.add_zero]
    omega
  refine ⟨fun place => ?_, ?_, ?_, fun n => ?_, ?_⟩
  · constructor
    · intro mem
      obtain ⟨q, hq, rfl⟩ := List.mem_map.mp mem
      rw [below]
      exact ⟨List.prefix_append path q, mem_paths.mp hq⟩
    · rintro ⟨⟨q, rfl⟩, found⟩
      rw [below] at found
      exact List.mem_map.mpr ⟨q, mem_paths.mpr found, rfl⟩
  · refine List.pairwise_map.mpr (start.paths_pairwise.imp fun lt => ?_)
    exact List.append_left_lt lt
  · calc start.walk.map (some ·.node)
        = (start.walk.map (·.node)).map some := by rw [List.map_map]; rfl
      _ = start.preorder.map some := by rw [walk_eq_sites, map_node_sites]
      _ = start.paths.map start.at? := start.map_at?_paths.symm
      _ = places.map root.at? := by
        rw [List.map_map]
        exact List.map_congr_left fun q _ => (below q).symm
  · rw [(Cursor.rounds_eq n _ _).1, length]
    omega
  · obtain ⟨ended, visited⟩ := Cursor.rounds_eq (2 * places.length) ⟨start, []⟩ false
    have enough : Cursor.movesLeft ⟨start, []⟩ false < 2 * places.length := by omega
    exact Prod.ext (visited enough) (ended.mpr enough)

/-- A node with two children that cannot be told apart but by their places, and a sibling that is
not visited. -/
theorem walk_in_order_twins :
    let twin : Node := .mk ⟨"identifier", none, 1, 2, true, false⟩ []
    let comma : Node := .mk ⟨",", none, 2, 3, false, false⟩ []
    let start : Node := .mk ⟨"object_pattern", none, 0, 5, true, false⟩ [twin, comma, twin]
    let root : Node := .mk ⟨"program", none, 0, 6, true, false⟩ [start, comma]
    root.at? [0] = some start ∧
      start.walk.map (some ·.node) = [some start, some twin, some comma, some twin] ∧
      Cursor.rounds 8 ⟨start, []⟩ false = (start.walk, none) ∧
      (Cursor.rounds 7 ⟨start, []⟩ false).2 ≠ none := by
  intro twin comma start root
  have found : root.at? [0] = some start := rfl
  obtain ⟨-, -, visited, ends, ended⟩ := walk_in_order root start [0] found
  exact ⟨found, visited, ended, fun early => absurd ((ends 7).mp early) (by decide)⟩

end Node

end FieldOrder
