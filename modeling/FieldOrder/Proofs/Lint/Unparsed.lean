import FieldOrder.Proofs.Lint.Complete
import FieldOrder.Proofs.Lint.Contained

namespace FieldOrder

/-- The mark for syntax errors stands at the nodes that are errors and at all above them. -/
def Node.ErrorsMarked (isError : Node → Bool) (root : Node) : Prop :=
  ∀ n ∈ root.preorder, n.hasError = true ↔ ∃ m ∈ n.preorder, isError m = true

instance (isError : Node → Bool) (root : Node) : Decidable (root.ErrorsMarked isError) :=
  inferInstanceAs (Decidable (∀ n ∈ root.preorder,
    n.hasError = true ↔ ∃ m ∈ n.preorder, isError m = true))

variable {d : Document} {root : Node} {v : Violation}

theorem BoundRule.shown_iff {isError : Node → Bool} (marked : root.ErrorsMarked isError)
    {r : BoundRule} {s : Site} (hs : s.node ∈ root.preorder) : r.shown s = true ↔
      s.node.isNamed = true ∧ (∀ m ∈ s.node.preorder, isError m = false) ∧
        r.handles s.node = true := by
  rw [shown, Bool.and_eq_true, Bool.and_eq_true, and_assoc, Bool.not_eq_true', ← Bool.not_eq_true,
    marked s.node hs]
  simp

/-- An edit of a violation lies beside each node that is apart from the reported one. -/
theorem Violation.LiesIn.beside {m n : Node} (h : v.LiesIn d n)
    (apart : m.stop ≤ n.start ∨ n.stop ≤ m.start) : ∀ e ∈ v.edits,
      ((d.nodeRange m).2 : Int) ≤ e.range.start ∨ e.range.stop ≤ (d.nodeRange m).1 := by
  intro e he
  obtain ⟨start, stop⟩ := h.within e he
  rw [h.start_eq] at start
  rw [h.stop_eq] at stop
  rcases apart with before | behind
  · have := d.charOfByte_mono (Int.ofNat_le.mpr before)
    exact .inl (Int.le_trans (Int.ofNat_le.mpr this) start)
  · have := d.charOfByte_mono (Int.ofNat_le.mpr behind)
    exact .inr (Int.le_trans stop (Int.ofNat_le.mpr this))

def Node.isErrorNode (n : Node) : Bool := n.kind == "ERROR"

/-- A named node with a syntax error at or below it. -/
def Node.faulty (kind : String) (start stop : Nat) (children : List Node) : Node :=
  .mk { kind, field := none, start, stop, named := true, hasError := true } children

/-- A violation is about a node without an error, and its edits touch no error but those that the
node is below; of the nodes without an error none is passed over. -/
theorem lintDocument_errors (isError : Node → Bool) (rules : List BoundRule) (text : String)
    (root : Node) (vs : List Violation) (wf : root.WellFormed text.toList)
    (marked : root.ErrorsMarked isError) (h : lintDocument rules ⟨text, some root⟩ = .ok vs) :
    (∀ v, v ∈ vs ↔ ∃ s ∈ root.sites none, ∃ r ∈ rules, s.node.isNamed = true ∧
      (∀ m ∈ s.node.preorder, isError m = false) ∧ r.handles s.node = true ∧
      r.visit ⟨text, some root⟩ s = .ok (some v)) ∧
    ∀ v ∈ vs, ∃ n ∈ root.preorder, v.LiesIn ⟨text, some root⟩ n ∧
      (∀ m ∈ n.preorder, isError m = false) ∧
      ∀ m ∈ root.preorder, isError m = true → n ∈ m.preorder ∨ ∀ e ∈ v.edits,
        ((Document.nodeRange ⟨text, some root⟩ m).2 : Int) ≤ e.range.start ∨
          e.range.stop ≤ (Document.nodeRange ⟨text, some root⟩ m).1 := by
  let d : Document := ⟨text, some root⟩
  have mem (v : Violation) : v ∈ vs ↔ ∃ s ∈ root.sites none, ∃ r ∈ rules, r.shown s = true ∧
      r.visit d s = .ok (some v) := mem_lintDocument rfl h
  have inTree {s : Site} (hs : s ∈ root.sites none) := Node.mem_preorder_of_mem_walk
    (root.walk_eq_sites ▸ hs)
  constructor
  · intro v
    rw [mem]
    constructor
    · rintro ⟨s, hs, r, hr, shown, visited⟩
      obtain ⟨named, clean, handles⟩ := (BoundRule.shown_iff marked (inTree hs).1).mp shown
      exact ⟨s, hs, r, hr, named, clean, handles, visited⟩
    · rintro ⟨s, hs, r, hr, named, clean, handles, visited⟩
      have shown := (BoundRule.shown_iff marked (inTree hs).1).mpr ⟨named, clean, handles⟩
      exact ⟨s, hs, r, hr, shown, visited⟩
  · intro v hv
    obtain ⟨s, hs, r, hr, shown, visited⟩ := (mem v).mp hv
    obtain ⟨node, parent⟩ := inTree hs
    obtain ⟨-, clean, -⟩ := (BoundRule.shown_iff marked node).mp shown
    have lies : v.LiesIn d s.node := BoundRule.liesIn_of_visit (wf.descendant node)
      (fun p hp => wf.descendant (parent p hp)) visited
    refine ⟨s.node, node, lies, clean, fun m hm error => ?_⟩
    -- An error stands below the node, above it, or beside it; below it there is none.
    rcases wf.nested_or_apart hm node with below | above | apart
    · rw [clean m below] at error
      cases error
    · exact .inl above
    · exact .inr (lies.beside apart)

def strayTree : Node :=
  .faulty "program" 0 9 [.tag 0 8 [.attr 3 4 4 [], .attr 5 6 6 []], .faulty "ERROR" 8 9 []]

theorem lintDocument_errors_stray :
    ∃ vs, lintDocument [.forAttributes none] ⟨"<A c b/>)", some strayTree⟩ = .ok vs ∧
      vs.map (·.edits) = [[⟨⟨3, 4, by decide⟩, "b"⟩, ⟨⟨5, 6, by decide⟩, "c"⟩]] ∧
      ∀ v ∈ vs, ∃ n ∈ strayTree.preorder, v.LiesIn ⟨"<A c b/>)", some strayTree⟩ n ∧
        ∀ m ∈ strayTree.preorder, m.isErrorNode = true → n ∈ m.preorder ∨ ∀ e ∈ v.edits,
          ((Document.nodeRange ⟨"<A c b/>)", some strayTree⟩ m).2 : Int) ≤ e.range.start ∨
            e.range.stop ≤ (Document.nodeRange ⟨"<A c b/>)", some strayTree⟩ m).1 := by
  let v : Violation := .ofTag 0 8 [⟨⟨3, 4, by decide⟩, "b"⟩, ⟨⟨5, 6, by decide⟩, "c"⟩]
  have found : lintDocument [.forAttributes none] ⟨"<A c b/>)", some strayTree⟩ = .ok [v] := by
    decide +kernel
  obtain ⟨-, each⟩ := lintDocument_errors Node.isErrorNode [.forAttributes none] "<A c b/>)"
    strayTree [v] (by decide +kernel) (by decide +kernel) found
  refine ⟨[v], found, rfl, fun v hv => ?_⟩
  obtain ⟨n, hn, lies, -, apart⟩ := each v hv
  exact ⟨n, hn, lies, apart⟩

/-- A tag that was never closed: all of it is an error, but below that the tag has none. -/
def unclosedTag : Node := .clean "jsx_opening_element" 0 7 [.attr 3 4 4 [], .attr 5 6 6 []]

def unclosedTree : Node := .faulty "program" 0 7 [.faulty "ERROR" 0 7 [unclosedTag]]

/-- The tag is reported and offered a fix, though it lies in an error. -/
theorem lintDocument_unclosed :
    unclosedTree.ErrorsMarked Node.isErrorNode ∧ unclosedTree.WellFormed "<A c b>".toList ∧
      ∃ error ∈ unclosedTree.preorder, error.isErrorNode = true ∧ unclosedTag ∈ error.preorder ∧
        ∃ v, lintDocument [.forAttributes none] ⟨"<A c b>", some unclosedTree⟩ = .ok [v] ∧
          (BoundRule.forAttributes none).visit ⟨"<A c b>", some unclosedTree⟩
            ⟨unclosedTag, some error⟩ = .ok (some v) ∧
          v.edits = [⟨⟨3, 4, by decide⟩, "b"⟩, ⟨⟨5, 6, by decide⟩, "c"⟩] := by
  refine ⟨by decide +kernel, by decide +kernel, .faulty "ERROR" 0 7 [unclosedTag],
    Node.mem_preorder_of_mem_children (List.mem_singleton_self _), rfl,
    Node.mem_preorder_of_mem_children (List.mem_singleton_self _),
    .ofTag 0 7 [⟨⟨3, 4, by decide⟩, "b"⟩, ⟨⟨5, 6, by decide⟩, "c"⟩], ?_, ?_, rfl⟩
  · decide +kernel
  · decide +kernel

end FieldOrder
