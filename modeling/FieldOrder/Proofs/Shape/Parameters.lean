import FieldOrder.Shape.Parameters
import FieldOrder.Proofs.Shape.Fields

namespace FieldOrder.Parameters
variable {d : Document}

theorem exists_describe {entry : Node} (h : entry.WellFormed d.chars) :
    ∃ f, describe d entry = .ok f ∧ d.Covers entry f := by
  obtain ⟨left, hleft⟩ :=
    Document.exists_keyName fun n (hn : n ∈ entry.child? "left") => h.child? hn
  obtain ⟨key, hkey⟩ := Document.exists_keyName fun n (hn : n ∈ entry.child? "key") => h.child? hn
  obtain ⟨own, hown⟩ := Document.exists_keyName fun n (hn : n ∈ some entry) =>
    Option.some.inj hn ▸ h
  simp only [describe, hleft, hkey, hown]
  split <;> exact ⟨_, rfl, rfl, rfl⟩

theorem exists_isComponent {s : Site} (node : s.node.WellFormed d.chars)
    (parent : ∀ p ∈ s.parent, p.WellFormed d.chars) : ∃ b, isComponent d s = .ok b := by
  have named : ∃ name, declaredName d s = .ok name := by
    rw [declaredName]
    split
    · next name own =>
      obtain ⟨t, text⟩ := Document.exists_nodeText (node.child? own)
      exact ⟨some t, by rw [text]; rfl⟩
    · split
      · next parent' hparent =>
        split
        · exact ⟨none, rfl⟩
        · split
          · next target outer =>
            obtain ⟨t, text⟩ := Document.exists_nodeText ((parent _ hparent).child? outer)
            rw [text]
            split <;> exact ⟨_, rfl⟩
          · exact ⟨none, rfl⟩
      · exact ⟨none, rfl⟩
  obtain ⟨name, hname⟩ := named
  rw [isComponent, hname]
  exact ⟨_, rfl⟩

theorem pattern_mem_preorder {f pattern : Node} (h : pattern? f = some pattern) :
    pattern ∈ f.preorder ∧ pattern.kind = "object_pattern" := by
  have below {n c : Node} {field : String} (hc : n.child? field = some c) : c ∈ n.preorder :=
    Node.mem_preorder_of_mem_children (List.mem_of_find?_eq_some hc)
  have guarded {o : Option Node}
      (ho : (o.bind fun p => if p.kind = "object_pattern" then some p else none) = some pattern) :
      o = some pattern ∧ pattern.kind = "object_pattern" := by
    obtain ⟨p, rfl, hp⟩ := Option.bind_eq_some_iff.mp ho
    split at hp
    · cases hp
      exact ⟨rfl, ‹_›⟩
    · cases hp
  simp only [pattern?, Option.bind_eq_bind] at h
  obtain ⟨parameters, hparameters, h⟩ := Option.bind_eq_some_iff.mp h
  obtain ⟨first, hfirst, h⟩ := Option.bind_eq_some_iff.mp h
  have entry : first ∈ parameters.children :=
    Node.mem_children_of_mem_entries (List.mem_of_head? hfirst)
  -- A pattern may be the first entry itself, or stand in it beside a type or a default value.
  have inParameters (hp : pattern ∈ first.preorder) : pattern ∈ f.preorder :=
    Node.mem_preorder_trans
      (Node.mem_preorder_trans hp (Node.mem_preorder_of_mem_children entry)) (below hparameters)
  split at h
  · obtain ⟨found, kind⟩ := guarded h
    exact ⟨inParameters (below found), kind⟩
  · split at h
    · obtain ⟨found, kind⟩ := guarded h
      exact ⟨inParameters (below found), kind⟩
    · obtain ⟨found, kind⟩ := guarded h
      cases found
      exact ⟨inParameters pattern.mem_preorder_self, kind⟩

theorem extract_eq_none {s : Site}
    (few : ∀ pattern, pattern? s.node = some pattern → pattern.entries.length < 2) :
    extract d s = .ok none := by
  rw [extract]
  split
  · rfl
  · next pattern hp =>
    simp only [few pattern hp, if_true]
    rfl

/-- A pattern with at least two entries gives a field list. -/
theorem exists_extract {s : Site} (node : s.node.WellFormed d.chars)
    (parent : ∀ p ∈ s.parent, p.WellFormed d.chars) {pattern : Node}
    (hp : pattern? s.node = some pattern) (two : 2 ≤ pattern.entries.length) :
    ∃ fields component, List.Forall₂ d.Covers pattern.entries fields ∧
      pattern.entries.mapM (describe d) = .ok fields ∧
      extract d s = .ok (some {
        fields, owner := s.node, container := .component, isComponent := component
        fixable := !hasInnerComment pattern pattern.entries }) := by
  have inPattern := node.descendant (pattern_mem_preorder hp).1
  have entries : ∀ e ∈ pattern.entries, ∃ f, describe d e = .ok f ∧ d.Covers e f := by
    intro e he
    exact exists_describe (inPattern.entry he)
  obtain ⟨fields, described, covers⟩ := exists_mapM_eq_ok entries
  obtain ⟨component, hc⟩ := exists_isComponent node parent
  refine ⟨fields, component, covers, described, ?_⟩
  rw [extract, hp]
  simp only [Nat.not_lt.mpr two, if_false, hc, described]
  rfl

/-- A comment that starts between the start of the first entry and the end of the last lies in an
entry, or else the pattern is known to have a comment of its own there. -/
theorem mem_entry_or_hasInnerComment {cs : List Char} {pattern first last c : Node}
    (wf : pattern.WellFormed cs) (grammar : pattern.Grammatical)
    (kind : pattern.kind = "object_pattern") (hfirst : pattern.entries.head? = some first)
    (hlast : pattern.entries.getLast? = some last) (hc : c ∈ pattern.preorder)
    (comment : c.isComment = true) (low : first.start ≤ c.start) (high : c.start < last.stop) :
    (∃ e ∈ pattern.entries, c ∈ e.preorder) ∨
      hasInnerComment pattern pattern.entries = true := by
  have named : c.isNamed = true := grammar.comment_named c hc comment
  rcases Node.mem_preorder.mp hc with rfl | ⟨child, hchild, hc'⟩
  · simp [Node.isComment, kind] at comment
  have below := Node.mem_preorder_of_mem_children hchild
  have inChild := (wf.child hchild).nested hc'
  cases hn : child.isNamed with
  | false =>
    -- An anonymous child has nothing below it, and comments are named.
    rcases Node.mem_preorder.mp hc' with rfl | ⟨k, hk, -⟩
    · rw [named] at hn
      cases hn
    · rw [grammar.anonymous_leaf child below hn] at hk
      cases hk
  | true =>
    have namedChild : child ∈ pattern.namedChildren := List.mem_filter.mpr ⟨hchild, hn⟩
    cases hcom : child.isComment with
    | false =>
      exact .inl ⟨child, List.mem_filter.mpr ⟨namedChild, by simp [hcom]⟩, hc'⟩
    | true =>
      right
      have entry := List.mem_filter.mp (List.mem_of_head? hfirst)
      have ne : first ≠ child := by
        rintro rfl
        simp [hcom] at entry
      have width := grammar.named_nonempty c hc named
      have firstChild := (List.mem_filter.mp entry.1).1
      have firstWidth := grammar.named_nonempty first
        (Node.mem_preorder_of_mem_children firstChild) (List.mem_filter.mp entry.1).2
      have behind : first.start < child.start := by
        rcases wf.apart firstChild hchild ne with h | h <;> omega
      have before : child.start < last.stop := by omega
      rw [hasInnerComment, hfirst, hlast]
      exact List.any_eq_true.mpr ⟨child, namedChild, by simp [hcom, behind, before]⟩

end FieldOrder.Parameters
