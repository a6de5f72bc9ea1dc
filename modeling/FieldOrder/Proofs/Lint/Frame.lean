import FieldOrder.Proofs.Edit.Simultaneous
import FieldOrder.Proofs.Lint.Complete
import FieldOrder.Proofs.Lint.Contained
import FieldOrder.Proofs.Lint.Passes

namespace FieldOrder

/-- Trees of the parser fit their texts, and named nodes in them are not empty. -/
def Parse.Sound (parse : Parse) : Prop :=
  ∀ text root, parse text = some root → root.WellFormed text.toList ∧ root.Solid

/-- Edits that are not empty merge to one that is not. -/
theorem Edit.start_lt_stop_of_merge {text : String} {edits : List Edit} {merged : Edit}
    (inOrder : Edit.InOrder text edits) (nonempty : edits ≠ [])
    (filled : ∀ e ∈ edits, e.range.start < e.range.stop) (h : merge text edits = .ok merged) :
    merged.range.start < merged.range.stop := by
  obtain ⟨merged', eq, start, stop, -⟩ :=
    merge_eq_ok text nonempty inOrder.before fun e he => (inOrder.in_text e he).1
  rw [eq] at h
  cases h
  rw [start, stop]
  have first := filled _ (List.head_mem nonempty)
  obtain ⟨e, rest, rfl⟩ := List.exists_cons_of_ne_nil nonempty
  rcases List.mem_cons.mp (List.getLast_mem nonempty) with same | behind
  · rw [same]
    exact first
  · have before : e.range.stop ≤ _ := List.rel_of_pairwise_cons inOrder.before behind
    have width := filled _ (List.getLast_mem nonempty)
    simp only [List.head_cons] at first ⊢
    omega

section
variable {rules : List BoundRule} {d : Document} {root : Node} {vs : List Violation}
  {v : Violation}

/-- The edits of a violation lie in the text one behind another, and none of them is empty. -/
theorem edits_of_mem_lintDocument (tree : d.tree = some root) (wf : root.WellFormed d.chars)
    (solid : root.Solid) (h : lintDocument rules d = .ok vs) (hv : v ∈ vs) :
    Edit.InOrder d.text v.edits ∧ ∀ e ∈ v.edits, e.range.start < e.range.stop := by
  obtain ⟨s, hs, r, -, shown, visited⟩ := (mem_lintDocument tree h).mp hv
  obtain ⟨node, parent⟩ := Node.mem_preorder_of_mem_walk (root.walk_eq_sites ▸ hs)
  have fits := wf.descendant node
  obtain ⟨found, edits, message, extracted, inNode, analyzed, rfl⟩ :=
    BoundRule.exists_liesIn_of_visit fits (fun p hp => wf.descendant (parent p hp)) visited
  have lies := r.liesIn_report inNode analyzed message
  refine ⟨⟨lies.in_order, lies.in_text⟩, fun e he => ?_⟩
  have clean : s.node.hasError = false := by
    simp only [BoundRule.shown, Bool.and_eq_true, Bool.not_eq_true'] at shown
    exact shown.1.2
  have filled := (Shape.coversNamed_of_extract extracted).start_lt_stop fits
    (solid.descendant node) clean
  obtain ⟨f, hf, start, stop⟩ := Engine.analysis_replaces inNode.laidOut analyzed e he
  exact Int.lt_of_le_of_lt start (Int.lt_of_lt_of_le (filled f hf) stop)

end

/-- The edits are the accepted fixes of the pass in the order of the text, each merged from those of
a violation, and the pass carries them out all at once. -/
structure Pass.Replaces (p : Pass) (edits : List Edit) : Prop where
  accepted : ∃ session, acceptFixes { text := p.before } (fixableOf p.found) =
    .ok (p.accepted, session) ∧ edits.Perm session.accepted
  merged : ∀ e ∈ edits, ∃ v ∈ p.found, Edit.merge p.before v.edits = .ok e
  inOrder : Edit.InOrder p.before edits
  after_eq : p.after = Edit.substitute p.before edits

theorem Pass.Made.exists_replaces {rules : List BoundRule} {parse : Parse} {p : Pass}
    (sound : parse.Sound) (made : p.Made rules parse) : ∃ edits, p.Replaces edits := by
  obtain ⟨session, stats, added, -, applied⟩ := made.carried
  have grown := acceptFixes_extends added
  have merged (e : Edit) (he : e ∈ session.accepted) :
      ∃ v ∈ p.found, v.edits ≠ [] ∧ Edit.merge p.before v.edits = .ok e := by
    rcases grown.merged e he with none | ⟨edits, mem, eq⟩
    · cases none
    · obtain ⟨v, hv, rfl⟩ := List.mem_map.mp mem
      obtain ⟨found, fixable⟩ := List.mem_filter.mp hv
      exact ⟨v, found, by simpa using fixable, eq⟩
  have filled (e : Edit) (he : e ∈ session.accepted) : e.range.start < e.range.stop := by
    obtain ⟨v, hv, nonempty, eq⟩ := merged e he
    obtain ⟨root, tree, -⟩ := exists_visit_of_mem_lintDocument made.found_eq hv
    obtain ⟨wf, solid⟩ := sound _ _ tree
    obtain ⟨inOrder, filled⟩ := edits_of_mem_lintDocument tree wf solid made.found_eq hv
    exact Edit.start_lt_stop_of_merge inOrder nonempty filled eq
  have apart := grown.apart (EditSession.apart_initial _)
  obtain ⟨edits, perm, inOrder, after⟩ := session.exists_substitute_of_apply apart filled applied
  rw [grown.text_eq] at inOrder after
  refine ⟨edits, ⟨session, added, perm⟩, fun e he => ?_, inOrder, after⟩
  obtain ⟨v, hv, -, eq⟩ := merged e (perm.subset he)
  exact ⟨v, hv, eq⟩

end FieldOrder
