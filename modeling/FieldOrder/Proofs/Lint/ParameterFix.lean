import FieldOrder.Edit.Session
import FieldOrder.Proofs.Lint.Findings
import FieldOrder.Proofs.Patch.Joined
import FieldOrder.Proofs.Shape.Parameters

namespace FieldOrder

namespace Parameters

/-- A comment of the pattern lies between two of its entries and in none of them. -/
def CommentBetween (pattern : Node) : Prop :=
  ∃ c ∈ pattern.preorder, c.isComment = true ∧ (∃ a ∈ pattern.entries, a.stop ≤ c.start) ∧
    (∃ b ∈ pattern.entries, c.stop ≤ b.start) ∧ ∀ e ∈ pattern.entries, c ∉ e.preorder

/-- The fixed text is that of the document with the entries of the pattern joined in the given
order. -/
structure Reordered (d : Document) (pattern : Node) (order : List Nat) (fixed : String) : Prop where
  order_perm : order.Perm (List.range pattern.entries.length)
  text_eq : ∃ first last texts, pattern.entries.head? = some first ∧
    pattern.entries.getLast? = some last ∧ pattern.entries.mapM d.nodeText = .ok texts ∧
    fixed = Text.sliceTo d.text (d.nodeRange first).1 ++
      ", ".intercalate (order.filterMap (texts[·]?)) ++
      Text.sliceFrom d.text (d.nodeRange last).2

/-- Every comment that starts where the entries were is still in the fixed text, inside an
entry. -/
structure Rejoined (d : Document) (pattern : Node) (order : List Nat) (fixed : String) : Prop
    extends Reordered d pattern order fixed where
  comments_kept : ∀ first ∈ pattern.entries.head?, ∀ last ∈ pattern.entries.getLast?,
    ∀ c ∈ pattern.preorder, c.isComment = true → (d.nodeRange first).1 ≤ (d.nodeRange c).1 →
      (d.nodeRange c).1 < (d.nodeRange last).2 →
      ∃ e ∈ pattern.entries, e.start ≤ c.start ∧ c.stop ≤ e.stop ∧
        ∃ t, d.nodeText c = .ok t ∧ t.toList <:+: fixed.toList

variable {d : Document} {pattern : Node}

theorem CommentBetween.hasInnerComment (between : CommentBetween pattern)
    (wf : pattern.WellFormed d.chars) (grammar : pattern.Grammatical)
    (kind : pattern.kind = "object_pattern") :
    2 ≤ pattern.entries.length ∧ hasInnerComment pattern pattern.entries = true := by
  obtain ⟨c, hc, comment, ⟨a, ha, hac⟩, ⟨b, hb, hcb⟩, outside⟩ := between
  have width := grammar.named_nonempty c hc (grammar.comment_named c hc comment)
  have widthA := (wf.entry ha).fits.start_le_stop
  have widthB := (wf.entry hb).fits.start_le_stop
  have nonempty := List.ne_nil_of_mem ha
  have hfirst := List.head?_eq_some_head nonempty
  have hlast := List.getLast?_eq_some_getLast nonempty
  have withinA := wf.entries_within hfirst hlast ha
  have withinB := wf.entries_within hfirst hlast hb
  constructor
  · have ne : a ≠ b := by
      rintro rfl
      omega
    match h : pattern.entries with
    | [] => exact absurd h nonempty
    | [x] =>
      rw [h, List.mem_singleton] at ha hb
      exact absurd (ha.trans hb.symm) ne
    | _ :: _ :: _ => simp
  · rcases mem_entry_or_hasInnerComment wf grammar kind hfirst hlast hc comment
      (by omega) (by omega) with ⟨e, he, inEntry⟩ | inner
    · exact absurd inEntry (outside e he)
    · exact inner

theorem mem_entry_of_clean (wf : pattern.WellFormed d.chars) (grammar : pattern.Grammatical)
    (kind : pattern.kind = "object_pattern")
    (clean : hasInnerComment pattern pattern.entries = false) {first last c : Node}
    (hfirst : pattern.entries.head? = some first) (hlast : pattern.entries.getLast? = some last)
    (hc : c ∈ pattern.preorder) (comment : c.isComment = true)
    (low : (d.nodeRange first).1 ≤ (d.nodeRange c).1)
    (high : (d.nodeRange c).1 < (d.nodeRange last).2) : ∃ e ∈ pattern.entries, c ∈ e.preorder := by
  have start : first.start ≤ c.start := d.le_of_charOfByte_le
    (wf.entry (List.mem_of_head? hfirst)).fits.start_boundary (wf c hc).start_boundary low
  have stop : c.start < last.stop := d.lt_of_charOfByte_lt high
  rcases mem_entry_or_hasInnerComment wf grammar kind hfirst hlast hc comment start stop with
    inEntry | inner
  · exact inEntry
  · rw [clean] at inner
    cases inner

theorem reordered_of_covers (wf : pattern.WellFormed d.chars) {fields : List Field}
    (covers : List.Forall₂ d.Covers pattern.entries fields) (nonempty : pattern.entries ≠ [])
    {order : List Nat} (perm : order.Perm (List.range fields.length)) :
    Reordered d pattern order (Patch.rejoined d.text fields order ", ") := by
  have texts := Document.mapM_nodeText_of_covers covers fun e he => wf.entry he
  have hfirst := List.head?_eq_some_head nonempty
  have hlast := List.getLast?_eq_some_getLast nonempty
  refine ⟨covers.length_eq ▸ perm, _, _, _, hfirst, hlast, texts, ?_⟩
  rw [Patch.rejoined, Document.around_of_covers covers hfirst hlast, List.map_filterMap]
  simp only [List.getElem?_map]

/-- Joining the entries of a pattern without inner comments keeps all that must be kept. -/
theorem rejoined_of_clean (wf : pattern.WellFormed d.chars) (grammar : pattern.Grammatical)
    (kind : pattern.kind = "object_pattern") {fields : List Field}
    (covers : List.Forall₂ d.Covers pattern.entries fields) (two : 2 ≤ pattern.entries.length)
    (clean : hasInnerComment pattern pattern.entries = false) {order : List Nat}
    (perm : order.Perm (List.range fields.length)) :
    Rejoined d pattern order (Patch.rejoined d.text fields order ", ") := by
  refine ⟨reordered_of_covers wf covers (List.ne_nil_of_length_pos (by omega)) perm, ?_⟩
  intro first hfirst last hlast c hc comment low high
  obtain ⟨e, he, inEntry⟩ :=
    mem_entry_of_clean wf grammar kind clean hfirst hlast hc comment low high
  obtain ⟨low, high⟩ := (wf.entry he).nested inEntry
  obtain ⟨f, hf, cover⟩ := exists_rel_of_mem_left covers he
  have fits := wf c hc
  refine ⟨e, he, low, high, _,
    d.nodeText_eq_slice fits.start_boundary fits.stop_boundary fits.start_le_stop, ?_⟩
  refine (d.slice_nodeRange_infix low fits.start_le_stop high).trans ?_
  rw [← cover.1, ← cover.2]
  exact Patch.textIn_infix_rejoined perm ", " hf

end Parameters

namespace BoundRule

section
variable {r : BoundRule} (kind : r.kind = .componentProps) {d : Document} {s : Site}
  (node : s.node.WellFormed d.chars) (parent : ∀ p ∈ s.parent, p.WellFormed d.chars)
include kind node parent

theorem exists_joined {v : Violation} (visited : r.visit d s = .ok (some v))
    (nonempty : v.edits ≠ []) :
    ∃ pattern fields session stats, Parameters.pattern? s.node = some pattern ∧
      2 ≤ pattern.entries.length ∧ pattern.entries.mapM (Parameters.describe d) = .ok fields ∧
      List.Forall₂ d.Covers pattern.entries fields ∧
      Parameters.hasInnerComment pattern pattern.entries = false ∧
      EditSession.addFix { text := d.text } v.edits = .ok (true, session) ∧
      session.apply =
        .ok (Patch.rejoined d.text fields (r.policy.sortOrder fields) ", ", stats) := by
  have shape : r.kind.shape.extract d s = Parameters.extract d s := by rw [kind]; rfl
  have joined : r.engine.style = .joined := by rw [engine, kind]; rfl
  by_cases few : ∀ pattern, Parameters.pattern? s.node = some pattern →
      pattern.entries.length < 2
  · rw [visit_of_extract_none (shape.trans (Parameters.extract_eq_none few))] at visited
    cases visited
  · obtain ⟨pattern, found⟩ := Classical.not_forall.mp few
    obtain ⟨hp, many⟩ := Classical.not_imp.mp found
    have two : 2 ≤ pattern.entries.length := Nat.not_lt.mp many
    have wf := node.descendant (Parameters.pattern_mem_preorder hp).1
    obtain ⟨fields, component, covers, described, extracted⟩ :=
      Parameters.exists_extract node parent hp two
    obtain ⟨edits, message, inspected, -, rfl⟩ :=
      (visit_eq_ok_some (shape.trans extracted)).mp visited
    obtain ⟨-, analyzed⟩ :=
      (Engine.inspect_eq_ok (CollationState.faithful_initial _)).mp inspected
    have laidOut : LaidOut d.text fields :=
      Document.laidOut_of_covers covers (fun e he => wf.entry he) wf.entries_in_order
    obtain ⟨clean, session, stats, accepted, applied⟩ :=
      Engine.analysis_joined joined laidOut analyzed nonempty
    exact ⟨pattern, fields, session, stats, hp, two, described, covers, by simpa using clean,
      accepted, applied⟩

variable (grammar : s.node.Grammatical)
include grammar

theorem exists_rejoined {v : Violation} (visited : r.visit d s = .ok (some v))
    (nonempty : v.edits ≠ []) :
    ∃ pattern fields fixed session stats, Parameters.pattern? s.node = some pattern ∧
      pattern.entries.mapM (Parameters.describe d) = .ok fields ∧
      EditSession.addFix { text := d.text } v.edits = .ok (true, session) ∧
      session.apply = .ok (fixed, stats) ∧
      Parameters.Rejoined d pattern (r.policy.sortOrder fields) fixed := by
  obtain ⟨pattern, fields, session, stats, hp, two, described, covers, clean, accepted, applied⟩ :=
    exists_joined kind node parent visited nonempty
  obtain ⟨below, object⟩ := Parameters.pattern_mem_preorder hp
  exact ⟨pattern, fields, _, session, stats, hp, described, accepted, applied,
    Parameters.rejoined_of_clean (node.descendant below) (grammar.descendant below) object covers
      two clean (r.policy.sortOrder_perm fields)⟩

theorem exists_report_of_commentBetween {pattern : Node}
    (hp : Parameters.pattern? s.node = some pattern)
    (between : Parameters.CommentBetween pattern) :
    ∃ fields, pattern.entries.mapM (Parameters.describe d) = .ok fields ∧
      (r.policy.isOrdered fields = false →
        ∃ v, r.visit d s = .ok (some v) ∧ v.edits = []) := by
  have shape : r.kind.shape.extract d s = Parameters.extract d s := by rw [kind]; rfl
  obtain ⟨below, object⟩ := Parameters.pattern_mem_preorder hp
  obtain ⟨two, inner⟩ :=
    between.hasInnerComment (node.descendant below) (grammar.descendant below) object
  obtain ⟨fields, component, covers, described, extracted⟩ :=
    Parameters.exists_extract node parent hp two
  refine ⟨fields, described, fun unordered => ?_⟩
  have keys := r.not_lacksKey_of_kind_ne (by rw [kind]; decide) fields
  have unfixable : r.engine.inspect {} d.text fields (!true) = .ok (some []) :=
    (Engine.inspect_eq_ok (CollationState.faithful_initial _)).mpr
      ⟨keys, Engine.analysis_unfixable unordered⟩
  rw [← shape, inner] at extracted
  obtain ⟨message, given⟩ := r.kind.exists_message extracted
  exact ⟨_, (visit_eq_ok_some extracted).mpr ⟨[], message, unfixable, given, rfl⟩, rfl⟩

end

/-- A fix of destructured parameters joins the entries of the pattern in canonical order and loses
no comment; a pattern that is out of order but has a comment between its entries is reported without
a fix. -/
theorem visit_parameters (r : BoundRule) (kind : r.kind = .componentProps) (text : String)
    (root : Node) (wf : root.WellFormed text.toList) (grammar : root.Grammatical) (s : Site)
    (node : s.node ∈ root.preorder) (parent : ∀ p ∈ s.parent, p ∈ root.preorder) :
    let d : Document := { text, tree := some root }
    (∀ v, r.visit d s = .ok (some v) → v.edits ≠ [] →
      ∃ pattern fields fixed session stats, Parameters.pattern? s.node = some pattern ∧
        pattern.entries.mapM (Parameters.describe d) = .ok fields ∧
        EditSession.addFix { text } v.edits = .ok (true, session) ∧
        session.apply = .ok (fixed, stats) ∧
        Parameters.Rejoined d pattern (r.policy.sortOrder fields) fixed) ∧
    ∀ pattern, Parameters.pattern? s.node = some pattern → Parameters.CommentBetween pattern →
      ∃ fields, pattern.entries.mapM (Parameters.describe d) = .ok fields ∧
        (r.policy.isOrdered fields = false →
          ∃ v, r.visit d s = .ok (some v) ∧ v.edits = []) := by
  intro d
  have inTree : s.node.WellFormed d.chars := wf.descendant node
  have above (p : Node) (hp : p ∈ s.parent) : p.WellFormed d.chars := wf.descendant (parent p hp)
  have below : s.node.Grammatical := grammar.descendant node
  constructor
  · intro v visited nonempty
    exact exists_rejoined kind inTree above below visited nonempty
  · intro pattern hp between
    exact exists_report_of_commentBetween kind inTree above below hp between

theorem visit_parameters_comment :
    let node (kind : String) (field : Option String) (start stop : Nat) (children : List Node) :=
      Node.mk { kind, field, start, stop, named := true, hasError := false } children
    let name := "shorthand_property_identifier_pattern"
    let comment (start : Nat) := node "comment" none start (start + 7) []
    let arrow (size : Nat) (entries : List Node) := node "arrow_function" none 0 size
      [node "formal_parameters" (some "parameters") 0 (size - 5)
        [node "object_pattern" none 1 (size - 6) entries]]
    let r : BoundRule :=
      { kind := .componentProps, options := {}, tagOptions := none, policy := {} }
    let inside := arrow 27 [node name none 3 4 [], node "object_assignment_pattern" none 6 19
      [node name (some "left") 6 7 [], comment 10, node "number" (some "right") 18 19 []]]
    let between := arrow 23 [node name none 3 4 [], comment 6, node name none 14 15 []]
    (∃ v session stats,
      r.visit ⟨"({ b, a = /* x */ 1 }) => 1", some inside⟩ ⟨inside, none⟩ = .ok (some v) ∧
      EditSession.addFix { text := "({ b, a = /* x */ 1 }) => 1" } v.edits = .ok (true, session) ∧
      session.apply = .ok ("({ a = /* x */ 1, b }) => 1", stats)) ∧
    ∃ v, r.visit ⟨"({ b, /* x */ a }) => 1", some between⟩ ⟨between, none⟩ = .ok (some v) ∧
      v.edits = [] := by
  intro node name comment arrow r inside between
  constructor
  · have wf : inside.WellFormed "({ b, a = /* x */ 1 }) => 1".toList := by decide +kernel
    have grammar : inside.Grammatical := by decide +kernel
    let v : Violation := r.report ⟨"({ b, a = /* x */ 1 }) => 1", some inside⟩ inside
      "React component props should be sorted according to the defined order."
      [⟨⟨3, 19, by decide⟩, "a = /* x */ 1, b"⟩]
    have visited : r.visit ⟨"({ b, a = /* x */ 1 }) => 1", some inside⟩ ⟨inside, none⟩ =
        .ok (some v) := by decide +kernel
    obtain ⟨-, -, fixed, session, stats, -, -, accepted, applied, -⟩ :=
      (r.visit_parameters rfl _ inside wf grammar ⟨inside, none⟩ inside.mem_preorder_self
        (by simp)).1 v visited (List.cons_ne_nil _ _)
    have result :
        ((EditSession.addFix { text := "({ b, a = /* x */ 1 }) => 1" } v.edits).toOption.bind
          fun s => s.2.apply.toOption.map (·.1)) = some "({ a = /* x */ 1, b }) => 1" := by
      decide +kernel
    rw [accepted] at result
    change session.apply.toOption.map (·.1) = _ at result
    rw [applied] at result
    exact ⟨v, session, stats, visited, accepted, applied.trans (by rw [← Option.some.inj result])⟩
  · have wf : between.WellFormed "({ b, /* x */ a }) => 1".toList := by decide +kernel
    have grammar : between.Grammatical := by decide +kernel
    let pattern := node "object_pattern" none 1 17
      [node name none 3 4 [], comment 6, node name none 14 15 []]
    have entries : pattern.entries = [node name none 3 4 [], node name none 14 15 []] := rfl
    have found : Parameters.pattern? between = some pattern := rfl
    have apart : Parameters.CommentBetween pattern := by
      refine ⟨comment 6, .tail _ (.tail _ (.head _)), rfl, ⟨node name none 3 4 [], ?_, by decide⟩,
        ⟨node name none 14 15 [], ?_, by decide⟩, ?_⟩
      · simp [entries]
      · simp [entries]
      · simp [entries, Node.preorder, Node.preorders, node, comment]
    obtain ⟨fields, described, reported⟩ :=
      (r.visit_parameters rfl _ between wf grammar ⟨between, none⟩ between.mem_preorder_self
        (by simp)).2 pattern found apart
    have unordered : (pattern.entries.mapM (Parameters.describe
        ⟨"({ b, /* x */ a }) => 1", some between⟩)).toOption.map r.policy.isOrdered =
        some false := by decide +kernel
    rw [described] at unordered
    exact reported (Option.some.inj unordered)

end BoundRule

end FieldOrder
