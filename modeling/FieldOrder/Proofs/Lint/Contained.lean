import FieldOrder.Proofs.Lint.Accepted
import FieldOrder.Proofs.Lint.Findings
import FieldOrder.Proofs.Lint.Sample
import FieldOrder.Proofs.Patch.Offered
import FieldOrder.Proofs.Shape.Extraction
import FieldOrder.Proofs.Syntax.Walk
import FieldOrder.Report.Basic

namespace FieldOrder

namespace BoundRule
variable {r : BoundRule} {d : Document} {s : Site}

section
variable (node : s.node.WellFormed d.chars) (parent : ∀ p ∈ s.parent, p.WellFormed d.chars)
include node parent

theorem exists_lacksKey_of_visit {e : LintError} (h : r.visit d s = .error e) :
    e = .collation .holdsNul ∧
      ∃ found, r.kind.shape.extract d s = .ok (some found) ∧ r.policy.LacksKey found.fields := by
  obtain ⟨result, extracted, lies⟩ := r.kind.shape.exists_extract node parent
  rcases visit_error_cases h with ⟨cause, failed⟩ | ⟨found, readable, failed⟩
  · rw [extracted] at failed
    cases failed
  · rw [readable] at extracted
    cases extracted
    obtain ⟨inNode, -⟩ := lies found rfl
    rcases failed with ⟨lacks, rfl⟩ | ⟨cause, failed⟩
    · exact ⟨rfl, found, readable, lacks⟩
    · obtain ⟨result, analyzed, -⟩ := r.engine.exists_analysis inNode.laidOut found.fixable
      rw [analyzed] at failed
      cases failed

theorem visit_eq_error {e : LintError} (h : r.visit d s = .error e) :
    e = .collation .holdsNul ∧ r.UsesLocale ∧ '\x00' ∈ d.text.toList := by
  obtain ⟨rfl, found, readable, lacks⟩ := exists_lacksKey_of_visit node parent h
  obtain ⟨result, extracted, lies⟩ := r.kind.shape.exists_extract node parent
  rw [readable] at extracted
  cases extracted
  have uses := usesLocale_of_lacksKey lacks
  obtain ⟨-, -, f, hf, name, hname, nul⟩ := lacks
  exact ⟨rfl, uses, ((lies found rfl).2 uses.shape_eq f hf name hname).subset nul⟩

/-- A violation reports a field list that lies in the visited node. -/
theorem exists_liesIn_of_visit {v : Violation} (h : r.visit d s = .ok (some v)) :
    ∃ found edits message, r.kind.shape.extract d s = .ok (some found) ∧
      found.LiesIn d s.node ∧
      r.engine.analysis d.text found.fields found.fixable = .ok (some edits) ∧
      v = r.report d found.owner message edits := by
  obtain ⟨found, edits, message, extracted, analyzed, rfl⟩ := exists_report_of_visit h
  obtain ⟨result, extracted', lies⟩ := r.kind.shape.exists_extract node parent
  rw [extracted'] at extracted
  cases extracted
  exact ⟨found, edits, message, extracted', (lies found rfl).1, analyzed, rfl⟩

end

end BoundRule

/-- The violation reports the node, and its edits lie in the node one behind another. -/
structure Violation.LiesIn (d : Document) (n : Node) (v : Violation) : Prop where
  start_eq : v.start = (d.nodeRange n).1
  stop_eq : v.stop = (d.nodeRange n).2
  place_eq : (v.line, v.column) = d.lineColumn v.start
  endPlace_eq : (v.endLine, v.endColumn) = d.lineColumn v.stop
  in_order : v.edits.Pairwise Edit.Before
  within : ∀ e ∈ v.edits, v.start ≤ e.range.start ∧ e.range.stop ≤ v.stop

theorem BoundRule.liesIn_report {r : BoundRule} {d : Document} {n : Node} {found : FieldList}
    {edits : List Edit} (lies : found.LiesIn d n)
    (analyzed : r.engine.analysis d.text found.fields found.fixable = .ok (some edits))
    (message : String) : (r.report d found.owner message edits).LiesIn d n := by
  obtain ⟨result, analyzed', offered⟩ := r.engine.exists_analysis lies.laidOut found.fixable
  rw [analyzed'] at analyzed
  cases analyzed
  obtain ⟨inOrder, spans⟩ := offered edits rfl
  have owner := lies.owner_eq
  subst owner
  refine ⟨rfl, rfl, rfl, rfl, inOrder, fun e he => ?_⟩
  obtain ⟨⟨f, hf, start⟩, g, hg, stop⟩ := spans e he
  rw [start, stop]
  exact ⟨(lies.within f hf).1, (lies.within g hg).2⟩

theorem BoundRule.liesIn_of_visit {r : BoundRule} {d : Document} {s : Site} {v : Violation}
    (node : s.node.WellFormed d.chars) (parent : ∀ p ∈ s.parent, p.WellFormed d.chars)
    (h : r.visit d s = .ok (some v)) : v.LiesIn d s.node := by
  obtain ⟨found, edits, message, -, lies, analyzed, rfl⟩ := exists_liesIn_of_visit node parent h
  exact r.liesIn_report lies analyzed message

namespace Violation.LiesIn
variable {d : Document} {n : Node} {v : Violation} (h : v.LiesIn d n)
include h

theorem start_nonneg : 0 ≤ v.start := by
  rw [h.start_eq]
  exact Int.natCast_nonneg _

theorem stop_le_length : v.stop ≤ d.text.length := by
  rw [h.stop_eq]
  exact Int.ofNat_le.mpr (d.charOfByte_le_length _)

theorem in_text : ∀ e ∈ v.edits, 0 ≤ e.range.start ∧ e.range.stop ≤ d.text.length := by
  intro e he
  obtain ⟨start, stop⟩ := h.within e he
  exact ⟨Int.le_trans h.start_nonneg start, Int.le_trans stop h.stop_le_length⟩

theorem exists_merge (nonempty : v.edits ≠ []) :
    ∃ merged, Edit.merge d.text v.edits = .ok merged ∧
      v.start ≤ merged.range.start ∧ merged.range.stop ≤ v.stop := by
  obtain ⟨merged, eq, start, stop, -⟩ :=
    Edit.merge_eq_ok d.text nonempty h.in_order fun e he => (h.in_text e he).1
  refine ⟨merged, eq, ?_, ?_⟩
  · rw [start]
    exact (h.within _ (List.head_mem nonempty)).1
  · rw [stop]
    exact (h.within _ (List.getLast_mem nonempty)).2

theorem exists_reported (severity : v.severity ≠ .off) :
    ∃ reported, ReportedViolation.ofViolation d.text v = .ok reported := by
  have stop : 0 ≤ v.stop := by
    rw [h.stop_eq]
    exact Int.natCast_nonneg _
  obtain ⟨line, column⟩ := d.one_le_lineColumn h.start_nonneg
  obtain ⟨endLine, endColumn⟩ := d.one_le_lineColumn stop
  rw [← h.place_eq] at line column
  rw [← h.endPlace_eq] at endLine endColumn
  have placed : ¬((((v.severity = .off ∨ v.line < 1) ∨ v.column < 1) ∨ v.endLine < 1) ∨
      v.endColumn < 1) := by
    simp only [severity, false_or, not_or, Int.not_lt]
    exact ⟨⟨⟨line, column⟩, endLine⟩, endColumn⟩
  cases hv : v.edits with
  | nil => simp [ReportedViolation.ofViolation, hv, placed, pure_eq_ok]
  | cons e edits =>
    obtain ⟨merged, eq, -⟩ := h.exists_merge (by rw [hv]; exact List.cons_ne_nil _ _)
    rw [hv] at eq
    simp [ReportedViolation.ofViolation, hv, eq, placed, Except.mapError]

end Violation.LiesIn

/-- Fixes of violations that lie in nodes can be accepted and carried out. -/
theorem exists_apply_of_liesIn {d : Document} {fixable : List Violation}
    (lies : ∀ v ∈ fixable, v.edits ≠ [] ∧ ∃ n, v.LiesIn d n) :
    ∃ accepted session result, acceptFixes { text := d.text } fixable = .ok (accepted, session) ∧
      session.apply = .ok result := by
  have mergeable (v : Violation) (hv : v ∈ fixable) : ∃ merged,
      Edit.merge d.text v.edits = .ok merged ∧
        0 ≤ merged.range.start ∧ merged.range.stop ≤ d.text.length := by
    obtain ⟨nonempty, n, inNode⟩ := lies v hv
    obtain ⟨merged, eq, start, stop⟩ := inNode.exists_merge nonempty
    exact ⟨merged, eq, Int.le_trans inNode.start_nonneg start,
      Int.le_trans stop inNode.stop_le_length⟩
  obtain ⟨accepted, session, added, text, -, inText⟩ := exists_acceptFixes mergeable
  exact ⟨accepted, session, _, added, EditSession.apply_eq_ok (text ▸ inText)⟩

section
variable {rules : List BoundRule} {d : Document} {root : Node} (tree : d.tree = some root)
  (wf : root.WellFormed d.chars)
include tree wf

theorem lintDocument_eq_error {e : LintError} (h : lintDocument rules d = .error e) :
    e = .collation .holdsNul ∧ '\x00' ∈ d.text.toList ∧ ∃ r ∈ rules, r.UsesLocale := by
  obtain ⟨s, hs, -, r, hr, failed⟩ := exists_visit_of_lintDocument_error tree h
  obtain ⟨node, parent⟩ := Node.mem_preorder_of_mem_walk hs
  obtain ⟨rfl, uses, nul⟩ := r.visit_eq_error (wf.descendant node)
    (fun p hp => wf.descendant (parent p hp)) failed
  exact ⟨rfl, nul, r, hr, uses⟩

/-- A violation reports a field list that lies in a node of the tree. -/
theorem exists_report_of_mem_lintDocument {vs : List Violation} {v : Violation}
    (h : lintDocument rules d = .ok vs) (hv : v ∈ vs) :
    ∃ n ∈ root.preorder, ∃ r ∈ rules, ∃ found edits message, FieldList.LiesIn d n found ∧
      r.engine.analysis d.text found.fields found.fixable = .ok (some edits) ∧
      v = r.report d found.owner message edits := by
  obtain ⟨root', tree', s, hs, r, hr, visited⟩ := exists_visit_of_mem_lintDocument h hv
  rw [tree] at tree'
  cases tree'
  obtain ⟨node, parent⟩ := Node.mem_preorder_of_mem_walk hs
  obtain ⟨found, edits, message, -, reported⟩ := BoundRule.exists_liesIn_of_visit
    (wf.descendant node) (fun p hp => wf.descendant (parent p hp)) visited
  exact ⟨s.node, node, r, hr, found, edits, message, reported⟩

theorem liesIn_of_mem_lintDocument {vs : List Violation} {v : Violation}
    (h : lintDocument rules d = .ok vs) (hv : v ∈ vs) :
    ∃ n ∈ root.preorder, v.LiesIn d n ∧ ∃ r ∈ rules, v.severity = r.severity := by
  obtain ⟨n, hn, r, hr, found, edits, message, lies, analyzed, rfl⟩ :=
    exists_report_of_mem_lintDocument tree wf h hv
  exact ⟨n, hn, r.liesIn_report lies analyzed message, r, hr, rfl⟩

end

/-- The violations of a text lie in nodes of its tree, and can be fixed and reported. That no edit
ends before it starts is part of what a range is. -/
structure Contained (text : String) (root : Node) (vs : List Violation) : Prop where
  inNode : ∀ v ∈ vs, ∃ n ∈ root.preorder, v.LiesIn ⟨text, some root⟩ n
  merges : ∀ v ∈ vs, v.edits ≠ [] → ∃ merged, Edit.merge text v.edits = .ok merged ∧
    v.start ≤ merged.range.start ∧ merged.range.stop ≤ v.stop
  applies : ∀ chosen : List Violation, (∀ v ∈ chosen, v ∈ vs ∧ v.edits ≠ []) →
    ∃ accepted session result, acceptFixes { text } chosen = .ok (accepted, session) ∧
      session.apply = .ok result
  reports : ∀ path : String, ∀ count : Int, 0 ≤ count →
    ∃ report, FileReport.ofViolations path vs text count = .ok report

theorem contained_of_lintDocument {text : String} {root : Node} {rules : List BoundRule}
    {vs : List Violation} (wf : root.WellFormed text.toList)
    (reportable : ∀ r ∈ rules, r.severity ≠ .off)
    (h : lintDocument rules ⟨text, some root⟩ = .ok vs) : Contained text root vs := by
  let d : Document := ⟨text, some root⟩
  have found (v : Violation) (hv : v ∈ vs) := liesIn_of_mem_lintDocument (d := d) rfl wf h hv
  refine ⟨fun v hv => ?_, fun v hv nonempty => ?_, fun chosen mem => ?_, fun path count hc => ?_⟩
  · obtain ⟨n, below, inNode, -⟩ := found v hv
    exact ⟨n, below, inNode⟩
  · obtain ⟨n, -, inNode, -⟩ := found v hv
    exact inNode.exists_merge nonempty
  · refine exists_apply_of_liesIn (d := d) fun v hv => ?_
    obtain ⟨n, -, inNode, -⟩ := found v (mem v hv).1
    exact ⟨(mem v hv).2, n, inNode⟩
  · have each (v : Violation) (hv : v ∈ vs) :
        ∃ reported, ReportedViolation.ofViolation text v = .ok reported ∧ True := by
      obtain ⟨n, -, inNode, r, hr, severity⟩ := found v hv
      obtain ⟨reported, eq⟩ := inNode.exists_reported (severity ▸ reportable r hr)
      exact ⟨reported, eq, trivial⟩
    obtain ⟨reported, eq, -⟩ := exists_mapM_eq_ok each
    simp [FileReport.ofViolations, eq, Int.not_lt.mpr hc]

/-- Linting gives violations that keep to their nodes, or meets a name with a NUL that it should
collate under a locale. -/
theorem lintDocument_contained (text : String) (root : Node) (rules : List BoundRule)
    (wf : root.WellFormed text.toList) (reportable : ∀ r ∈ rules, r.severity ≠ .off) :
    (∃ vs, lintDocument rules ⟨text, some root⟩ = .ok vs ∧ Contained text root vs) ∨
      (lintDocument rules ⟨text, some root⟩ = .error (.collation .holdsNul) ∧
        '\x00' ∈ text.toList ∧ ∃ r ∈ rules, r.UsesLocale) := by
  cases h : lintDocument rules ⟨text, some root⟩ with
  | ok vs => exact .inl ⟨vs, rfl, contained_of_lintDocument wf reportable h⟩
  | error e =>
    obtain ⟨rfl, nul, uses⟩ := lintDocument_eq_error (d := ⟨text, some root⟩) rfl wf h
    exact .inr ⟨rfl, nul, uses⟩

theorem lintDocument_contained_swapped :
    ∃ vs, lintDocument [.forAttributes (some { name := "C" })]
        ⟨"<A c b/>", some (.tag 0 8 [.attr 3 4 4 [], .attr 5 6 6 []])⟩ = .ok vs ∧
      vs.map (·.edits) = [[⟨⟨3, 4, by decide⟩, "b"⟩, ⟨⟨5, 6, by decide⟩, "c"⟩]] ∧
      Contained "<A c b/>" (.tag 0 8 [.attr 3 4 4 [], .attr 5 6 6 []]) vs := by
  let root : Node := .tag 0 8 [.attr 3 4 4 [], .attr 5 6 6 []]
  have found : (lintDocument [.forAttributes (some { name := "C" })]
      ⟨"<A c b/>", some root⟩).toOption.map (·.map (·.edits)) =
        some [[⟨⟨3, 4, by decide⟩, "b"⟩, ⟨⟨5, 6, by decide⟩, "c"⟩]] := by
    decide +kernel
  rcases lintDocument_contained "<A c b/>" root [.forAttributes (some { name := "C" })]
    (by decide +kernel) (by decide) with ⟨vs, eq, contained⟩ | ⟨-, nul, -⟩
  · rw [eq] at found
    exact ⟨vs, eq, Option.some.inj found, contained⟩
  · exact absurd nul (by decide)

/-- A well-formed tree in which linting fails: a locale has no place for the name `b\x00`. -/
theorem lintDocument_nul_fails :
    let root : Node := .tag 0 9 [.attr 3 5 5 [], .attr 6 7 7 []]
    root.WellFormed "<A b\x00 c/>".toList ∧
      (RuleKind.jsxProps.bind Locale.posix (.map [(.str "locale", .str "C")])).toOption.map
          (fun r => (r.severity, lintDocument [r] ⟨"<A b\x00 c/>", some root⟩)) =
        some (.warn, .error (.collation .holdsNul)) := by
  decide +kernel

end FieldOrder
