import FieldOrder.Proofs.Lint.Passes
import FieldOrder.Proofs.Lint.Sorted
import FieldOrder.Proofs.Shape.Extraction
import FieldOrder.Proofs.Syntax.Line
import FieldOrder.Proofs.Syntax.Walk
import Mathlib.Data.List.ProdSigma
import Mathlib.Data.String.Basic

namespace FieldOrder

variable {rules : List BoundRule} {d : Document} {root : Node} {vs : List Violation}
  {v : Violation}

theorem mem_checks {s : Site} {r : BoundRule} :
    (s, r) ∈ checks rules root ↔ s ∈ root.sites none ∧ r ∈ rules ∧ r.shown s = true := by
  rw [checks, List.mem_filter, ← and_assoc]
  simp

theorem lintSite_eq (rules : List BoundRule) (d : Document) (s : Site) :
    lintSite rules d s =
      Except.map (List.filterMap id) ((rules.filter (·.shown s)).mapM (·.visit d s)) := by
  have shown : (fun r : BoundRule => r.shown s) =
      fun r => s.node.isNamed && !s.node.hasError && r.handles s.node := rfl
  rw [shown, lintSite]
  cases s.node.isNamed with
  | false => simp [pure, Except.pure, Except.map]
  | true =>
    cases s.node.hasError with
    | true => simp [pure, Except.pure, Except.map]
    | false =>
      simp only [Bool.not_true, Bool.or_self, Bool.false_eq_true, if_false, Bool.not_false,
        Bool.and_self, Bool.true_and]
      cases (rules.filter fun r => r.handles s.node).mapM fun r => r.visit d s <;> rfl

theorem checks_eq (rules : List BoundRule) (root : Node) :
    checks rules root =
      (root.sites none).flatMap fun s => (rules.filter (·.shown s)).map (Prod.mk s) := by
  have each (s : Site) : ((rules.map (Prod.mk s)).filter fun c => c.2.shown c.1) =
      (rules.filter (·.shown s)).map (Prod.mk s) := by
    rw [List.filter_map]
    rfl
  calc checks rules root
    _ = ((root.sites none).flatMap fun s => rules.map (Prod.mk s)).filter
          fun c => c.2.shown c.1 := rfl
    _ = _ := by simp only [List.filter_flatMap, each]

theorem lintDocument_eq (rules : List BoundRule) (tree : d.tree = some root) :
    lintDocument rules d = Except.map (fun results => Violation.sort (results.filterMap id))
      ((checks rules root).mapM fun c => c.2.visit d c.1) := by
  cases rules with
  | nil =>
    have none : checks [] root = [] := by simp [checks]
    simp [lintDocument, none, pure, Except.pure, Except.map, Violation.sort]
  | cons r rules =>
    have bySite : lintSite (r :: rules) d = fun s => Except.map (List.filterMap id)
        (((r :: rules).filter (·.shown s)).mapM (·.visit d s)) := funext (lintSite_eq _ d)
    have walked : lintDocument (r :: rules) d =
        Except.map (fun found => Violation.sort found.flatten)
          (root.walk.mapM (lintSite (r :: rules) d)) := by
      rw [lintDocument, Document.root, tree]
      change (root.walk.mapM (lintSite (r :: rules) d) >>= _) = _
      cases root.walk.mapM (lintSite (r :: rules) d) <;> rfl
    rw [walked, Node.walk_eq_sites, bySite, mapM_except_map, checks_eq, mapM_flatMap]
    simp only [List.mapM_map, Function.comp_def]
    cases (root.sites none).mapM fun s => ((r :: rules).filter (·.shown s)).mapM (·.visit d s) with
    | error e => rfl
    | ok results =>
      exact congrArg (fun vs => Except.ok (Violation.sort vs)) List.filterMap_flatten.symm

theorem lintDocument_eq_ok (tree : d.tree = some root) : lintDocument rules d = .ok vs ↔
    ∃ said, List.Forall₂ (fun c v => c.2.visit d c.1 = .ok v) (checks rules root) said ∧
      vs = Violation.sort (said.filterMap id) := by
  rw [lintDocument_eq rules tree]
  constructor
  · intro h
    cases made : (checks rules root).mapM fun c => c.2.visit d c.1 with
    | error e => simp [made, Except.map] at h
    | ok said =>
      rw [made] at h
      exact ⟨said, forall₂_of_mapM_eq_ok made, (Except.ok.inj h).symm⟩
  · rintro ⟨said, rels, rfl⟩
    rw [mapM_eq_ok_of_forall₂ rels]
    rfl

theorem exists_lintDocument_eq_ok (tree : d.tree = some root) :
    (∃ vs, lintDocument rules d = .ok vs) ↔
      ∀ c ∈ checks rules root, ∃ said, c.2.visit d c.1 = .ok said := by
  simp only [lintDocument_eq_ok tree]
  constructor
  · rintro ⟨vs, said, rels, -⟩ c hc
    obtain ⟨v, -, visited⟩ := exists_rel_of_mem_left rels hc
    exact ⟨v, visited⟩
  · intro each
    obtain ⟨said, -, rels⟩ := exists_mapM_eq_ok fun c hc => (each c hc).imp fun v h => ⟨h, h⟩
    exact ⟨_, said, rels, rfl⟩

theorem mem_lintDocument (tree : d.tree = some root) (h : lintDocument rules d = .ok vs) :
    v ∈ vs ↔ ∃ s ∈ root.sites none, ∃ r ∈ rules, r.shown s = true ∧
      r.visit d s = .ok (some v) := by
  obtain ⟨said, rels, rfl⟩ := (lintDocument_eq_ok tree).mp h
  rw [(Violation.sort_perm _).mem_iff, List.mem_filterMap]
  constructor
  · rintro ⟨_, mem, rfl⟩
    obtain ⟨⟨s, r⟩, check, visited⟩ := exists_rel_of_mem_right rels mem
    obtain ⟨hs, hr, shown⟩ := mem_checks.mp check
    exact ⟨s, hs, r, hr, shown, visited⟩
  · rintro ⟨s, hs, r, hr, shown, visited⟩
    obtain ⟨w, mem, visited'⟩ := exists_rel_of_mem_left rels (mem_checks.mpr ⟨hs, hr, shown⟩)
    rw [visited] at visited'
    cases visited'
    exact ⟨_, mem, rfl⟩

/-- A violation says where its node starts, and is placed there. -/
structure Violation.ReportsAt (v : Violation) (d : Document) (c : Site × BoundRule) : Prop where
  start_eq : v.start = (d.nodeRange c.1.node).1
  rule_eq : v.rule = c.2.name
  placed : (v.line, v.column) = d.lineColumn v.start

theorem reportsAt_of_visit {c : Site × BoundRule} (h : c.2.visit d c.1 = .ok (some v)) :
    v.ReportsAt d c := by
  obtain ⟨found, edits, message, extracted, -, rfl⟩ := BoundRule.exists_report_of_visit h
  refine ⟨?_, rfl, rfl⟩
  rw [← Shape.owner_of_extract extracted]
  rfl

theorem Violation.ReportsAt.compare_eq {v w : Violation} {c c' : Site × BoundRule}
    (hv : v.ReportsAt d c) (hw : w.ReportsAt d c') :
    v.compare w = (Ord.compare v.start w.start).then (Ord.compare v.rule w.rule) := by
  have zero_le {v : Violation} {c : Site × BoundRule} (h : v.ReportsAt d c) : 0 ≤ v.start := by
    rw [h.start_eq]
    exact Int.natCast_nonneg _
  have lineColumn := d.compare_lineColumn (zero_le hv) (zero_le hw)
  rw [← hv.placed, ← hw.placed] at lineColumn
  rw [Violation.compare, ← lineColumn, Ordering.then_assoc]

/-- Linting succeeds if each check does, and then lists what the checks say: by position in the
text, then by rule, and else in the order of the checks. -/
theorem lintDocument_complete (rules : List BoundRule) (d : Document) (root : Node)
    (tree : d.tree = some root) :
    (root.sites none).map (·.node) = root.preorder ∧
      ((∃ vs, lintDocument rules d = .ok vs) ↔
        ∀ c ∈ checks rules root, ∃ said, c.2.visit d c.1 = .ok said) ∧
      ∀ vs, lintDocument rules d = .ok vs → ∃ said : List (Option Violation),
        List.Forall₂ (fun c v => c.2.visit d c.1 = .ok v ∧
          ∀ w ∈ v, w.start = ((d.nodeRange c.1.node).1 : Int) ∧ w.rule = c.2.name)
          (checks rules root) said ∧
        vs.Perm (said.filterMap id) ∧
        (vs.Pairwise fun v w => v.start < w.start ∨ v.start = w.start ∧ v.rule ≤ w.rule) ∧
        (∀ v ∈ vs, ∀ w ∈ vs,
          v.compare w = (compare v.start w.start).then (compare v.rule w.rule)) ∧
        ∀ (start : Int) (rule : String),
          (vs.filter fun v => v.start = start ∧ v.rule = rule) =
            (said.filterMap id).filter fun v => v.start = start ∧ v.rule = rule := by
  refine ⟨Node.map_node_sites none root, exists_lintDocument_eq_ok tree, ?_⟩
  intro vs h
  obtain ⟨said, rels, rfl⟩ := (lintDocument_eq_ok tree).mp h
  have perm := Violation.sort_perm (said.filterMap id)
  have reported {v : Violation} (hv : v ∈ said.filterMap id) : ∃ c, v.ReportsAt d c := by
    obtain ⟨_, mem, rfl⟩ := List.mem_filterMap.mp hv
    obtain ⟨c, -, visited⟩ := exists_rel_of_mem_right rels mem
    exact ⟨c, reportsAt_of_visit visited⟩
  -- Line and column tell positions apart only for violations of one document.
  have compare_eq {v w : Violation} (hv : v ∈ said.filterMap id) (hw : w ∈ said.filterMap id) :
      v.compare w = (compare v.start w.start).then (compare v.rule w.rule) := by
    obtain ⟨c, hv⟩ := reported hv
    obtain ⟨c', hw⟩ := reported hw
    exact hv.compare_eq hw
  have places (c : Site × BoundRule) (v : Option Violation) (visited : c.2.visit d c.1 = .ok v) :
      ∀ w ∈ v, w.start = ((d.nodeRange c.1.node).1 : Int) ∧ w.rule = c.2.name := by
    rintro w rfl
    have reports := reportsAt_of_visit visited
    exact ⟨reports.start_eq, reports.rule_eq⟩
  refine ⟨said, rels.imp fun c v visited => ⟨visited, places c v visited⟩, perm, ?_, ?_, ?_⟩
  · refine (Violation.sort_pairwise _).imp_of_mem fun {v w} hv hw le => ?_
    rw [compare_eq (perm.subset hv) (perm.subset hw)] at le
    rcases Ordering.isLE_then_iff_or.mp (Ordering.ne_gt_iff_isLE.mp le) with before | ⟨same, le⟩
    · exact .inl (Int.compare_eq_lt.mp before)
    · exact .inr ⟨Int.compare_eq_eq.mp same, compare_le_iff_le.mp (Ordering.ne_gt_iff_isLE.mpr le)⟩
  · exact fun v hv w hw => compare_eq (perm.subset hv) (perm.subset hw)
  · intro start rule
    refine Violation.filter_sort fun v hv w hw atV atW => ?_
    obtain ⟨rfl, rfl⟩ := of_decide_eq_true atV
    obtain ⟨start, rule⟩ := of_decide_eq_true atW
    rw [compare_eq hv hw, start, rule, Std.compare_self, Std.compare_self]
    nofun

theorem lintDocument_complete_nested :
    ∃ vs said, lintText [.forAttributes none] parseNested nestedTags = .ok vs ∧ vs.length = 2 ∧
      List.Forall₂ (fun c v => c.2.visit ⟨nestedTags, some nestedTree⟩ c.1 = .ok v)
        (checks [.forAttributes none] nestedTree) said ∧
      vs.Perm (said.filterMap id) ∧
      vs.Pairwise fun v w => v.start < w.start ∨ v.start = w.start ∧ v.rule ≤ w.rule := by
  obtain ⟨-, -, sound⟩ := lintDocument_complete [.forAttributes none]
    ⟨nestedTags, some nestedTree⟩ nestedTree rfl
  obtain ⟨said, rels, perm, sorted, -⟩ := sound _ lintText_nested
  exact ⟨_, said, lintText_nested, rfl, rels.imp fun _ _ h => h.1, perm, sorted⟩

end FieldOrder
