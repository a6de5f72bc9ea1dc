import FieldOrder.Proofs.Lint.Complete
import FieldOrder.Proofs.Lint.Defaults
import FieldOrder.Proofs.Order.TieClasses

namespace FieldOrder

variable {rules rules' : List BoundRule} {d : Document} {root : Node} {vs : List Violation}

namespace Violation

theorem rule_eq_of_tied {v w : Violation} (tied : v.compare w = .eq) : v.rule = w.rule := by
  simp only [Violation.compare, Ordering.then_eq_eq] at tied
  exact Std.LawfulEqOrd.compare_eq_iff_eq.mp tied.2.2

theorem tieClass_sort (a : Violation) (vs : List Violation) :
    tieClass compare a (sort vs) = tieClass compare a vs := by
  refine filter_sort fun v _ w _ tiedV tiedW => ?_
  have tied : v.compare w = .eq := Std.TransCmp.eq_trans
    (Std.OrientedCmp.eq_comm.mp (of_decide_eq_true tiedV)) (of_decide_eq_true tiedW)
  simp [tied]

end Violation

/-- What a check finds, if anything. -/
def found? (d : Document) (c : Site × BoundRule) : Option Violation :=
  (c.2.visit d c.1).toOption.join

theorem rule_of_found? {c : Site × BoundRule} {v : Violation} (h : found? d c = some v) :
    v.rule = c.2.name := by
  cases visited : c.2.visit d c.1 with
  | error e => simp [found?, visited, Except.toOption] at h
  | ok said =>
    obtain rfl : said = some v := by simpa [found?, visited, Except.toOption] using h
    exact (reportsAt_of_visit visited).rule_eq

theorem lintDocument_eq_ok_iff_found (tree : d.tree = some root) : lintDocument rules d = .ok vs ↔
    (∀ c ∈ checks rules root, ∃ said, c.2.visit d c.1 = .ok said) ∧
      vs = Violation.sort ((checks rules root).filterMap (found? d)) := by
  have found {said : List (Option Violation)}
      (rels : List.Forall₂ (fun c v => c.2.visit d c.1 = .ok v) (checks rules root) said) :
      said.filterMap id = (checks rules root).filterMap (found? d) := by
    generalize checks rules root = cs at rels ⊢
    induction rels with
    | nil => rfl
    | @cons c v cs said visited _ ih =>
      have first : found? d c = id v := by simp [found?, visited, Except.toOption]
      rw [List.filterMap_cons, List.filterMap_cons, first, ih]
  rw [← exists_lintDocument_eq_ok tree]
  constructor
  · intro h
    obtain ⟨said, rels, rfl⟩ := (lintDocument_eq_ok tree).mp h
    exact ⟨⟨_, h⟩, congrArg Violation.sort (found rels)⟩
  · rintro ⟨⟨ws, h⟩, rfl⟩
    obtain ⟨said, rels, rfl⟩ := (lintDocument_eq_ok tree).mp h
    rw [h, found rels]

theorem filter_checks (rules : List BoundRule) (root : Node) (q : BoundRule → Bool) :
    (checks rules root).filter (fun c => q c.2) = checks (rules.filter q) root := by
  have each (s : Site) : (((rules.filter (·.shown s)).map (Prod.mk s)).filter fun c => q c.2) =
      ((rules.filter q).filter (·.shown s)).map (Prod.mk s) := by
    rw [List.filter_map, List.filter_filter, List.filter_filter]
    refine congrArg (List.map (Prod.mk s)) (List.filter_congr fun r _ => ?_)
    exact Bool.and_comm _ _
  rw [checks_eq, checks_eq, List.filter_flatMap]
  exact congrArg (List.flatMap · (root.sites none)) (funext each)

theorem filter_name_eq (perm : rules.Perm rules') (names : (rules.map (·.name)).Nodup)
    (name : String) : rules.filter (·.name = name) = rules'.filter (·.name = name) := by
  have differ : rules.Pairwise fun r r' => r.name ≠ r'.name := List.pairwise_map.mp names
  have differ' : rules'.Pairwise fun r r' => r.name ≠ r'.name :=
    perm.pairwise differ Ne.symm
  refine List.Perm.eq_of_pairwise ?_ (differ.filter _) (differ'.filter _) (perm.filter _)
  intro r r' hr hr' ne
  have same := of_decide_eq_true (List.mem_filter.mp hr).2
  have same' := of_decide_eq_true (List.mem_filter.mp hr').2
  exact absurd (same.trans same'.symm) ne

/-- What ties with a violation is found by the rule of its name. -/
theorem tieClass_found (rules : List BoundRule) (a : Violation) :
    tieClass Violation.compare a ((checks rules root).filterMap (found? d)) =
      tieClass Violation.compare a
        ((checks (rules.filter (·.name = a.rule)) root).filterMap (found? d)) := by
  rw [← filter_checks, tieClass, tieClass, List.filterMap_filter, List.filter_filterMap,
    List.filter_filterMap]
  refine List.filterMap_congr fun c _ => ?_
  by_cases own : c.2.name = a.rule
  · simp [own]
  · cases hv : found? d c with
    | none => simp
    | some v =>
      have other : a.compare v ≠ .eq := by
        intro tied
        exact own ((rule_of_found? hv).symm.trans (Violation.rule_eq_of_tied tied).symm)
      simp [own, other]

theorem sort_found_of_perm (perm : rules.Perm rules') (names : (rules.map (·.name)).Nodup) :
    Violation.sort ((checks rules root).filterMap (found? d)) =
      Violation.sort ((checks rules' root).filterMap (found? d)) := by
  have classes (a : Violation) :
      tieClass Violation.compare a (Violation.sort ((checks rules root).filterMap (found? d))) =
        tieClass Violation.compare a
          (Violation.sort ((checks rules' root).filterMap (found? d))) := by
    rw [Violation.tieClass_sort, Violation.tieClass_sort, tieClass_found rules,
      tieClass_found rules', filter_name_eq perm names]
  have equal := forall₂_of_tieClass (Violation.sort_pairwise _) (Violation.sort_pairwise _)
    fun a => List.forall₂_eq_eq_eq ▸ classes a
  exact List.forall₂_eq_eq_eq ▸ equal.imp fun _ _ h => h.2

/-- Rules of different names find the same violations in whatever order they are given. -/
theorem lintDocument_of_perm (perm : rules.Perm rules') (names : (rules.map (·.name)).Nodup)
    (h : lintDocument rules d = .ok vs) : lintDocument rules' d = .ok vs := by
  cases tree : d.tree with
  | none =>
    have unparsed (rules : List BoundRule) : lintDocument rules d =
        if rules.isEmpty then .ok [] else .error (.document .notParsed) := by
      rw [lintDocument, Document.root, tree]
      split <;> rfl
    rw [unparsed, ← perm.isEmpty_eq, ← unparsed]
    exact h
  | some root =>
    obtain ⟨succeed, rfl⟩ := (lintDocument_eq_ok_iff_found tree).mp h
    refine (lintDocument_eq_ok_iff_found tree).mpr ⟨?_, ?_⟩
    · intro c hc
      obtain ⟨s, r⟩ := c
      obtain ⟨hs, hr, shown⟩ := mem_checks.mp hc
      exact succeed (s, r) (mem_checks.mpr ⟨hs, perm.mem_iff.mpr hr, shown⟩)
    · exact sort_found_of_perm perm names

/-- Fixing depends on the rules by what linting says only. -/
theorem fixPasses_of_lintText {parse : Parse} {allowed : Nat} {r r' : FixResult}
    (same : ∀ text vs, lintText rules parse text = .ok vs → lintText rules' parse text = .ok vs)
    (h : fixPasses rules parse allowed r = .ok r') : fixPasses rules' parse allowed r = .ok r' := by
  induction allowed generalizing r with
  | zero =>
    obtain ⟨vs, lint, ⟨done, rfl⟩ | ⟨_, _, _, ⟨⟩, -⟩⟩ := fixPasses_cases h
    exact fixPasses_of_done (same _ _ lint) done
  | succ allowed ih =>
    obtain ⟨vs, lint, ⟨done, rfl⟩ | ⟨_, text, accepted, ⟨⟩, nonempty, pass, next⟩⟩ :=
      fixPasses_cases h
    · exact fixPasses_of_done (same _ _ lint) done
    · rcases next with ⟨rfl, rfl⟩ | ⟨change, later⟩
      · exact fixPasses_of_unchanged (same _ _ lint) nonempty pass
      · rw [fixPasses_of_change (same _ _ lint) nonempty pass change]
        exact ih later

/-- Rules of different names lint a text to the same violations, and fix it to the same result, in
whatever order they are given. -/
theorem fixText_rules_perm (rules rules' : List BoundRule) (parse : Parse) (text : String)
    (perm : rules.Perm rules') (names : (rules.map (·.name)).Nodup) :
    (∀ vs, lintText rules parse text = .ok vs ↔ lintText rules' parse text = .ok vs) ∧
      ∀ r, fixText rules parse text = .ok r ↔ fixText rules' parse text = .ok r := by
  have names' : (rules'.map (·.name)).Nodup := (perm.map _).nodup_iff.mp names
  have there (text : String) (vs : List Violation) (h : lintText rules parse text = .ok vs) :
      lintText rules' parse text = .ok vs := lintDocument_of_perm perm names h
  have back (text : String) (vs : List Violation) (h : lintText rules' parse text = .ok vs) :
      lintText rules parse text = .ok vs := lintDocument_of_perm perm.symm names' h
  exact ⟨fun vs => ⟨there text vs, back text vs⟩,
    fun r => ⟨fixPasses_of_lintText there, fixPasses_of_lintText back⟩⟩

/-- A function with a tag in a default value, the parameters and the attributes out of order. -/
def tagInDefault : String := "({ b = <A d c/>, a }) => 1"

def parseTagInDefault : Parse := fun text =>
  let name := "shorthand_property_identifier_pattern"
  let defaulted (start : Nat) : Node := .clean "object_assignment_pattern" start (start + 12)
    [.cleanIn "left" name start (start + 1) [],
      .cleanIn "right" "jsx_self_closing_element" (start + 4) (start + 12)
        [.attr (start + 7) (start + 8) (start + 8) [],
          .attr (start + 9) (start + 10) (start + 10) []]]
  if text = tagInDefault then some (.arrow 21 [defaulted 3, .clean name 17 18 []])
  else some (.arrow 21 [.clean name 3 4 [], defaulted 6])

def parametersViolation : Violation where
  rule := "sort-component-props"
  severity := .warn
  message := "React component props should be sorted according to the defined order."
  start := 0
  stop := 21
  line := 1
  column := 1
  endLine := 1
  endColumn := 22
  edits := [⟨⟨3, 18, by decide⟩, "a, b = <A d c/>"⟩]

theorem lintText_tagInDefault :
    lintText [.forParameters, .forAttributes none] parseTagInDefault tagInDefault =
      .ok [parametersViolation, innerViolation 7] := by
  have found : ∃ root, parseTagInDefault tagInDefault = some root ∧
      root.walk.mapM (lintSite [.forParameters, .forAttributes none] ⟨tagInDefault, some root⟩) =
        .ok [[parametersViolation], [], [], [], [], [innerViolation 7], [], [], [], [], []] := by
    refine ⟨_, rfl, ?_⟩
    decide +kernel
  have sorted : Violation.sort [parametersViolation, innerViolation 7] =
      [parametersViolation, innerViolation 7] := List.mergeSort_of_pairwise (by decide +kernel)
  obtain ⟨root, tree, found⟩ := found
  rw [lintText, tree]
  exact (lintDocument_of_found rfl (List.cons_ne_nil _ _) found).trans (congrArg _ sorted)

theorem fixText_tagInDefault :
    fixText [.forParameters, .forAttributes none] parseTagInDefault tagInDefault =
      .ok { text := "({ a, b = <A c d/> }) => 1", fixedCount := 2, passes := 2 } := by
  let rules : List BoundRule := [.forParameters, .forAttributes none]
  have first : fixPass tagInDefault [parametersViolation, innerViolation 7] =
      .ok ("({ a, b = <A d c/> }) => 1", 1) := by
    simp only [fixPass, acceptFixes, EditSession.addFix, merge_innerViolation]
    decide +kernel
  have found : lintText rules parseTagInDefault "({ a, b = <A d c/> }) => 1" =
      .ok [innerViolation 10] := by decide +kernel
  have second : fixPass "({ a, b = <A d c/> }) => 1" [innerViolation 10] =
      .ok ("({ a, b = <A c d/> }) => 1", 1) := by
    simp only [fixPass, acceptFixes, EditSession.addFix, merge_innerViolation]
    decide +kernel
  have rest : lintText rules parseTagInDefault "({ a, b = <A c d/> }) => 1" = .ok [] := by
    decide +kernel
  have run : Run rules parseTagInDefault tagInDefault
      [⟨tagInDefault, _, 1, _⟩, ⟨_, _, 1, _⟩] "({ a, b = <A c d/> }) => 1" :=
    .step (Pass.made_of_fixPass lintText_tagInDefault (by decide) first)
      (.step (Pass.made_of_fixPass found (by decide) second) (.done _))
  exact fixPasses_of_run (r := { text := tagInDefault }) run (by decide) rfl (by decide) rest rfl

theorem fixText_rules_perm_tagInDefault :
    let rules : List BoundRule := [.forParameters, .forAttributes none]
    let rules' : List BoundRule := [.forAttributes none, .forParameters]
    rules.Perm rules' ∧ (rules.map (·.name)).Nodup ∧
      lintText rules' parseTagInDefault tagInDefault =
        .ok [parametersViolation, innerViolation 7] ∧
      fixText rules' parseTagInDefault tagInDefault =
        .ok { text := "({ a, b = <A c d/> }) => 1", fixedCount := 2, passes := 2 } := by
  intro rules rules'
  have perm : rules.Perm rules' := .swap _ _ []
  have names : (rules.map (·.name)).Nodup := by decide
  obtain ⟨lint, fix⟩ := fixText_rules_perm rules rules' parseTagInDefault tagInDefault perm names
  exact ⟨perm, names, (lint _).mp lintText_tagInDefault, (fix _).mp fixText_tagInDefault⟩

end FieldOrder
