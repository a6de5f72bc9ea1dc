import FieldOrder.Proofs.Lint.Contained
import FieldOrder.Proofs.Lint.Passes

namespace FieldOrder

/-- The parser has a tree for each text, and it fits. -/
def Parse.Fits (parse : Parse) : Prop :=
  ∀ text, ∃ root, parse text = some root ∧ root.WellFormed text.toList

/-- The name of an attribute holds no NUL, unless its tag has a syntax error. -/
def Parse.NamesAttributes (parse : Parse) : Prop :=
  ∀ text root, parse text = some root → ∀ tag ∈ root.preorder, tag.hasError = false →
    ∀ a ∈ tag.namedChildren, a.kind = "jsx_attribute" → ∀ n, a.entries.head? = some n →
      ∀ name, Document.nodeText ⟨text, some root⟩ n = .ok name → '\x00' ∉ name.toList

variable {rules : List BoundRule} {parse : Parse} {text : String} {vs : List Violation}

theorem contained_of_lintText (fits : parse.Fits) (reportable : ∀ r ∈ rules, r.severity ≠ .off)
    (h : lintText rules parse text = .ok vs) :
    ∃ root, parse text = some root ∧ Contained text root vs := by
  obtain ⟨root, tree, wf⟩ := fits text
  rw [lintText, tree] at h
  exact ⟨root, tree, contained_of_lintDocument wf reportable h⟩

/-- Only a name with a NUL keeps a text from being linted, and no clean attribute has one. -/
theorem exists_lintText (fits : parse.Fits) (names : parse.NamesAttributes) (text : String) :
    ∃ vs, lintText rules parse text = .ok vs := by
  obtain ⟨root, tree, wf⟩ := fits text
  let d : Document := ⟨text, some root⟩
  cases lint : lintText rules parse text with
  | ok vs => exact ⟨vs, rfl⟩
  | error e =>
    rw [lintText, tree] at lint
    obtain ⟨s, hs, clean, r, -, failed⟩ := exists_visit_of_lintDocument_error (d := d) rfl lint
    obtain ⟨node, parent⟩ := Node.mem_preorder_of_mem_walk hs
    obtain ⟨-, found, extracted, lacks⟩ := BoundRule.exists_lacksKey_of_visit (d := d)
      (wf.descendant node) (fun p hp => wf.descendant (parent p hp)) failed
    rw [(BoundRule.usesLocale_of_lacksKey lacks).shape_eq] at extracted
    obtain ⟨-, -, f, hf, name, hname, nul⟩ := lacks
    obtain ⟨a, ha, kind, n, first, read⟩ :=
      Attributes.exists_attribute_of_extract extracted hf hname
    exact absurd nul (names text root tree s.node node clean a ha kind n first name read)

theorem exists_fixPass (fits : parse.Fits) (reportable : ∀ r ∈ rules, r.severity ≠ .off)
    (lint : lintText rules parse text = .ok vs) :
    ∃ fixed accepted, fixPass text (fixableOf vs) = .ok (fixed, accepted) := by
  obtain ⟨root, -, contained⟩ := contained_of_lintText fits reportable lint
  have chosen : ∀ v ∈ fixableOf vs, v ∈ vs ∧ v.edits ≠ [] := by
    intro v hv
    obtain ⟨found, fixable⟩ := List.mem_filter.mp hv
    exact ⟨found, by simpa using fixable⟩
  obtain ⟨accepted, session, ⟨fixed, stats⟩, added, applied⟩ := contained.applies _ chosen
  exact ⟨fixed, accepted, fixPass_eq_ok.mpr ⟨session, stats, added, applied⟩⟩

theorem exists_fixPasses (fits : parse.Fits) (names : parse.NamesAttributes)
    (reportable : ∀ r ∈ rules, r.severity ≠ .off) (allowed : Nat) (r : FixResult) :
    ∃ r', fixPasses rules parse allowed r = .ok r' := by
  induction allowed generalizing r with
  | zero =>
    obtain ⟨vs, lint⟩ := exists_lintText fits names r.text
    exact ⟨_, fixPasses_of_done lint (.inl rfl)⟩
  | succ allowed ih =>
    obtain ⟨vs, lint⟩ := exists_lintText fits names r.text
    by_cases none : fixableOf vs = []
    · exact ⟨_, fixPasses_of_done lint (.inr none)⟩
    obtain ⟨fixed, accepted, pass⟩ := exists_fixPass fits reportable lint
    by_cases same : fixed = r.text
    · subst same
      exact ⟨_, fixPasses_of_unchanged lint none pass⟩
    · rw [fixPasses_of_change lint none pass same]
      exact ih _

end FieldOrder
