import FieldOrder.Proofs.Edit.Rearrangement
import FieldOrder.Proofs.Lint.Contained
import FieldOrder.Proofs.Lint.Passes

namespace FieldOrder

theorem BoundRule.positional_of_kind_ne {r : BoundRule} (h : r.kind ≠ .componentProps) :
    r.engine.style = .positional := by
  rw [engine]
  cases hk : r.kind with
  | componentProps => exact absurd hk h
  | jsxProps => rfl
  | typeProperties => rfl

/-- A pass of fixes that rearrange their ranges succeeds and rearranges the text. -/
theorem exists_fixPass_perm {text : String} {fixable : List Violation}
    (mergeable : ∀ v ∈ fixable,
      ∃ merged, Edit.merge text v.edits = .ok merged ∧ merged.Rearranges text) :
    ∃ fixed accepted, fixPass text fixable = .ok (fixed, accepted) ∧
      fixed.toList.Perm text.toList := by
  obtain ⟨accepted, session, added, same, apart, rearranges⟩ := exists_acceptFixes mergeable
  obtain ⟨fixed, stats, applied, perm⟩ := EditSession.exists_apply_perm apart (same ▸ rearranges)
  exact ⟨fixed, accepted, fixPass_eq_ok.mpr ⟨session, stats, added, applied⟩, same ▸ perm⟩

section
variable {rules : List BoundRule} (positional : ∀ r ∈ rules, r.kind ≠ .componentProps)
include positional

theorem exists_merge_rearranges_of_lint {d : Document} {root : Node} (tree : d.tree = some root)
    (wf : root.WellFormed d.chars) {vs : List Violation} {v : Violation}
    (h : lintDocument rules d = .ok vs) (hv : v ∈ vs) (nonempty : v.edits ≠ []) :
    ∃ merged, Edit.merge d.text v.edits = .ok merged ∧ merged.Rearranges d.text := by
  obtain ⟨n, -, r, hr, found, edits, message, lies, analyzed, rfl⟩ :=
    exists_report_of_mem_lintDocument tree wf h hv
  have inNode := r.liesIn_report lies analyzed message
  have style := BoundRule.positional_of_kind_ne (positional r hr)
  exact Edit.exists_merge_rearranges nonempty inNode.in_order inNode.in_text
    (Engine.substitute_perm_of_positional style lies.laidOut analyzed)

variable {parse : Parse} {text : String} (parses : ∀ t : String, t.toList.Perm text.toList →
  ∃ root, parse t = some root ∧ root.WellFormed t.toList)
include parses

theorem lintText_cases {t : String} (perm : t.toList.Perm text.toList) :
    (∃ vs, lintText rules parse t = .ok vs ∧ ∀ v ∈ fixableOf vs,
      ∃ merged, Edit.merge t v.edits = .ok merged ∧ merged.Rearranges t) ∨
      (lintText rules parse t = .error (.collation .holdsNul) ∧
        '\x00' ∈ text.toList ∧ ∃ r ∈ rules, r.UsesLocale) := by
  obtain ⟨root, tree, wf⟩ := parses t perm
  let d : Document := ⟨t, parse t⟩
  cases lint : lintText rules parse t with
  | ok vs =>
    refine .inl ⟨vs, rfl, fun v hv => ?_⟩
    obtain ⟨found, fixable⟩ := List.mem_filter.mp hv
    exact exists_merge_rearranges_of_lint positional (d := d) tree wf lint found
      (by simpa using fixable)
  | error e =>
    obtain ⟨rfl, nul, uses⟩ := lintDocument_eq_error (d := d) tree wf lint
    exact .inr ⟨rfl, perm.subset nul, uses⟩

/-- A run that starts from a rearrangement of the text gives one, or meets a name that it cannot
collate. -/
theorem fixPasses_perm {allowed : Nat} {r : FixResult} (perm : r.text.toList.Perm text.toList) :
    (∃ r', fixPasses rules parse allowed r = .ok r' ∧ r'.text.toList.Perm text.toList) ∨
      (fixPasses rules parse allowed r = .error (.lint (.collation .holdsNul)) ∧
        '\x00' ∈ text.toList ∧ ∃ r ∈ rules, r.UsesLocale) := by
  induction allowed generalizing r with
  | zero =>
    rcases lintText_cases positional parses perm with ⟨vs, lint, -⟩ | ⟨lint, cause⟩
    · exact .inl ⟨_, fixPasses_of_done lint (.inl rfl), perm⟩
    · exact .inr ⟨fixPasses_of_lint_error lint, cause⟩
  | succ allowed ih =>
    rcases lintText_cases positional parses perm with ⟨vs, lint, mergeable⟩ | ⟨lint, cause⟩
    · by_cases none : fixableOf vs = []
      · exact .inl ⟨_, fixPasses_of_done lint (.inr none), perm⟩
      · -- What the pass leaves is a rearrangement again, so its tree fits too.
        obtain ⟨fixed, accepted, pass, rearranged⟩ := exists_fixPass_perm mergeable
        by_cases same : fixed = r.text
        · subst same
          exact .inl ⟨_, fixPasses_of_unchanged lint none pass, perm⟩
        · rw [fixPasses_of_change lint none pass same]
          exact ih (rearranged.trans perm)
    · exact .inr ⟨fixPasses_of_lint_error lint, cause⟩

end

/-- Fixing attributes and members neither drops nor repeats a character, if each text on the way has
a tree that fits it. Where it gives no text, some rule should collate a name with a NUL under a
locale. -/
theorem fixText_perm (rules : List BoundRule) (parse : Parse) (text : String)
    (positional : ∀ r ∈ rules, r.kind ≠ .componentProps)
    (parses : ∀ t : String, t.toList.Perm text.toList →
      ∃ root, parse t = some root ∧ root.WellFormed t.toList) :
    (∃ r, fixText rules parse text = .ok r ∧ r.text.toList.Perm text.toList ∧
      r.text.length = text.length) ∨
      (fixText rules parse text = .error (.lint (.collation .holdsNul)) ∧
        '\x00' ∈ text.toList ∧ ∃ r ∈ rules, r.UsesLocale) := by
  rcases fixPasses_perm positional parses (r := { text }) (.refl _) with ⟨r, fixing, perm⟩ | failed
  · refine .inl ⟨r, fixing, perm, ?_⟩
    rw [← String.length_toList, ← String.length_toList]
    exact perm.length_eq
  · exact .inr failed

theorem fixText_perm_nested :
    ∃ r, fixText [.forAttributes none] parseNested nestedTags = .ok r ∧
      r.text = "<B a b=<A c d/>/>" ∧ r.text.toList.Perm nestedTags.toList ∧
      r.text.length = nestedTags.length := by
  rcases fixText_perm [.forAttributes none] parseNested nestedTags (by decide)
    (fun t _ => exists_parseNested_wellFormed t) with ⟨r, fixing, perm, length⟩ | ⟨-, nul, -⟩
  · have text : r.text = "<B a b=<A c d/>/>" := by
      rw [fixText_nested] at fixing
      cases fixing
      rfl
    exact ⟨r, fixing, text, perm, length⟩
  · exact absurd nul (by decide)

end FieldOrder
