import FieldOrder.Proofs.Lint.Accepted
import FieldOrder.Proofs.Lint.Findings
import FieldOrder.Proofs.Lint.Sample

namespace FieldOrder

/-- The violations that come with a fix. -/
def fixableOf (vs : List Violation) : List Violation := vs.filter (!·.edits.isEmpty)

variable {rules : List BoundRule} {parse : Parse} {allowed : Nat} {r r' : FixResult}
  {vs : List Violation} {text : String} {accepted : Nat}

theorem fixPass_eq_ok {fixable : List Violation} {fixed : String} :
    fixPass text fixable = .ok (fixed, accepted) ↔ ∃ session stats,
      acceptFixes { text } fixable = .ok (accepted, session) ∧
        session.apply = .ok (fixed, stats) := by
  simp only [fixPass, bind_eq_ok, mapError_eq_ok, pure_eq_ok, Prod.exists, Prod.mk.injEq]
  constructor
  · rintro ⟨_, session, added, _, stats, applied, rfl, rfl⟩
    exact ⟨session, stats, added, applied⟩
  · rintro ⟨session, stats, added, applied⟩
    exact ⟨accepted, session, added, fixed, stats, applied, rfl, rfl⟩

theorem fixPasses_of_lint_error {e : LintError} (lint : lintText rules parse r.text = .error e) :
    fixPasses rules parse allowed r = .error (.lint e) := by
  cases allowed with
  | zero =>
    simp only [fixPasses, lint]
    rfl
  | succ allowed =>
    simp only [fixPasses, lint]
    rfl

section
variable (lint : lintText rules parse r.text = .ok vs)
include lint

theorem fixPasses_of_done (done : allowed = 0 ∨ fixableOf vs = []) :
    fixPasses rules parse allowed r = .ok { r with remaining := vs } := by
  cases allowed with
  | zero =>
    simp only [fixPasses, lint]
    rfl
  | succ allowed =>
    have none : fixableOf vs = [] := done.resolve_left (Nat.succ_ne_zero allowed)
    rw [fixableOf] at none
    simp [fixPasses, lint, none, Except.mapError, bind, Except.bind, pure, Except.pure]

/-- A pass that is to be made decides how the run goes on. -/
theorem fixPasses_succ (nonempty : fixableOf vs ≠ []) :
    fixPasses rules parse (allowed + 1) r =
      (fixPass r.text (fixableOf vs)).bind fun (text, accepted) =>
        if text = r.text then .ok { r with passes := r.passes + 1, remaining := vs }
        else fixPasses rules parse allowed
          { r with text, passes := r.passes + 1, fixedCount := r.fixedCount + accepted } := by
  obtain ⟨v, rest, fixable⟩ := List.exists_cons_of_ne_nil nonempty
  rw [fixable]
  rw [fixableOf] at fixable
  simp only [fixPasses, lint, bind, Except.bind, Except.mapError, fixable]
  rfl

theorem fixPasses_of_unchanged (nonempty : fixableOf vs ≠ [])
    (pass : fixPass r.text (fixableOf vs) = .ok (r.text, accepted)) :
    fixPasses rules parse (allowed + 1) r =
      .ok { r with passes := r.passes + 1, remaining := vs } := by
  rw [fixPasses_succ lint nonempty, pass]
  exact if_pos rfl

theorem fixPasses_of_change (nonempty : fixableOf vs ≠ [])
    (pass : fixPass r.text (fixableOf vs) = .ok (text, accepted)) (change : text ≠ r.text) :
    fixPasses rules parse (allowed + 1) r = fixPasses rules parse allowed
      { r with text, passes := r.passes + 1, fixedCount := r.fixedCount + accepted } := by
  rw [fixPasses_succ lint nonempty, pass]
  exact if_neg change

end

/-- A run that succeeds is at its end, makes a pass that changes nothing, or goes on from what a
pass leaves. -/
theorem fixPasses_cases (h : fixPasses rules parse allowed r = .ok r') :
    ∃ vs, lintText rules parse r.text = .ok vs ∧
      (((allowed = 0 ∨ fixableOf vs = []) ∧ r' = { r with remaining := vs }) ∨
        ∃ left text accepted, allowed = left + 1 ∧ fixableOf vs ≠ [] ∧
          fixPass r.text (fixableOf vs) = .ok (text, accepted) ∧
          ((text = r.text ∧ r' = { r with passes := r.passes + 1, remaining := vs }) ∨
            (text ≠ r.text ∧ fixPasses rules parse left { r with
              text, passes := r.passes + 1
              fixedCount := r.fixedCount + accepted } = .ok r'))) := by
  cases lint : lintText rules parse r.text with
  | error e =>
    rw [fixPasses_of_lint_error lint] at h
    cases h
  | ok vs =>
    refine ⟨vs, rfl, ?_⟩
    -- The three endings of a round, in the order in which it tests for them.
    by_cases done : allowed = 0 ∨ fixableOf vs = []
    · rw [fixPasses_of_done lint done] at h
      exact .inl ⟨done, (Except.ok.inj h).symm⟩
    · obtain ⟨more, nonempty⟩ := not_or.mp done
      obtain ⟨left, rfl⟩ := Nat.exists_eq_add_one_of_ne_zero more
      cases pass : fixPass r.text (fixableOf vs) with
      | error e =>
        rw [fixPasses_succ lint nonempty, pass] at h
        cases h
      | ok result =>
        obtain ⟨text, accepted⟩ := result
        refine .inr ⟨left, text, accepted, rfl, nonempty, rfl, ?_⟩
        by_cases same : text = r.text
        · subst same
          rw [fixPasses_of_unchanged lint nonempty pass] at h
          exact .inl ⟨rfl, (Except.ok.inj h).symm⟩
        · rw [fixPasses_of_change lint nonempty pass same] at h
          exact .inr ⟨same, h⟩

/-- One pass: the text it started from, what it found there, how many of the fixes it accepted, and
the text with these carried out. -/
structure Pass where
  before : String
  found : List Violation
  accepted : Nat
  after : String

/-- The pass is made: something comes with a fix, the fixes are added in turn to a new session, and
those that are accepted are carried out. -/
structure Pass.Made (rules : List BoundRule) (parse : Parse) (p : Pass) : Prop where
  found_eq : lintText rules parse p.before = .ok p.found
  fixable : fixableOf p.found ≠ []
  carried : ∃ session stats,
    acceptFixes { text := p.before } (fixableOf p.found) = .ok (p.accepted, session) ∧
      session.accepted.length = p.accepted ∧ session.apply = .ok (p.after, stats)

/-- Passes made one after another lead from one text to another. -/
inductive Run (rules : List BoundRule) (parse : Parse) : String → List Pass → String → Prop
  | done (text : String) : Run rules parse text [] text
  | step {p : Pass} {ps : List Pass} {text : String} (made : p.Made rules parse)
      (rest : Run rules parse p.after ps text) : Run rules parse p.before (p :: ps) text

/-- The fixes accepted in passes that changed the text. -/
def countedFixes : List Pass → Nat
  | [] => 0
  | p :: ps => (if p.after = p.before then 0 else p.accepted) + countedFixes ps

theorem Pass.made_of_fixPass {before after : String} (lint : lintText rules parse before = .ok vs)
    (nonempty : fixableOf vs ≠ []) (pass : fixPass before (fixableOf vs) = .ok (after, accepted)) :
    Made rules parse ⟨before, vs, accepted, after⟩ where
  found_eq := lint
  fixable := nonempty
  carried := by
    obtain ⟨session, stats, added, applied⟩ := fixPass_eq_ok.mp pass
    have count := (acceptFixes_extends added).length_eq
    exact ⟨session, stats, added, by simpa using count, applied⟩

theorem Pass.Made.fixPass_eq {p : Pass} (h : p.Made rules parse) :
    fixPass p.before (fixableOf p.found) = .ok (p.after, p.accepted) := by
  obtain ⟨session, stats, added, -, applied⟩ := h.carried
  exact fixPass_eq_ok.mpr ⟨session, stats, added, applied⟩

theorem Pass.Made.one_le_accepted {p : Pass} (h : p.Made rules parse) : 1 ≤ p.accepted := by
  obtain ⟨session, stats, added, -, -⟩ := h.carried
  exact one_le_of_acceptFixes h.fixable added

namespace Run
variable {ps : List Pass} {before after : String}

theorem made (h : Run rules parse before ps after) : ∀ p ∈ ps, p.Made rules parse := by
  induction h with
  | done => simp
  | step made rest ih => exact List.forall_mem_cons.mpr ⟨made, ih⟩

theorem one_le_countedFixes (h : Run rules parse before ps after) (ne : after ≠ before) :
    1 ≤ countedFixes ps := by
  induction h with
  | done => exact absurd rfl ne
  | @step p ps text made rest ih =>
    rw [countedFixes]
    by_cases same : p.after = p.before
    · exact Nat.le_trans (ih (same ▸ ne)) (Nat.le_add_left _ _)
    · rw [if_neg same]
      exact Nat.le_trans made.one_le_accepted (Nat.le_add_right _ _)

end Run

theorem fixPasses_of_run {ps : List Pass} {before after : String}
    (run : Run rules parse before ps after) (changes : ∀ p ∈ ps, p.after ≠ p.before)
    (start : r.text = before) (few : ps.length ≤ allowed)
    (lint : lintText rules parse after = .ok vs) (done : fixableOf vs = []) :
    fixPasses rules parse allowed r = .ok {
      text := after
      fixedCount := r.fixedCount + countedFixes ps
      passes := r.passes + ps.length
      remaining := vs } := by
  induction run generalizing r allowed with
  | done text =>
    subst start
    rw [fixPasses_of_done lint (.inr done)]
    simp [countedFixes]
  | @step p ps text made rest ih =>
    obtain ⟨left, rfl⟩ : ∃ left, allowed = left + 1 :=
      Nat.exists_eq_add_one_of_ne_zero (Nat.ne_zero_of_lt few)
    obtain ⟨change, changes⟩ := List.forall_mem_cons.mp changes
    rw [fixPasses_of_change (start ▸ made.found_eq) made.fixable (start ▸ made.fixPass_eq)
      (start ▸ change), ih changes rfl (Nat.le_of_succ_le_succ few) lint]
    rw [countedFixes, if_neg change, List.length_cons, Int.natCast_add, Int.add_assoc,
      Nat.add_assoc, Nat.add_comm 1]

/-- A run of passes: what is reported at its end, and how the counts come about. -/
theorem exists_run (h : fixPasses rules parse allowed r = .ok r') :
    lintText rules parse r'.text = .ok r'.remaining ∧ ∃ ps, Run rules parse r.text ps r'.text ∧
      ps.length ≤ allowed ∧ r'.passes = r.passes + ps.length ∧
      r'.fixedCount = r.fixedCount + countedFixes ps := by
  induction allowed generalizing r with
  | zero =>
    obtain ⟨vs, lint, ⟨-, rfl⟩ | ⟨_, _, _, ⟨⟩, -⟩⟩ := fixPasses_cases h
    exact ⟨lint, [], .done _, Nat.le_refl _, rfl, by simp [countedFixes]⟩
  | succ allowed ih =>
    obtain ⟨vs, lint, ⟨-, rfl⟩ | ⟨_, text, accepted, ⟨⟩, nonempty, pass, next⟩⟩ := fixPasses_cases h
    · exact ⟨lint, [], .done _, Nat.zero_le _, rfl, by simp [countedFixes]⟩
    · have made := Pass.made_of_fixPass lint nonempty pass
      rcases next with ⟨rfl, rfl⟩ | ⟨change, later⟩
      · -- The pass counts, but the fixes it accepted do not.
        exact ⟨lint, [_], .step made (.done _), Nat.le_add_left _ _, rfl, by simp [countedFixes]⟩
      · obtain ⟨last, ps, run, length, passes, count⟩ := ih later
        refine ⟨last, _ :: ps, .step made run, Nat.succ_le_succ length, ?_, ?_⟩
        · rw [passes, List.length_cons, Nat.add_right_comm, Nat.add_assoc]
        · rw [count, countedFixes, if_neg change, Int.natCast_add, Int.add_assoc]

theorem fixPass_nil (text : String) : fixPass text [] = .ok (text, 0) := by
  let session : EditSession := { text }
  have applied : session.apply = .ok (text, session.stats) := by
    simp [EditSession.apply, EditSession.boundsErrors, EditSession.fromEnd, session]
  exact fixPass_eq_ok.mpr ⟨session, session.stats, rfl, applied⟩

/-- Fixing that ends before its last pass leaves nothing to fix, or fixes that change nothing. -/
theorem exists_fixPass_of_early (h : fixPasses rules parse allowed r = .ok r')
    (early : r'.passes < r.passes + allowed) :
    ∃ accepted, fixPass r'.text (fixableOf r'.remaining) = .ok (r'.text, accepted) := by
  induction allowed generalizing r with
  | zero =>
    -- No pass is left, so the run cannot have ended early.
    obtain ⟨-, ps, -, -, passes, -⟩ := exists_run h
    omega
  | succ allowed ih =>
    obtain ⟨vs, -, ⟨none, rfl⟩ |
      ⟨_, text, accepted, ⟨⟩, -, pass, ⟨rfl, rfl⟩ | ⟨-, later⟩⟩⟩ := fixPasses_cases h
    · have none := none.resolve_left (Nat.succ_ne_zero allowed)
      exact ⟨0, by rw [none]; exact fixPass_nil _⟩
    · exact ⟨accepted, pass⟩
    · exact ih later (by simpa [Nat.add_assoc, Nat.add_comm 1] using early)

/-- Fixing that ends before its last pass is at rest: a further pass changes nothing, and fixing the
text again gives the same. -/
theorem fixText_settled (rules : List BoundRule) (parse : Parse) (text : String) (r : FixResult)
    (h : fixText rules parse text = .ok r) (early : r.passes < maxFixPasses) :
    (∃ accepted session stats,
      acceptFixes { text := r.text } (r.remaining.filter (!·.edits.isEmpty)) =
        .ok (accepted, session) ∧ session.apply = .ok (r.text, stats)) ∧
      ∃ again, fixText rules parse r.text = .ok again ∧ again.text = r.text ∧
        again.fixedCount = 0 ∧ again.remaining = r.remaining := by
  obtain ⟨accepted, pass⟩ := exists_fixPass_of_early h (by simpa using early)
  obtain ⟨lint, -⟩ := exists_run h
  constructor
  · obtain ⟨session, stats, added, applied⟩ := fixPass_eq_ok.mp pass
    exact ⟨accepted, session, stats, added, applied⟩
  · by_cases none : fixableOf r.remaining = []
    · exact ⟨_, fixPasses_of_done lint (.inr none), rfl, rfl, rfl⟩
    · exact ⟨_, fixPasses_of_unchanged (r := { text := r.text }) lint none pass, rfl, rfl, rfl⟩

theorem lintText_nested : lintText [.forAttributes none] parseNested nestedTags =
    .ok [outerViolation, innerViolation 5] := by
  have found : nestedTree.walk.mapM
      (lintSite [.forAttributes none] ⟨nestedTags, parseNested nestedTags⟩) =
        .ok [[outerViolation], [], [], [innerViolation 5], [], [], [], [], [], []] := by
    decide +kernel
  have sorted : Violation.sort [outerViolation, innerViolation 5] =
      [outerViolation, innerViolation 5] := List.mergeSort_of_pairwise (by decide +kernel)
  exact (lintDocument_of_found rfl (List.cons_ne_nil _ _) found).trans (congrArg _ sorted)

theorem fixText_nested : fixText [.forAttributes none] parseNested nestedTags =
    .ok { text := "<B a b=<A c d/>/>", fixedCount := 2, passes := 2 } := by
  have first : fixPass nestedTags [outerViolation, innerViolation 5] =
      .ok ("<B a b=<A d c/>/>", 1) := by
    simp only [fixPass, acceptFixes, EditSession.addFix, merge_outerViolation,
      merge_innerViolation]
    decide +kernel
  have found : lintText [.forAttributes none] parseNested "<B a b=<A d c/>/>" =
      .ok [innerViolation 7] := by decide +kernel
  have second : fixPass "<B a b=<A d c/>/>" [innerViolation 7] =
      .ok ("<B a b=<A c d/>/>", 1) := by
    simp only [fixPass, acceptFixes, EditSession.addFix, merge_innerViolation]
    decide +kernel
  have rest : lintText [.forAttributes none] parseNested "<B a b=<A c d/>/>" = .ok [] := by
    decide +kernel
  have run : Run [.forAttributes none] parseNested nestedTags
      [⟨nestedTags, _, 1, _⟩, ⟨_, _, 1, _⟩] "<B a b=<A c d/>/>" :=
    .step (Pass.made_of_fixPass lintText_nested (by decide) first)
      (.step (Pass.made_of_fixPass found (by decide) second) (.done _))
  exact fixPasses_of_run (r := { text := nestedTags }) run (by decide) rfl (by decide) rest rfl

theorem fixText_settled_nested :
    ∃ r, fixText [.forAttributes none] parseNested nestedTags = .ok r ∧ r.passes = 2 ∧
      r.text = "<B a b=<A c d/>/>" ∧
      (∃ accepted session stats,
        acceptFixes { text := r.text } (r.remaining.filter (!·.edits.isEmpty)) =
          .ok (accepted, session) ∧ session.apply = .ok (r.text, stats)) ∧
      ∃ again, fixText [.forAttributes none] parseNested r.text = .ok again ∧
        again.text = r.text ∧ again.fixedCount = 0 ∧ again.remaining = r.remaining :=
  ⟨_, fixText_nested, rfl, rfl,
    fixText_settled [.forAttributes none] parseNested nestedTags _ fixText_nested (by decide)⟩

end FieldOrder
