import FieldOrder.Proofs.Collation.Calls
import FieldOrder.Proofs.Order.Checked

namespace FieldOrder

section
variable {α : Type}

/-- In the given state the computation gives the value, and leaves that state. -/
def Giving.still {σ : Type} (s : σ) : Giving (StateM σ) where
  Gives x a := x.run s = (a, s)
  pure _ := rfl
  bind := by
    intro _ _ x f a b hx hf
    rw [StateT.run_bind, hx]
    exact hf

/-- In the given state the collation succeeds with the value, and leaves that state. -/
def Giving.stillOn (s : CollationState) : Giving Collating where
  Gives x a := x.runFrom s = (.ok a, s)
  pure _ := rfl
  bind := by
    intro _ _ x f a b hx hf
    rw [Collating.runFrom_bind, hx]
    exact hf

end

/-- The collation succeeds in every state, with what the other one gives and leaves behind. -/
def Collating.Runs {α : Type} (x : Collating α) (y : StateM CollationState α) : Prop :=
  ∀ s, x.runFrom s = (.ok (y.run s).1, (y.run s).2)

namespace Collating.Runs
variable {α β : Type}

theorem pure (a : α) : Runs (pure a) (pure a) := fun _ => rfl

theorem get : Runs get get := fun _ => rfl

theorem bind {x : Collating α} {y : StateM CollationState α} {f : α → Collating β}
    {g : α → StateM CollationState β} (hx : x.Runs y) (hf : ∀ a, (f a).Runs (g a)) :
    (x >>= f).Runs (y >>= g) := by
  intro s
  rw [runFrom_bind, hx s]
  exact hf _ _

end Collating.Runs

namespace Collator
variable {c : Collator} {host : Platform} {s : CollationState} {a b : String}

/-- Compares two names by the keys kept in a state. -/
def compareHeld (c : Collator) (s : CollationState) (a b : String) : Ordering :=
  match c.locale with
  | none => (c.rootKey a).compare (c.rootKey b)
  | some locale =>
    ((s.keys.lookup a).getD (c.localeKey locale a)).compare
      ((s.keys.lookup b).getD (c.localeKey locale b))

theorem runFrom_keepEach_plain (texts : List String) (s : CollationState) :
    (c.keepEach .plain texts).runFrom s =
      (.ok (), { s with keys := s.keys ++ texts.map fun t => (t, c.localeKey s.current t) }) := by
  induction texts generalizing s with
  | nil => simp [keepEach]
  | cons text rest ih =>
    have computed : c.freshKey .plain s.current text = .ok (c.localeKey s.current text) := rfl
    have first : (c.keepEach .plain (text :: rest)).runFrom s = (c.keepEach .plain rest).runFrom
        { s with keys := s.keys ++ [(text, c.localeKey s.current text)] } := by
      simp [keepEach, Collating.runFrom_bind, computed]
    rw [first, ih]
    simp

theorem primeOn_plain (c : Collator) (texts : List String) :
    (c.primeOn .plain texts).Runs (c.prime texts) := by
  intro s
  cases h : c.locale with
  | none => rw [runFrom_primeOn_of_none c _ h, run_prime_of_none c h]
  | some locale =>
    rw [runFrom_primeOn_of_some c _ h, run_prime_of_some c h]
    by_cases empty : missing s texts = []
    · rw [if_pos empty, if_pos empty]
    · rw [if_neg empty, if_neg empty, Collating.runFrom_under, runFrom_keepEach_plain]
      rfl

theorem keyOn_plain (c : Collator) (locale : Locale) (text : String) :
    (c.keyOn .plain locale text).Runs (c.key locale text) := by
  refine .bind .get fun s => ?_
  cases s.keys.lookup text with
  | some k => exact .pure k
  | none => exact (c.primeOn_plain [text]).bind fun _ => .bind .get fun t => .pure _

theorem collateOn_plain (c : Collator) (a b : String) :
    (c.collateOn .plain a b).Runs (c.compareKept a b) := by
  rw [collateOn, compareKept]
  cases c.locale with
  | none => exact .pure _
  | some locale =>
    exact (c.keyOn_plain locale a).bind fun ka => (c.keyOn_plain locale b).bind fun kb => .pure _

section
variable (ha : c.locale.isSome = true → (s.keys.lookup a).isSome = true)
  (hb : c.locale.isSome = true → (s.keys.lookup b).isSome = true)
include ha hb

theorem runFrom_collateOn_of_found :
    (c.collateOn host a b).runFrom s = (.ok (c.compareHeld s a b), s) := by
  rw [collateOn, compareHeld]
  cases h : c.locale with
  | none => rfl
  | some locale =>
    rw [h] at ha hb
    obtain ⟨ka, foundA⟩ := Option.isSome_iff_exists.mp (ha rfl)
    obtain ⟨kb, foundB⟩ := Option.isSome_iff_exists.mp (hb rfl)
    simp [keyOn, Collating.runFrom_bind, foundA, foundB]

theorem run_compareKept_of_found : (c.compareKept a b).run s = (c.compareHeld s a b, s) := by
  have ran := c.collateOn_plain a b s
  rw [runFrom_collateOn_of_found ha hb] at ran
  obtain ⟨answer, left⟩ := Prod.mk.inj ran
  exact Prod.ext (Except.ok.inj answer).symm left.symm

end

end Collator

namespace Policy
variable {p : Policy} {host : Platform} {fields : List Field} {s : CollationState}

/-- Keys are kept of all names that a comparison of the fields may come to. -/
def KeysHeld (p : Policy) (fields : List Field) (s : CollationState) : Prop :=
  p.alphabetical = true → p.collator.locale.isSome = true →
    ∀ f ∈ fields, ∀ name ∈ f.name, (s.keys.lookup name).isSome = true

/-- Compares two fields by the keys kept in a state. -/
def compareHeld (p : Policy) (s : CollationState) (a b : Field) : Ordering :=
  Id.run (p.compareWith (fun na nb => pure (p.collator.compareHeld s na nb)) a b)

theorem runFrom_collateOn_of_held (held : p.KeysHeld fields s) {a b : Field} (ha : a ∈ fields)
    (hb : b ∈ fields) : (p.collateOn host a b).runFrom s = (.ok (p.compareHeld s a b), s) :=
  compareWith_gives (G := .stillOn s) fun asked na hna nb hnb =>
    Collator.runFrom_collateOn_of_found
      (fun locale => held (alphabetical_of_names_mem asked) locale a ha na hna)
      (fun locale => held (alphabetical_of_names_mem asked) locale b hb nb hnb)

theorem run_compareKept_of_held (held : p.KeysHeld fields s) {a b : Field} (ha : a ∈ fields)
    (hb : b ∈ fields) : (p.compareKept a b).run s = (p.compareHeld s a b, s) :=
  compareWith_gives (G := .still s) fun asked na hna nb hnb =>
    Collator.run_compareKept_of_found
      (fun locale => held (alphabetical_of_names_mem asked) locale a ha na hna)
      (fun locale => held (alphabetical_of_names_mem asked) locale b hb nb hnb)

theorem primeOn_plain (p : Policy) (fields : List Field) :
    (p.primeOn .plain fields).Runs (p.prime fields) := by
  rw [primeOn, prime]
  split
  · exact p.collator.primeOn_plain _
  · exact .pure ()

/-- What computing the keys of all names ahead leaves behind. -/
structure Primed (p : Policy) (host : Platform) (fields : List Field) (s : CollationState)
    (ended : Except LocaleError Unit × CollationState) : Prop where
  current : ended.2.current = s.current
  switches_le : ended.2.switches ≤ s.switches + 1
  freshOn : s.FreshOn host p.collator → ended.2.FreshOn host p.collator
  keysHeld : ended.1 = .ok () → p.KeysHeld fields ended.2

theorem Primed.unchanged (host : Platform) (unasked : p.alphabetical = true →
    p.collator.locale = none) : p.Primed host fields s (.ok (), s) := by
  refine ⟨rfl, Nat.le_succ _, id, fun _ alphabetical locale => ?_⟩
  rw [unasked alphabetical] at locale
  cases locale

theorem primed (p : Policy) (host : Platform) (fields : List Field) (s : CollationState) :
    p.Primed host fields s ((p.primeOn host fields).runFrom s) := by
  rw [primeOn]
  cases alphabetical : p.alphabetical with
  | false => exact .unchanged host fun asked => absurd (alphabetical.symm.trans asked) nofun
  | true =>
    rw [if_pos rfl]
    cases h : p.collator.locale with
    | none =>
      rw [p.collator.runFrom_primeOn_of_none host h]
      exact .unchanged host fun _ => h
    | some locale =>
      have primes := Collator.primes host h (fields.filterMap (·.name)) s
      refine ⟨primes.current, primes.switches_le, primes.freshOn h, ?_⟩
      intro ok _ _ f hf name hname
      exact primes.found ok name (List.mem_filterMap.mpr ⟨f, hf, hname⟩)

end Policy

namespace Engine
variable {e : Engine} {text : String} {fields : List Field} {fixable : Bool}

theorem judgeBy_gives {m : Type → Type} [Monad m] {G : Giving m}
    {compareM : Field → Field → m Ordering} {cmp : Field → Field → Ordering}
    (compared : ∀ a b, a ∈ fields → b ∈ fields → G.Gives (compareM a b) (cmp a b)) :
    G.Gives (e.judgeBy compareM text fields fixable)
      (Id.run (e.judgeBy (fun a b => pure (cmp a b)) text fields fixable)) := by
  refine G.bind (isSortedBy_gives compared fun _ => id) ?_
  simp only [judgeBy, Id.run_bind]
  split
  · exact G.pure _
  · refine G.bind (sortOrderBy_gives compared fun _ => id) ?_
    simp only [Id.run_bind]
    split
    · exact G.pure _
    · split <;> exact G.pure _

/-- What the keys kept in a state make of a field list. -/
def judgeHeld (e : Engine) (s : CollationState) (text : String) (fields : List Field)
    (fixable : Bool) : Except PatchError (Option (List Edit)) :=
  Id.run (e.judgeBy (fun a b => pure (e.policy.compareHeld s a b)) text fields fixable)

/-- An analysis leaves behind what computing the keys ahead does, and fails only if that does. -/
theorem runFrom_analyzeOn (e : Engine) (host : Platform) (text : String) (fields : List Field)
    (fixable : Bool) (s : CollationState) :
    let primed := (e.policy.primeOn host fields).runFrom s
    (e.analyzeOn host text fields fixable).runFrom s =
      (primed.1.map fun _ => e.judgeHeld primed.2 text fields fixable, primed.2) := by
  intro primed
  rw [analyzeOn, Collating.runFrom_bind]
  have held := (e.policy.primed host fields s).keysHeld
  rcases hp : (e.policy.primeOn host fields).runFrom s with ⟨failure | ⟨⟩, t⟩
  · simp only [primed, hp, Except.map]
  · rw [hp] at held
    have judged : (e.judgeBy (e.policy.collateOn host) text fields fixable).runFrom t =
        (.ok (e.judgeHeld t text fields fixable), t) :=
      judgeBy_gives (G := .stillOn t) fun _ _ ha hb =>
        Policy.runFrom_collateOn_of_held (held rfl) ha hb
    simp only [primed, hp, judged, Except.map]

theorem analyzeOn_plain (e : Engine) (text : String) (fields : List Field) (fixable : Bool) :
    (e.analyzeOn .plain text fields fixable).Runs (e.analyzeKept text fields fixable) := by
  intro s
  have primed := e.policy.primeOn_plain fields s
  have held := (e.policy.primed .plain fields s).keysHeld
  rw [primed] at held
  have judged : (e.judgeBy e.policy.compareKept text fields fixable).run
        ((e.policy.prime fields).run s).2 =
      (e.judgeHeld ((e.policy.prime fields).run s).2 text fields fixable,
        ((e.policy.prime fields).run s).2) :=
    judgeBy_gives (G := .still _) fun _ _ ha hb => Policy.run_compareKept_of_held (held rfl) ha hb
  have kept : (e.analyzeKept text fields fixable).run s =
      (e.judgeBy e.policy.compareKept text fields fixable).run
        ((e.policy.prime fields).run s).2 := rfl
  rw [runFrom_analyzeOn, primed, kept, judged]
  rfl

/-- After any calls on a collator, whether they failed or not, each has been answered as if no key
were kept, every kept key is the one that would be computed anew, and the locale is what it was. An
analysis made then switches the locale once at most, for the keys that it computes before all
comparisons, and goes back to the one before; it fails only where such a key cannot be computed. On
the platform that refuses no text these are the calls and the analysis of the library. -/
theorem collation_transparent (e : Engine) (host : Platform) (calls : List CollatorCall)
    (current : Locale) (switches : Nat) (text : String) (fields : List Field) (fixable : Bool) :
    let c := e.policy.collator
    let made := CollatorCall.makeAll c host calls { current, switches }
    let primed := (e.policy.primeOn host fields).runFrom made.2
    let analyzed := (e.analyzeOn host text fields fixable).runFrom made.2
    (List.Forall₂ (CollatorCall.Answered c host) calls made.1 ∧
      made.2.FreshOn host c ∧ made.2.current = current) ∧
    (analyzed.2 = primed.2 ∧ analyzed.1.isOk = primed.1.isOk ∧
      analyzed.2.switches ≤ made.2.switches + 1 ∧
      analyzed.2.FreshOn host c ∧ analyzed.2.current = current) ∧
    (∀ texts, (c.primeOn .plain texts).Runs (c.prime texts)) ∧
    (∀ a b, (c.collateOn .plain a b).Runs (c.compareKept a b)) ∧
    (e.analyzeOn .plain text fields fixable).Runs (e.analyzeKept text fields fixable) := by
  intro c made primed analyzed
  -- Nothing is kept before the first call.
  have new : ({ current, switches } : CollationState).FreshOn host c := nofun
  obtain ⟨answers, fresh, unchanged⟩ := CollatorCall.answered_makeAll calls new
  have ended : analyzed =
      (primed.1.map fun _ => e.judgeHeld primed.2 text fields fixable, primed.2) :=
    e.runFrom_analyzeOn host text fields fixable made.2
  have ahead := e.policy.primed host fields made.2
  refine ⟨⟨answers, fresh, unchanged⟩, ⟨?_, ?_, ?_, ?_, ?_⟩, c.primeOn_plain, c.collateOn_plain,
    e.analyzeOn_plain text fields fixable⟩
  · rw [ended]
  · rw [ended]
    cases primed.1 <;> rfl
  · rw [ended]
    exact ahead.switches_le
  · rw [ended]
    exact ahead.freshOn fresh
  · rw [ended]
    exact ahead.current.trans unchanged

end Engine

end FieldOrder
