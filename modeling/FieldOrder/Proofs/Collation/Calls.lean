import FieldOrder.Collation.Calls
import FieldOrder.Proofs.Collation.Kept
import FieldOrder.Proofs.Computation

namespace FieldOrder

namespace Collating
variable {α β : Type}

theorem runFrom_bind (x : Collating α) (f : α → Collating β) (s : CollationState) :
    (x >>= f).runFrom s = match x.runFrom s with
      | (.ok a, t) => (f a).runFrom t
      | (.error e, t) => (.error e, t) := by
  unfold runFrom
  rw [run_run_bind]
  rcases StateT.run (ExceptT.run x) s with ⟨_ | _, t⟩
  · rfl
  · rfl

@[simp]
theorem runFrom_map (f : α → β) (x : Collating α) (s : CollationState) :
    (f <$> x).runFrom s = ((x.runFrom s).1.map f, (x.runFrom s).2) :=
  run_run_map s x f

@[simp]
theorem runFrom_pure (a : α) (s : CollationState) :
    (pure a : Collating α).runFrom s = (.ok a, s) := rfl

@[simp]
theorem runFrom_get (s : CollationState) :
    (get : Collating CollationState).runFrom s = (.ok s, s) := rfl

@[simp]
theorem runFrom_set (s t : CollationState) :
    (set t : Collating Unit).runFrom s = (.ok (), t) := rfl

@[simp]
theorem runFrom_ofExcept (x : Except LocaleError α) (s : CollationState) :
    (ofExcept x).runFrom s = (x, s) := rfl

theorem runFrom_finally (x : Collating α) (restore : CollationState → CollationState)
    (s : CollationState) :
    (tryFinally x (modify restore) : Collating α).runFrom s =
      ((x.runFrom s).1, restore (x.runFrom s).2) := by
  unfold runFrom ExceptT.run StateT.run
  simp only [tryFinally, tryFinally', Functor.map, ExceptT.map, ExceptT.mk, bind, StateT.bind]
  rcases x s with ⟨_ | _, t⟩
  · rfl
  · rfl

theorem runFrom_under (locale : Locale) (x : Collating α) (s : CollationState) :
    (under locale x).runFrom s =
      let ended := x.runFrom { s with current := locale, switches := s.switches + 1 }
      (ended.1, { ended.2 with current := s.current }) := by
  simp only [under, runFrom_bind, runFrom_get, runFrom_set, runFrom_finally]

end Collating

/-- Every kept key is the one that the platform gives anew. -/
def CollationState.FreshOn (host : Platform) (c : Collator) (s : CollationState) : Prop :=
  ∀ locale, c.locale = some locale → ∀ kept ∈ s.keys, c.freshKey host locale kept.1 = .ok kept.2

namespace CollationState

theorem FreshOn.eq_of_lookup {host : Platform} {c : Collator} {s : CollationState}
    (fresh : s.FreshOn host c) {locale : Locale} (h : c.locale = some locale) {text : String}
    {k : LocaleKey} (found : s.keys.lookup text = some k) :
    c.freshKey host locale text = .ok k := by
  obtain ⟨before, after, split, -⟩ := List.lookup_eq_some_iff.mp found
  exact fresh locale h (text, k) (by simp [split])

end CollationState

theorem isSome_lookup_of_mem {α β : Type} [BEq α] [LawfulBEq α] {a : α} {entries : List (α × β)}
    (h : a ∈ entries.map (·.1)) : (entries.lookup a).isSome = true := by
  cases found : entries.lookup a with
  | some b => rfl
  | none =>
    obtain ⟨entry, mem, rfl⟩ := List.mem_map.mp h
    have differs := List.lookup_eq_none_iff.mp found entry mem
    simp at differs

namespace Collator
variable (c : Collator) (host : Platform)

theorem runFrom_keepEach (texts : List String) (s : CollationState) :
    ∃ result kept, (c.keepEach host texts).runFrom s = (result, { s with keys := s.keys ++ kept }) ∧
      (∀ entry ∈ kept, c.freshKey host s.current entry.1 = .ok entry.2) ∧
      (result = .ok () → kept.map (·.1) = texts) ∧
      ∀ e, result = .error e → ∃ t ∈ texts, c.freshKey host s.current t = .error e := by
  induction texts generalizing s with
  | nil => exact ⟨.ok (), [], by simp [keepEach], by simp, by simp, by simp⟩
  | cons text rest ih =>
    -- A text that is refused ends the round; the keys that were computed before it stay.
    cases computed : c.freshKey host s.current text with
    | error e =>
      refine ⟨.error e, [], ?_, by simp, by simp, ?_⟩
      · simp [keepEach, Collating.runFrom_bind, computed]
      · rintro _ ⟨⟩
        exact ⟨text, by simp, computed⟩
    | ok key =>
      let kept : CollationState := { s with keys := s.keys ++ [(text, key)] }
      obtain ⟨result, later, ran, fresh, all, refused⟩ := ih kept
      refine ⟨result, (text, key) :: later, ?_, ?_, ?_, ?_⟩
      · have first : (c.keepEach host (text :: rest)).runFrom s =
            (c.keepEach host rest).runFrom kept := by
          simp [keepEach, Collating.runFrom_bind, computed, kept]
        rw [first, ran]
        simp [kept]
      · exact List.forall_mem_cons.mpr ⟨computed, fresh⟩
      · intro ok
        rw [List.map_cons, all ok]
      · intro e failed
        obtain ⟨t, ht, no⟩ := refused e failed
        exact ⟨t, List.mem_cons_of_mem _ ht, no⟩

theorem mem_missing {s : CollationState} {texts : List String} {t : String} :
    t ∈ missing s texts ↔ t ∈ texts ∧ (s.keys.lookup t).isSome = false := by
  rw [missing, List.mem_eraseDups, List.mem_filter, Option.isSome_eq_false_iff]

theorem runFrom_primeOn_of_none (h : c.locale = none) (texts : List String) (s : CollationState) :
    (c.primeOn host texts).runFrom s = (.ok (), s) := by
  simp [primeOn, h]

theorem runFrom_primeOn_of_some {locale : Locale} (h : c.locale = some locale)
    (texts : List String) (s : CollationState) :
    (c.primeOn host texts).runFrom s = if missing s texts = [] then (.ok (), s) else
      (Collating.under locale (c.keepEach host (host.arrange (missing s texts)))).runFrom s := by
  by_cases empty : missing s texts = []
  · rw [if_pos empty]
    rw [missing] at empty
    simp [primeOn, h, Collating.runFrom_bind, empty]
  · rw [if_neg empty]
    rw [missing] at empty ⊢
    simp [primeOn, h, Collating.runFrom_bind, empty]

/-- How a call that computes the missing keys of texts under a locale ends, and what it leaves
behind. -/
structure Primes (locale : Locale) (texts : List String) (s : CollationState)
    (ended : Except LocaleError Unit × CollationState) : Prop where
  kept : ∃ added, ended.2.keys = s.keys ++ added ∧
    ∀ entry ∈ added, c.freshKey host locale entry.1 = .ok entry.2
  current : ended.2.current = s.current
  switches_le : ended.2.switches ≤ s.switches + 1
  found : ended.1 = .ok () → ∀ t ∈ texts, (ended.2.keys.lookup t).isSome = true
  refused : ∀ e, ended.1 = .error e → ∃ t ∈ texts, c.freshKey host locale t = .error e

variable {c} {locale : Locale} (h : c.locale = some locale)
include h

theorem primes (texts : List String) (s : CollationState) :
    c.Primes host locale texts s ((c.primeOn host texts).runFrom s) := by
  rw [c.runFrom_primeOn_of_some host h]
  by_cases empty : missing s texts = []
  · rw [if_pos empty]
    refine ⟨⟨[], by simp⟩, rfl, Nat.le_succ _, fun _ t ht => ?_, fun e failed => ?_⟩
    · by_contra absent
      have mem : t ∈ missing s texts := mem_missing.mpr ⟨ht, eq_false_of_ne_true absent⟩
      rw [empty] at mem
      cases mem
    · cases failed
  · have arranged := host.arrange_perm (missing s texts)
    obtain ⟨result, kept, kept_ran, fresh, all, refused⟩ :=
      c.runFrom_keepEach host (host.arrange (missing s texts))
        { s with current := locale, switches := s.switches + 1 }
    rw [if_neg empty, Collating.runFrom_under, kept_ran]
    refine ⟨⟨kept, rfl, fresh⟩, rfl, Nat.le_refl _, fun ok t ht => ?_, fun e failed => ?_⟩
    · rw [List.lookup_append, Option.isSome_or, Bool.or_eq_true]
      cases old : (s.keys.lookup t).isSome with
      | true => exact .inl rfl
      | false =>
        have mem : t ∈ missing s texts := mem_missing.mpr ⟨ht, old⟩
        refine .inr (isSome_lookup_of_mem ?_)
        rw [all ok]
        exact arranged.symm.subset mem
    · obtain ⟨t, ht, no⟩ := refused e failed
      exact ⟨t, (mem_missing.mp (arranged.subset ht)).1, no⟩

variable {host}

theorem Primes.freshOn {texts : List String} {s : CollationState}
    {ended : Except LocaleError Unit × CollationState}
    (primes : c.Primes host locale texts s ended) (fresh : s.FreshOn host c) :
    ended.2.FreshOn host c := by
  obtain ⟨added, keys, new⟩ := primes.kept
  intro locale' h' kept mem
  obtain rfl : locale = locale' := Option.some.inj (h.symm.trans h')
  rw [keys] at mem
  rcases List.mem_append.mp mem with old | mem
  · exact fresh locale h kept old
  · exact new kept mem

theorem Primes.isOk_iff {texts : List String} {s : CollationState}
    {ended : Except LocaleError Unit × CollationState}
    (primes : c.Primes host locale texts s ended) (fresh : s.FreshOn host c) :
    ended.1.isOk = true ↔ ∀ t ∈ texts, (c.freshKey host locale t).isOk = true := by
  constructor
  · intro ok t ht
    obtain ⟨⟨⟩, ok⟩ := exists_eq_ok_of_isOk ok
    obtain ⟨key, found⟩ := Option.isSome_iff_exists.mp (primes.found ok t ht)
    rw [(primes.freshOn h fresh).eq_of_lookup h found]
    rfl
  · intro computable
    cases result : ended.1 with
    | ok _ => rfl
    | error e =>
      obtain ⟨t, ht, no⟩ := primes.refused e result
      have some := computable t ht
      rw [no] at some
      cases some

end Collator

/-- As long as every kept key is the one that would be computed anew, the collation ends as said; it
keeps no other keys, and it leaves the locale as it was. -/
def EndsAs {α : Type} (host : Platform) (c : Collator) (x : Collating α)
    (result : Except LocaleError α) : Prop :=
  ∀ s : CollationState, s.FreshOn host c →
    (x.runFrom s).1 = result ∧ (x.runFrom s).2.FreshOn host c ∧
      (x.runFrom s).2.current = s.current

namespace EndsAs
variable {α β : Type} {host : Platform} {c : Collator}

theorem pure (a : α) : EndsAs host c (pure a) (.ok a) := fun _ fresh => ⟨rfl, fresh, rfl⟩

theorem bind {x : Collating α} {f : α → Collating β} {result : Except LocaleError α}
    {g : α → Except LocaleError β} (hx : EndsAs host c x result)
    (hf : ∀ a, EndsAs host c (f a) (g a)) : EndsAs host c (x >>= f) (result >>= g) := by
  intro s fresh
  obtain ⟨ended, kept, current⟩ := hx s fresh
  rw [Collating.runFrom_bind]
  rcases hr : x.runFrom s with ⟨e | a, t⟩
  · rw [hr] at ended kept current
    rw [← ended]
    exact ⟨rfl, kept, current⟩
  · rw [hr] at ended kept current
    rw [← ended]
    obtain ⟨ended', kept', current'⟩ := hf a t kept
    exact ⟨ended', kept', current'.trans current⟩

end EndsAs

namespace Collator
variable {c : Collator} {host : Platform}

theorem primeOn_answers (texts : List String) {s : CollationState} (fresh : s.FreshOn host c) :
    let ended := (c.primeOn host texts).runFrom s
    (ended.1.isOk = true ↔
        ∀ locale, c.locale = some locale → ∀ t ∈ texts, (c.freshKey host locale t).isOk = true) ∧
      ended.2.FreshOn host c ∧ ended.2.current = s.current := by
  intro ended
  cases h : c.locale with
  | none =>
    have ran : ended = (.ok (), s) := c.runFrom_primeOn_of_none host h texts s
    rw [ran]
    exact ⟨iff_of_true rfl nofun, fresh, rfl⟩
  | some locale =>
    have primes : c.Primes host locale texts s ended := primes host h texts s
    refine ⟨?_, primes.freshOn h fresh, primes.current⟩
    rw [primes.isOk_iff h fresh]
    simp

theorem keyOn_endsAs {locale : Locale} (h : c.locale = some locale) (text : String) :
    EndsAs host c (c.keyOn host locale text) (c.freshKey host locale text) := by
  intro s fresh
  cases found : s.keys.lookup text with
  | some k =>
    have ran : (c.keyOn host locale text).runFrom s = (.ok k, s) := by
      simp [keyOn, Collating.runFrom_bind, found]
    rw [ran]
    exact ⟨(fresh.eq_of_lookup h found).symm, fresh, rfl⟩
  | none =>
    -- Computing the one key that is missing keeps it, and there it is found.
    have primes := primes host h [text] s
    have kept := primes.freshOn h fresh
    rcases primed : (c.primeOn host [text]).runFrom s with ⟨e | ⟨⟩, t⟩
    · have ran : (c.keyOn host locale text).runFrom s = (.error e, t) := by
        simp [keyOn, Collating.runFrom_bind, found, primed]
      rw [primed] at primes kept
      rw [ran]
      obtain ⟨t', ht, no⟩ := primes.refused e rfl
      rw [List.mem_singleton.mp ht] at no
      exact ⟨no.symm, kept, primes.current⟩
    · have ran : (c.keyOn host locale text).runFrom s =
          (.ok ((t.keys.lookup text).getD (c.localeKey locale text)), t) := by
        simp [keyOn, Collating.runFrom_bind, found, primed, Except.map]
      rw [primed] at primes kept
      rw [ran]
      have present := primes.found rfl text (List.mem_singleton_self text)
      obtain ⟨k, again⟩ := Option.isSome_iff_exists.mp present
      rw [again]
      exact ⟨(kept.eq_of_lookup h again).symm, kept, primes.current⟩

theorem collateOn_endsAs (a b : String) :
    EndsAs host c (c.collateOn host a b) (c.compareFresh host a b) := by
  rw [collateOn, compareFresh]
  cases h : c.locale with
  | none => exact .pure _
  | some locale =>
    exact (keyOn_endsAs h a).bind fun ka => (keyOn_endsAs h b).bind fun kb => .pure (ka.compare kb)

end Collator

namespace CollatorCall
variable {c : Collator} {host : Platform}

/-- The answer is that of a collator that keeps no keys: comparing two names gives what their keys
computed for the occasion give, and computing keys ahead succeeds if all can be computed. -/
def Answered (c : Collator) (host : Platform) :
    CollatorCall → Except LocaleError (Option Ordering) → Prop
  | prime texts, answer =>
    answer.isOk = true ↔
      ∀ locale, c.locale = some locale → ∀ t ∈ texts, (c.freshKey host locale t).isOk = true
  | compare a b, answer => answer = (c.compareFresh host a b).map some

theorem answered_make (call : CollatorCall) {s : CollationState} (fresh : s.FreshOn host c) :
    let made := (call.make c host).runFrom s
    call.Answered c host made.1 ∧ made.2.FreshOn host c ∧ made.2.current = s.current := by
  cases call with
  | prime texts =>
    obtain ⟨succeeds, kept, current⟩ := Collator.primeOn_answers texts fresh
    have ran : ((prime texts).make c host).runFrom s =
        (((c.primeOn host texts).runFrom s).1.map fun _ => none,
          ((c.primeOn host texts).runFrom s).2) := by
      simp [make]
    rw [ran]
    refine ⟨?_, kept, current⟩
    rw [Answered, ← succeeds]
    cases ((c.primeOn host texts).runFrom s).1 <;> rfl
  | compare a b =>
    have ended : EndsAs host c ((compare a b).make c host)
        (c.compareFresh host a b >>= fun o => .ok (some o)) :=
      (Collator.collateOn_endsAs a b).bind fun o => .pure (some o)
    obtain ⟨answer, kept, current⟩ := ended s fresh
    refine ⟨answer.trans ?_, kept, current⟩
    cases c.compareFresh host a b <;> rfl

/-- Whatever calls were made, each has its answer, every kept key is the one that would be computed
anew, and the locale is the one before. -/
theorem answered_makeAll (calls : List CollatorCall) {s : CollationState}
    (fresh : s.FreshOn host c) :
    let made := makeAll c host calls s
    List.Forall₂ (Answered c host) calls made.1 ∧ made.2.FreshOn host c ∧
      made.2.current = s.current := by
  induction calls generalizing s with
  | nil => exact ⟨.nil, fresh, rfl⟩
  | cons call rest ih =>
    obtain ⟨answer, kept, current⟩ := answered_make call fresh
    obtain ⟨answers, kept', current'⟩ := ih kept
    exact ⟨.cons answer answers, kept', current'.trans current⟩

end CollatorCall

end FieldOrder
