import FieldOrder.Proofs.Computation
import FieldOrder.Proofs.Order.Canonical
import FieldOrder.Proofs.Order.Effectful
import FieldOrder.Proofs.Order.Settled

namespace FieldOrder

section
variable {α ε : Type}

theorem isSortedBy_eq_ok_true {compare : α → α → Except ε Ordering} {xs : List α} :
    isSortedBy compare xs = .ok true ↔
      xs.IsChain fun a b => ∃ o, compare a b = .ok o ∧ o ≠ .gt := by
  induction xs with
  | nil => simp [isSortedBy, pure_eq_ok]
  | cons x xs ih =>
    cases xs with
    | nil => simp [isSortedBy, pure_eq_ok]
    | cons y rest =>
      rw [List.isChain_cons_cons, ← ih, isSortedBy]
      cases compare x y with
      | error e => simp [error_bind]
      | ok o => cases o <;> simp [ok_bind, pure_eq_ok]

theorem firstDecision_swap {judge judge' : α → Except ε Ordering} {cs : List α}
    (swapped : ∀ c, judge c = (judge' c).map .swap) :
    Policy.firstDecision judge cs = (Policy.firstDecision judge' cs).map .swap := by
  induction cs with
  | nil => rfl
  | cons c rest ih =>
    rw [Policy.firstDecision, Policy.firstDecision, swapped]
    rcases judge' c with e | o
    · rfl
    · cases o with
      | eq => exact ih
      | lt => rfl
      | gt => rfl

section
variable {lessM : α → α → Except ε Bool} {less : α → α → Bool}
  (sound : ∀ a b v, lessM a b = .ok v → v = less a b)
include sound

theorem isChain_of_splitRun {descending : Bool} {last : α} {rest : List α} {parts : List α × List α}
    (chain : (last :: rest).IsChain fun a b => less b a = descending)
    (ran : splitRun lessM descending last rest = .ok parts) :
    (last :: rest).IsChain fun a b => lessM b a = .ok descending := by
  induction rest generalizing last parts with
  | nil => exact .singleton _
  | cons x rest ih =>
    obtain ⟨goesOn, later⟩ := List.isChain_cons_cons.mp chain
    obtain ⟨v, compared, ran⟩ := bind_eq_ok.mp ran
    obtain rfl : v = descending := (sound x last v compared).trans goesOn
    rw [if_pos (beq_self_eq_true v)] at ran
    obtain ⟨parts, ran, -⟩ := bind_eq_ok.mp ran
    exact .cons_cons compared (ih later ran)

theorem isChain_of_sortBy {xs sorted : List α} (chain : xs.IsChain fun a b => less b a = false)
    (ran : sortBy lessM xs = .ok sorted) : xs.IsChain fun a b => lessM b a = .ok false := by
  match xs, chain, ran with
  | [], _, _ => exact .nil
  | [x], _, _ => exact .singleton x
  | x :: y :: rest, chain, ran =>
    obtain ⟨ascends, later⟩ := List.isChain_cons_cons.mp chain
    obtain ⟨v, compared, ran⟩ := bind_eq_ok.mp ran
    obtain rfl : v = false := (sound y x v compared).trans ascends
    obtain ⟨parts, ran, -⟩ := bind_eq_ok.mp ran
    exact .cons_cons compared (isChain_of_splitRun sound later ran)

end

end

namespace Collator

theorem compare_swap (c : Collator) (a b : String) : c.compare a b = (c.compare b a).swap := by
  rw [compare_eq_sortKey, compare_eq_sortKey]
  exact Std.OrientedOrd.eq_swap

theorem check_swap (c : Collator) (a b : String) : c.check [a, b] = c.check [b, a] := by
  simp [check, Bool.or_comm]

end Collator

namespace Policy

theorem compareChecked_sound (p : Policy) (a b : Field) :
    ∀ o, p.compareChecked a b = .ok o → o = p.compare a b := by
  let G : Giving (Except LocaleError) := .unlessError LocaleError
  have names (na nb : String) :
      G.Gives (p.collator.check [na, nb] >>= fun _ => pure (p.collator.compare na nb))
        (p.collator.compare na nb) := by
    intro o ran
    obtain ⟨_, -, compared⟩ := bind_eq_ok.mp ran
    exact (pure_eq_ok.mp compared).symm
  exact compareWith_gives fun _ na _ nb _ => names na nb

theorem compareChecked_swap (p : Policy) (a b : Field) :
    p.compareChecked a b = (p.compareChecked b a).map .swap := by
  rw [compareChecked, compareChecked, compareWith, compareWith, Bool.or_comm b.isRest]
  split
  · exact congrArg Except.ok (split_swap ..)
  · cases a.name with
    | none => cases b.name <;> rfl
    | some na =>
      cases b.name with
      | none => rfl
      | some nb =>
        refine firstDecision_swap fun c => ?_
        cases c with
        | names =>
          rw [judge, judge, p.collator.check_swap, p.collator.compare_swap]
          cases p.collator.check [nb, na] <;> rfl
        | _ => exact congrArg Except.ok (split_swap ..)

theorem compareChecked_eq_swap (p : Policy) {a b : Field} {o : Ordering}
    (compared : p.compareChecked a b = .ok o) : p.compareChecked b a = .ok o.swap := by
  rw [p.compareChecked_swap, compared]
  rfl

theorem sortOrderBy_sound (p : Policy) {fields : List Field} {order : List Nat}
    (ran : sortOrderBy p.compareChecked fields = .ok order) : order = p.sortOrder fields :=
  sortOrderBy_gives (G := .unlessError _) (P := fun _ => True)
    (fun a b _ _ => p.compareChecked_sound a b) (fun _ _ => trivial) order ran

theorem isChain_of_sortOrderBy (p : Policy) {fields : List Field} {order : List Nat}
    (ordered : p.isOrdered fields = true) (ran : sortOrderBy p.compareChecked fields = .ok order) :
    fields.IsChain fun a b => ∃ o, p.compareChecked b a = .ok o ∧ o ≠ .lt := by
  have chain := (p.isOrdered_iff_isChain fields).mp ordered
  rw [← List.zipIdx_map_fst 0 fields, List.isChain_map] at chain ⊢
  obtain ⟨sorted, ran, -⟩ := bind_eq_ok.mp ran
  let less (a b : Field × Nat) : Bool := p.compare a.1 b.1 == .lt
  have ascends : fields.zipIdx.IsChain fun a b => less b a = false := by
    refine chain.imp fun a b notGreater => ?_
    simp only [less, p.compare_swap b.1]
    cases h : p.compare a.1 b.1 <;> simp_all
  refine (isChain_of_sortBy (fun a b v ran => ?_) ascends ran).imp fun a b ran => ?_
  · obtain ⟨o, compared, decided⟩ := bind_eq_ok.mp ran
    simp only [less, ← p.compareChecked_sound a.1 b.1 o compared]
    cases o <;> exact (pure_eq_ok.mp decided).symm
  · obtain ⟨o, compared, decided⟩ := bind_eq_ok.mp ran
    refine ⟨o, compared, ?_⟩
    rintro rfl
    cases pure_eq_ok.mp decided

/-- The check and the sort agree, and where the one fails the other does not say that the list is in
order. -/
theorem isSortedBy_checked_iff (p : Policy) (fields : List Field) :
    isSortedBy p.compareChecked fields = .ok true ↔
      sortOrderBy p.compareChecked fields = .ok (List.range fields.length) := by
  rw [isSortedBy_eq_ok_true]
  constructor
  · intro chain
    refine sortOrderBy_of_isChain (chain.imp fun a b ⟨o, compared, notGreater⟩ => ?_)
    exact ⟨o.swap, p.compareChecked_eq_swap compared, by cases o <;> simp_all⟩
  · intro ran
    have order := (p.sortOrderBy_sound ran).symm
    have ordered := (p.isOrdered_iff_sortOrder fields).mpr order
    refine (p.isChain_of_sortOrderBy ordered ran).imp fun a b ⟨o, compared, notLess⟩ => ?_
    exact ⟨o.swap, p.compareChecked_eq_swap compared, by cases o <;> simp_all⟩

/-- Names are compared as a locale does, and one of them has no collation key there. -/
def LacksKey (p : Policy) (fields : List Field) : Prop :=
  p.alphabetical = true ∧ p.collator.locale.isSome = true ∧
    ∃ f ∈ fields, ∃ name ∈ f.name, '\x00' ∈ name.toList

instance (p : Policy) (fields : List Field) : Decidable (p.LacksKey fields) :=
  inferInstanceAs (Decidable (_ ∧ _ ∧ _))

theorem alphabetical_of_names_mem {p : Policy} (h : .names ∈ p.criteria) :
    p.alphabetical = true := by
  rw [criteria_eq_filter] at h
  exact (List.mem_filter.mp h).2

theorem checkNames_of_lacksKey {p : Policy} {fields : List Field} (h : p.LacksKey fields) :
    p.checkNames fields = .error .holdsNul := by
  obtain ⟨alphabetical, locale, f, hf, name, hname, nul⟩ := h
  have mem : name ∈ fields.filterMap (·.name) := List.mem_filterMap.mpr ⟨f, hf, hname⟩
  have found : (fields.filterMap (·.name)).any (·.toList.contains '\x00') = true :=
    List.any_eq_true.mpr ⟨name, mem, List.contains_iff_mem.mpr nul⟩
  rw [checkNames, if_pos alphabetical, Collator.check, locale, found]
  rfl

theorem primeChecked_of_lacksKey {p : Policy} {fields : List Field} (h : p.LacksKey fields)
    (kept : CollationState) : (p.primeChecked fields).run kept = .error .holdsNul := by
  simp only [primeChecked, checkNames_of_lacksKey h]
  rfl

section
variable {p : Policy} {fields : List Field} (h : ¬ p.LacksKey fields)
include h

theorem check_of_not_lacksKey (alphabetical : p.alphabetical = true) {names : List String}
    (within : ∀ name ∈ names, ∃ f ∈ fields, name ∈ f.name) : p.collator.check names = .ok () := by
  rw [Collator.check, if_neg]
  intro found
  obtain ⟨locale, nul⟩ := Bool.and_eq_true_iff.mp found
  obtain ⟨name, mem, nul⟩ := List.any_eq_true.mp nul
  obtain ⟨f, hf, hname⟩ := within name mem
  exact h ⟨alphabetical, locale, f, hf, name, hname, List.contains_iff_mem.mp nul⟩

theorem checkNames_of_not_lacksKey : p.checkNames fields = .ok () := by
  rw [checkNames]
  split
  · next alphabetical =>
    exact check_of_not_lacksKey h alphabetical fun name mem => List.mem_filterMap.mp mem
  · rfl

theorem primeChecked_of_not_lacksKey (kept : CollationState) :
    (p.primeChecked fields).run kept = .ok ((), ((p.prime fields).run kept).2) := by
  simp only [primeChecked, checkNames_of_not_lacksKey h]
  rfl

theorem compareChecked_of_not_lacksKey {a b : Field} (ha : a ∈ fields) (hb : b ∈ fields) :
    p.compareChecked a b = .ok (p.compare a b) := by
  let G : Giving (Except LocaleError) := .success LocaleError
  have names (asked : .names ∈ p.criteria) (na : String) (hna : na ∈ a.name) (nb : String)
      (hnb : nb ∈ b.name) :
      G.Gives (p.collator.check [na, nb] >>= fun _ => pure (p.collator.compare na nb))
        (p.collator.compare na nb) := by
    rw [check_of_not_lacksKey h (alphabetical_of_names_mem asked)]
    · rfl
    · intro name mem
      rcases List.mem_pair.mp mem with rfl | rfl
      · exact ⟨a, ha, hna⟩
      · exact ⟨b, hb, hnb⟩
  exact compareWith_gives names

theorem isSortedBy_of_not_lacksKey :
    isSortedBy p.compareChecked fields = .ok (p.isOrdered fields) :=
  isSortedBy_gives (G := .success _) (P := (· ∈ fields))
    (fun _ _ ha hb => compareChecked_of_not_lacksKey h ha hb) fun _ => id

theorem sortOrderBy_of_not_lacksKey :
    sortOrderBy p.compareChecked fields = .ok (p.sortOrder fields) :=
  sortOrderBy_gives (G := .success _) (P := (· ∈ fields))
    (fun _ _ ha hb => compareChecked_of_not_lacksKey h ha hb) fun _ => id

end

end Policy

end FieldOrder
