import FieldOrder.Edit.Call
import FieldOrder.Proofs.Computation
import FieldOrder.Proofs.Edit.Length

namespace FieldOrder

namespace Call
variable {α β : Type} {s s' : EditSession} {edits : List Edit} {answer : Except MergeError Bool}

theorem runOn_bind (x : Call α) (f : α → Call β) (s : EditSession) :
    (x >>= f).runOn s = match x.runOn s with
      | (.ok a, s') => (f a).runOn s'
      | (.error e, s') => (.error e, s') := by
  unfold runOn
  rw [run_run_bind]
  rcases StateT.run (ExceptT.run x) s with ⟨_ | _, s'⟩
  · rfl
  · rfl

theorem runOn_get (s : EditSession) : (get : Call EditSession).runOn s = (.ok s, s) := rfl

theorem runOn_merge (edits : List Edit) (s : EditSession) :
    (merge edits).runOn s = (Edit.merge s.text edits, s) := rfl

theorem runOn_add_of_error {e : MergeError} (failed : Edit.merge s.text edits = .error e) :
    (add edits).runOn s = (.error e, s) := by
  rw [add, runOn_bind, runOn_merge, failed]

theorem runOn_add_of_ok {merged : Edit} (merges : Edit.merge s.text edits = .ok merged) :
    (add edits).runOn s =
      if s.accepted.any fun e => merged.range.overlaps e.range then (.ok false, s)
      else (.ok true, { s with accepted := s.accepted ++ [merged] }) := by
  rw [add, runOn_bind, runOn_merge, merges]
  simp only [runOn_bind, runOn_get]
  split
  · rfl
  · rfl

theorem runOn_add (edits : List Edit) (s : EditSession) : (add edits).runOn s =
    match s.addFix edits with
    | .ok (taken, s') => (.ok taken, s')
    | .error e => (.error e, s) := by
  cases hm : Edit.merge s.text edits with
  | error e =>
    rw [runOn_add_of_error hm]
    simp only [EditSession.addFix, hm, bind, Except.bind]
  | ok merged =>
    rw [runOn_add_of_ok hm, EditSession.addFix_of_merge hm]
    split
    · rfl
    · rfl

/-- What a call to add a fix answers, and what it leaves of the session. -/
structure Adds (s : EditSession) (edits : List Edit) (answer : Except MergeError Bool)
    (s' : EditSession) : Prop where
  fails_iff : ∀ e, answer = .error e ↔ Edit.merge s.text edits = .error e
  rejects_iff : answer = .ok false ↔ ∃ merged, Edit.merge s.text edits = .ok merged ∧
    ∃ e ∈ s.accepted, merged.range.overlaps e.range = true
  unchanged : answer ≠ .ok true → s' = s
  appended : answer = .ok true → ∃ merged, Edit.merge s.text edits = .ok merged ∧
    s' = { s with accepted := s.accepted ++ [merged] }

theorem adds_of_runOn (h : (add edits).runOn s = (answer, s')) : Adds s edits answer s' := by
  cases hm : Edit.merge s.text edits with
  | error e =>
    obtain ⟨rfl, rfl⟩ := Prod.mk.inj ((runOn_add_of_error hm).symm.trans h)
    constructor
    · simp [hm]
    · simp [hm]
    · simp
    · simp
  | ok merged =>
    rw [runOn_add_of_ok hm] at h
    by_cases conflict : s.accepted.any fun e => merged.range.overlaps e.range
    · obtain ⟨rfl, rfl⟩ := Prod.mk.inj ((if_pos conflict).symm.trans h)
      constructor
      · simp [hm]
      · simpa [hm] using conflict
      · simp
      · simp
    · obtain ⟨rfl, rfl⟩ := Prod.mk.inj ((if_neg conflict).symm.trans h)
      constructor
      · simp [hm]
      · simpa [hm] using conflict
      · simp
      · simp [hm]

theorem runOn_add_extends (edits : List Edit) (s : EditSession) :
    ∃ n, EditSession.Extends [edits] n s ((add edits).runOn s).2 := by
  rw [runOn_add]
  cases added : s.addFix edits with
  | error e => exact ⟨0, { EditSession.Extends.refl s with merged := fun _ => .inl }⟩
  | ok result => exact ⟨_, EditSession.Extends.addFix added⟩

theorem addAll_extends (fixes : List (List Edit)) (s : EditSession) :
    ∃ n, EditSession.Extends fixes n s (addAll fixes s).2 := by
  induction fixes generalizing s with
  | nil => exact ⟨0, .refl s⟩
  | cons edits rest ih =>
    obtain ⟨n, first⟩ := runOn_add_extends edits s
    obtain ⟨m, later⟩ := ih ((add edits).runOn s).2
    exact ⟨n + m, first.trans later⟩

/-- Fixes whose merged edits are apart are all accepted. -/
theorem addAll_of_apart {text : String} (accepted : List Edit) {merged : List Edit}
    {fixes : List (List Edit)}
    (merges : List.Forall₂ (fun edits e => Edit.merge text edits = .ok e) fixes merged)
    (apart : (accepted ++ merged).Pairwise fun e f => e.range.overlaps f.range = false) :
    addAll fixes { text, accepted } =
      (fixes.map fun _ => .ok true, { text, accepted := accepted ++ merged }) := by
  induction merges generalizing accepted with
  | nil => simp [addAll]
  | @cons edits e rest merged first merges ih =>
    have free : ¬ accepted.any fun f => e.range.overlaps f.range := by
      rw [List.any_eq_true]
      rintro ⟨f, hf, overlap⟩
      have clear := (List.pairwise_append.mp apart).2.2 f hf e List.mem_cons_self
      rw [TextRange.overlaps_comm, overlap] at clear
      cases clear
    rw [List.append_cons] at apart
    rw [addAll, runOn_add_of_ok first, if_neg free]
    simp only [ih _ apart, List.map_cons, ← List.append_cons]

end Call

namespace EditSession

theorem text_after (text : String) (fixes : List (List Edit)) : (after text fixes).text = text :=
  (Call.addAll_extends fixes { text }).choose_spec.text_eq

theorem after_of_apart {text : String} {fixes : List (List Edit)} {merged : List Edit}
    (merges : List.Forall₂ (fun edits e => Edit.merge text edits = .ok e) fixes merged)
    (apart : merged.Pairwise fun e f => e.range.overlaps f.range = false) :
    after text fixes = { text, accepted := merged } := by
  rw [after, Call.addAll_of_apart [] merges apart, List.nil_append]

theorem apart_after (text : String) (fixes : List (List Edit)) : (after text fixes).Apart :=
  (Call.addAll_extends fixes { text }).choose_spec.apart (apart_initial text)

/-- After any calls the accepted fixes are apart. A further call is rejected exactly if its merged
edit overlaps an accepted one, fails exactly if its edits cannot be merged, and otherwise adds the
merged edit and nothing else. If the accepted fixes lie in the text, they make it longer by what
they add, less what they remove. -/
theorem after_invariant (text : String) (fixes : List (List Edit)) :
    (after text fixes).Apart ∧
      (∀ edits, let call := (Call.add edits).runOn (after text fixes)
        Call.Adds (after text fixes) edits call.1 call.2) ∧
      ((∀ e ∈ (after text fixes).accepted, 0 ≤ e.range.start ∧ e.range.stop ≤ text.length) →
        ∃ fixed stats, (after text fixes).apply = .ok (fixed, stats) ∧
          (fixed.length : Int) = text.length - stats.removed + stats.added) := by
  have same := text_after text fixes
  have apart := apart_after text fixes
  refine ⟨apart, fun edits => Call.adds_of_runOn rfl, fun inText => ?_⟩
  obtain ⟨fixed, stats, applied, length⟩ := exists_apply_length apart (by rw [same]; exact inText)
  rw [same] at length
  exact ⟨fixed, stats, applied, length⟩

def mixedCalls : List (List Edit) :=
  [[.putX], [], [.bToY], [.abcToZ], [.abcToZ, .bToY]]

theorem addAll_mixedCalls : Call.addAll mixedCalls { text := "abcd" } =
    ([.ok true, .error .noEdits, .ok true, .ok false, .error (.overlapAt 1)],
      { text := "abcd", accepted := [.putX, .bToY] }) := by
  have single (s : EditSession) (e : Edit) := Call.runOn_add_of_ok (Edit.merge_singleton s.text e)
  have nothing : Edit.merge "abcd" [] = .error .noEdits := by simp [Edit.merge]
  have crossing : Edit.merge "abcd" [.abcToZ, .bToY] = .error (.overlapAt 1) := by
    rw [Edit.merge, List.mergeSort_of_pairwise (by decide)]
    rfl
  have apart : Edit.bToY.range.overlaps Edit.putX.range = false := by decide
  have overlap : Edit.abcToZ.range.overlaps Edit.bToY.range = true := by decide
  simp [mixedCalls, Call.addAll, single, Call.runOn_add_of_error, nothing, crossing, apart,
    overlap]

theorem after_invariant_mixedCalls :
    (∀ e ∈ (after "abcd" mixedCalls).accepted,
        0 ≤ e.range.start ∧ e.range.stop ≤ "abcd".length) ∧
      ∃ fixed stats, (after "abcd" mixedCalls).apply = .ok (fixed, stats) ∧
        (fixed.length : Int) = "abcd".length - stats.removed + stats.added := by
  have inText : ∀ e ∈ (after "abcd" mixedCalls).accepted,
      0 ≤ e.range.start ∧ e.range.stop ≤ "abcd".length := by
    rw [after, addAll_mixedCalls]
    decide
  obtain ⟨-, -, length⟩ := after_invariant "abcd" mixedCalls
  exact ⟨inText, length inText⟩

end EditSession

end FieldOrder
