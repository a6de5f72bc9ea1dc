import FieldOrder.Proofs.Patch.Analysis
import FieldOrder.Proofs.Patch.Layout

namespace FieldOrder

namespace Patch
variable {text : String} {fields : List Field} {order : List Nat}

/-- The edit puts the text of the field that belongs at a position in the place of the one there. -/
def Moves (text : String) (fields : List Field) (order : List Nat) (position : Nat) (e : Edit) :
    Prop :=
  ∃ i target source, order[position]? = some i ∧ fields[position]? = some target ∧
    fields[i]? = some source ∧ e.range.start = target.start ∧ e.range.stop = target.stop ∧
    e.replacement = source.textIn text

theorem exists_moveTo (laidOut : LaidOut text fields) {position i : Nat} {target source : Field}
    (ho : order[position]? = some i) (ht : fields[position]? = some target)
    (hs : fields[i]? = some source) :
    ∃ e, moveTo text fields order position = .ok e ∧ e.range.start = target.start ∧
      e.range.stop = target.stop ∧ e.replacement = source.textIn text := by
  have width := laidOut.start_le_stop target (List.mem_of_getElem? ht)
  refine ⟨⟨⟨target.start, target.stop, width⟩, source.textIn text⟩, ?_, rfl, rfl, rfl⟩
  simp only [moveTo, entry, ho, ht, hs]
  exact congrArg (Except.mapError PatchError.range) (Edit.replace_eq_ok width _)

/-- From a position on: each moved field has one edit, and the edits put the fields in order. -/
theorem exists_moves (laidOut : LaidOut text fields) {k : Nat} {fs : List Field} {os : List Nat}
    (hf : fields.drop k = fs) (ho : order.drop k = os) (lengths : fs.length = os.length)
    (inList : ∀ i ∈ os, i < fields.length) :
    let moved := ((os.zipIdx k).filter fun (source, position) => position != source).map (·.2)
    ∃ edits, moved.mapM (moveTo text fields order) = .ok edits ∧
      Writes text fs ((os.filterMap (fields[·]?)).map (·.textIn text)) edits ∧
      List.Forall₂ (Moves text fields order) moved edits := by
  -- The lists are suffixes of those that the edits read, by position; `k` is where they start.
  induction os generalizing k fs with
  | nil =>
    cases List.eq_nil_of_length_eq_zero lengths
    exact ⟨[], rfl, .nil, .nil⟩
  | cons i os ih =>
    obtain ⟨target, fs, rfl⟩ := List.exists_cons_of_length_eq_add_one lengths
    obtain ⟨hi, hos⟩ := List.forall_mem_cons.mp inList
    have hk : fields[k]? = some target := by
      rw [← List.head?_drop, hf]
      rfl
    have hk' : order[k]? = some i := by
      rw [← List.head?_drop, ho]
      rfl
    have hs := List.getElem?_eq_getElem hi
    have hf' : fields.drop (k + 1) = fs := by
      rw [← List.drop_drop, hf]
      rfl
    have ho' : order.drop (k + 1) = os := by
      rw [← List.drop_drop, ho]
      rfl
    obtain ⟨edits, eq, writes, moves⟩ := ih hf' ho' (by simpa using lengths) hos
    rw [List.filterMap_cons_some hs, List.map_cons, List.zipIdx_cons]
    by_cases stays : k = i
    · subst stays
      refine ⟨edits, ?_, ?_, ?_⟩
      · simpa using eq
      · rw [Option.some.inj (hs.symm.trans hk)]
        exact writes.keep
      · simpa using moves
    · obtain ⟨e, move, start, stop, replacement⟩ := exists_moveTo laidOut hk' hk hs
      refine ⟨e :: edits, ?_, ?_, ?_⟩
      · simp [stays, move, eq]
        rfl
      · rw [← replacement]
        exact writes.move start stop
      · simpa [stays] using And.intro
          ⟨i, target, fields[i], hk', hk, hs, start, stop, replacement⟩ moves

theorem exists_synthesize_positional (laidOut : LaidOut text fields)
    (perm : order.Perm (List.range fields.length)) (separator : String) :
    ∃ edits, synthesize text fields order .positional separator = .ok edits ∧
      Writes text fields ((order.filterMap (fields[·]?)).map (·.textIn text)) edits ∧
      List.Forall₂ (Moves text fields order) (movedPositions order) edits := by
  have lengths : fields.length = order.length := by simpa using perm.length_eq.symm
  have inList (i : Nat) (hi : i ∈ order) : i < fields.length :=
    List.mem_range.mp (perm.mem_iff.mp hi)
  obtain ⟨edits, eq, writes, moves⟩ := exists_moves (k := 0) laidOut rfl rfl lengths inList
  refine ⟨edits, ?_, writes, moves⟩
  change (movedPositions order).mapM (moveTo text fields order) = .ok edits at eq
  rw [synthesize]
  split
  · next unmoved =>
    rw [unmoved] at eq
    exact eq
  · exact eq

end Patch

namespace Engine

/-- Fixing field by field always gives a text in which the fields stand in canonical order, with one
edit for each field that moves. -/
theorem analyzeKept_positional (e : Engine) (positional : e.style = .positional) (text : String)
    (fields : List Field) (laidOut : LaidOut text fields) (kept : CollationState)
    (faithful : kept.Faithful e.policy.collator) :
    let order := e.policy.sortOrder fields
    ∃ result, ((e.analyzeKept text fields true).run kept).1 = .ok result ∧ ∀ edits ∈ result,
      (∃ session stats, EditSession.addFix { text } edits = .ok (true, session) ∧
        session.apply = .ok (Patch.rearranged text fields order, stats)) ∧
      List.Forall₂ (Patch.Moves text fields order)
        ((List.range fields.length).filter fun k => order[k]? ≠ some k) edits ∧
      (Patch.rearranged text fields order).length = text.length := by
  intro order
  have perm : order.Perm (List.range fields.length) := e.policy.sortOrder_perm fields
  have count : order.length = fields.length := by simpa using perm.length_eq
  obtain ⟨edits, eq, writes, moves⟩ :=
    Patch.exists_synthesize_positional laidOut perm e.separator
  rw [(e.analyzeKept_yields text fields true kept faithful).1, analysis]
  split
  · exact ⟨none, rfl, by simp⟩
  · split
    · exact ⟨none, rfl, by simp⟩
    · next moved =>
      refine ⟨some edits, ?_, ?_⟩
      · rw [positional]
        exact congrArg (Except.map some) eq
      · rintro _ ⟨⟩
        -- No edits can be merged to none, but here some field moves.
        have nonempty : edits ≠ [] := by
          rintro rfl
          cases h : movedPositions order with
          | nil => exact moved (by simp [isIdentity, order, h])
          | cons k ks => simp [h] at moves
        refine ⟨?_, ?_, ?_⟩
        · rw [Patch.rearranged, ← writes.substitute_eq laidOut]
          exact EditSession.apply_addFix text nonempty (writes.in_order laidOut)
            (writes.in_text laidOut)
        · rw [← count, ← movedPositions_eq_filter]
          exact moves
        · rw [← String.length_toList, ← String.length_toList]
          exact (Patch.rearranged_perm laidOut perm).length_eq

theorem analyzeKept_positional_rest :
    let e : Engine := { policy := {}, style := .positional }
    let text := "...r, b: 1 /* x */ a"
    let fields : List Field := [{ kind := .rest, start := 0, stop := 4 },
      { name := some "b", start := 6, stop := 10 }, { name := some "a", start := 19, stop := 20 }]
    LaidOut text fields ∧ ∃ edits session stats, e.analyze text fields true = .ok (some edits) ∧
      edits.length = 2 ∧ EditSession.addFix { text } edits = .ok (true, session) ∧
      session.apply = .ok ("a, b: 1 /* x */ ...r", stats) := by
  intro e text fields
  have laidOut : LaidOut text fields := by decide
  have order : e.policy.sortOrder fields = [2, 1, 0] := by decide +kernel
  have result : Patch.rearranged text fields [2, 1, 0] = "a, b: 1 /* x */ ...r" := by
    decide +kernel
  obtain ⟨found, eq, fixed⟩ := e.analyzeKept_positional rfl text fields laidOut {}
    (CollationState.faithful_initial _)
  cases found with
  | none =>
    have moved : e.analyze text fields true ≠ .ok none := by decide +kernel
    exact absurd eq moved
  | some edits =>
    obtain ⟨⟨session, stats, accepted, applied⟩, moves, -⟩ := fixed edits rfl
    rw [order, result] at applied
    rw [order] at moves
    exact ⟨laidOut, edits, session, stats, eq, moves.length_eq.symm, accepted, applied⟩

end Engine

end FieldOrder
