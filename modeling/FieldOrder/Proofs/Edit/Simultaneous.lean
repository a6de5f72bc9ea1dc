import FieldOrder.Proofs.Edit.Arranged
import FieldOrder.Proofs.Edit.Calls

namespace FieldOrder

namespace Edit
variable {text : String} {edits : List Edit}

/-- Edits lie one behind another in the text. -/
structure InOrder (text : String) (edits : List Edit) : Prop where
  before : edits.Pairwise Before
  in_text : ∀ e ∈ edits, 0 ≤ e.range.start ∧ e.range.stop ≤ text.length

/-- Carrying out an edit after others that lie behind it. -/
theorem applyTo_substitute {e : Edit} {rest : List Edit} (start : 0 ≤ e.range.start)
    (stop : e.range.stop ≤ text.length) (behind : ∀ f ∈ rest, e.Before f) :
    e.applyTo (substitute text rest) = substitute text (e :: rest) := by
  have width := e.range.start_le_stop
  have split : substitute text rest =
      Text.sliceTo text e.range.stop ++ substituteFrom text e.range.stop rest := by
    rw [substitute, substituteFrom_split text (Int.le_refl 0) (by omega) behind, Text.slice_zero]
  rw [applyTo, split, Text.sliceTo_append text start width stop,
    Text.sliceFrom_append text (by omega) stop,
    substitute, substituteFrom, Text.slice_zero]

/-- Carrying out edits from the last to the first is carrying them out all at once. -/
theorem foldr_applyTo (inOrder : InOrder text edits) :
    edits.foldr (fun e text => e.applyTo text) text = substitute text edits := by
  induction edits with
  | nil => simp [substitute, substituteFrom]
  | cons e rest ih =>
    obtain ⟨behind, before⟩ := List.pairwise_cons.mp inOrder.before
    obtain ⟨⟨start, stop⟩, inText⟩ := List.forall_mem_cons.mp inOrder.in_text
    rw [List.foldr_cons, ih ⟨before, inText⟩, applyTo_substitute start stop behind]

theorem exists_insertions (text : String) {pos next : Int} (before : edits.Pairwise Before)
    (place : ∀ e ∈ edits,
      next ≤ e.range.start ∨ e.range.start = pos ∧ e.range.stop = pos) :
    ∃ inserted behind, behind.Sublist edits ∧ (∀ e ∈ behind, next ≤ e.range.start) ∧
      (∀ e ∈ edits, e.range.start < e.range.stop → e ∈ behind) ∧
      substituteFrom text pos edits = inserted ++ substituteFrom text pos behind := by
  induction edits with
  | nil => exact ⟨"", [], .refl _, by simp, by simp, by simp⟩
  | cons e rest ih =>
    obtain ⟨behindFirst, before⟩ := List.pairwise_cons.mp before
    obtain ⟨first, place⟩ := List.forall_mem_cons.mp place
    rcases first with late | ⟨start, stop⟩
    · -- All that follows lies behind this edit.
      refine ⟨"", e :: rest, .refl _, List.forall_mem_cons.mpr ⟨late, fun f hf => ?_⟩,
        fun f hf _ => hf, by simp⟩
      exact Int.le_trans late (Int.le_trans e.range.start_le_stop (behindFirst f hf))
    · obtain ⟨inserted, behind, sub, later, filled, split⟩ := ih before place
      refine ⟨e.replacement ++ inserted, behind, sub.cons e, later,
        List.forall_mem_cons.mpr ⟨fun width => ?_, filled⟩, ?_⟩
      · omega
      · rw [substituteFrom, start, stop, split, Text.slice_self, String.empty_append,
          String.append_assoc]

/-- Carrying out an edit after others of which some may have inserted at its start. It takes the
place of what was inserted there, as far as its range is wide, and of what is left of the range. -/
theorem exists_applyTo_substitute {e : Edit} {blocks : List Edit} (start : 0 ≤ e.range.start)
    (stop : e.range.stop ≤ text.length) (before : blocks.Pairwise Before)
    (place : ∀ b ∈ blocks, e.range.stop ≤ b.range.start ∨
      b.range.start = e.range.start ∧ b.range.stop = e.range.start) :
    ∃ block behind, block.range = e.range ∧ behind.Sublist blocks ∧
      (∀ b ∈ behind, block.Before b) ∧
      (∀ b ∈ blocks, b.range.start < b.range.stop → b ∈ behind) ∧
      e.applyTo (substitute text blocks) = substitute text (block :: behind) := by
  have width := e.range.start_le_stop
  have first (b : Edit) (hb : b ∈ blocks) : e.range.start ≤ b.range.start := by
    have := place b hb
    omega
  obtain ⟨inserted, behind, sub, later, filled, split⟩ := exists_insertions text before place
  -- What the range of the edit meets by now: first what was inserted at its start.
  let met := inserted ++ Text.slice text e.range.start e.range.stop
  have parts : substitute text blocks = Text.sliceTo text e.range.start ++
      (met ++ substituteFrom text e.range.stop behind) := by
    rw [substitute, substituteFrom_split text (Int.le_refl 0) start first, Text.slice_zero, split,
      substituteFrom_split text start width later]
    simp only [met, String.append_assoc]
  have wide : e.range.stop - e.range.start ≤ met.length := by
    have size : text.toList.length = text.length := String.length_toList
    rw [String.length_append, ← String.length_toList (s := Text.slice _ _ _),
      Text.toList_slice_of_le text start width stop, List.length_drop, List.length_take, size]
    omega
  refine ⟨⟨e.range, e.replacement ++
    .ofList (met.toList.drop (e.range.stop - e.range.start).toNat)⟩, behind, rfl, sub, later,
    filled, ?_⟩
  rw [applyTo, parts,
    Text.sliceTo_append text start (Int.le_refl _) (Int.le_trans width stop),
    Text.sliceFrom_append_of_le text start width (Int.le_trans width stop) _ _ wide,
    substitute, substituteFrom, Text.slice_zero]
  simp only [String.append_assoc]

/-- Edits one behind another that stand in the places of others: each has the range of one of them,
and the ranges that are not empty are all there. -/
structure InPlaceOf (text : String) (edits blocks : List Edit) : Prop where
  inOrder : InOrder text blocks
  range : ∀ b ∈ blocks, ∃ e ∈ edits, e.range = b.range
  filled : ∀ e ∈ edits, e.range.start < e.range.stop → ∃ b ∈ blocks, b.range = e.range

namespace InPlaceOf
variable {blocks edits' : List Edit}

theorem refl (inOrder : InOrder text edits) : InPlaceOf text edits edits where
  inOrder := inOrder
  range b hb := ⟨b, hb, rfl⟩
  filled e he _ := ⟨e, he, rfl⟩

theorem of_perm (perm : edits.Perm edits') (h : InPlaceOf text edits blocks) :
    InPlaceOf text edits' blocks where
  inOrder := h.inOrder
  range b hb := (h.range b hb).imp fun _ ⟨he, same⟩ => ⟨perm.subset he, same⟩
  filled e he := h.filled e (perm.symm.subset he)

end InPlaceOf

/-- Carrying out edits that do not overlap, from the last to the first, leaves what is outside. -/
theorem exists_inPlaceOf (loosely : edits.Pairwise LooselyBefore)
    (inText : ∀ e ∈ edits, 0 ≤ e.range.start ∧ e.range.stop ≤ text.length) :
    ∃ blocks, InPlaceOf text edits blocks ∧
      edits.foldr (fun e text => e.applyTo text) text = substitute text blocks := by
  induction edits with
  | nil => exact ⟨[], .refl ⟨.nil, by simp⟩, by simp [substitute, substituteFrom]⟩
  | cons e rest ih =>
    obtain ⟨before, loosely⟩ := List.pairwise_cons.mp loosely
    obtain ⟨⟨start, stop⟩, inText⟩ := List.forall_mem_cons.mp inText
    obtain ⟨blocks, places, result⟩ := ih loosely inText
    -- Later edits are carried out already; those that start with this one inserted there.
    have place (b : Edit) (hb : b ∈ blocks) : e.range.stop ≤ b.range.start ∨
        b.range.start = e.range.start ∧ b.range.stop = e.range.start := by
      obtain ⟨f, hf, same⟩ := places.range b hb
      rcases before f hf with behind | ⟨at_, empty, -⟩
      · exact .inl (same ▸ behind)
      · exact .inr (same ▸ ⟨at_, empty⟩)
    obtain ⟨block, behind, range, sub, later, filled, step⟩ :=
      exists_applyTo_substitute start stop places.inOrder.before place
    refine ⟨block :: behind, ⟨⟨?_, ?_⟩, ?_, ?_⟩, ?_⟩
    · exact List.pairwise_cons.mpr ⟨later, places.inOrder.before.sublist sub⟩
    · exact List.forall_mem_cons.mpr ⟨range ▸ ⟨start, stop⟩, fun b hb =>
        places.inOrder.in_text b (sub.subset hb)⟩
    · refine List.forall_mem_cons.mpr ⟨⟨e, List.mem_cons_self, range.symm⟩, fun b hb => ?_⟩
      obtain ⟨f, hf, same⟩ := places.range b (sub.subset hb)
      exact ⟨f, List.mem_cons_of_mem e hf, same⟩
    · refine List.forall_mem_cons.mpr ⟨fun _ => ⟨block, List.mem_cons_self, range⟩,
        fun f hf width => ?_⟩
      obtain ⟨b, hb, same⟩ := places.filled f hf width
      exact ⟨b, List.mem_cons_of_mem _ (filled b hb (same ▸ width)), same⟩
    · rw [List.foldr_cons, result, step]

end Edit

namespace EditSession
variable {s : EditSession}

theorem in_text_of_boundsErrors (h : s.boundsErrors = []) :
    ∀ e ∈ s.accepted, 0 ≤ e.range.start ∧ e.range.stop ≤ s.text.length := by
  intro e he
  obtain ⟨i, hi, at_⟩ := List.mem_iff_getElem.mp he
  have none := List.flatMap_eq_nil_iff.mp h (e, i) (by
    rw [List.mem_zipIdx_iff_getElem?]
    simp [hi, at_])
  simp only [boundsOf, List.append_eq_nil_iff, ite_eq_right_iff] at none
  obtain ⟨low, high⟩ := none
  exact ⟨Int.not_lt.mp fun h => List.cons_ne_nil _ _ (low h),
    Int.not_lt.mp fun h => List.cons_ne_nil _ _ (high h)⟩

theorem inOrder_fromStart (apart : s.Apart)
    (steady : s.accepted.Pairwise fun e f => ¬ e.InsertsAtStart f)
    (inText : ∀ e ∈ s.accepted, 0 ≤ e.range.start ∧ e.range.stop ≤ s.text.length) :
    Edit.InOrder s.text s.fromStart where
  before := fromStart_before_iff.mpr ⟨apart, steady⟩
  in_text e he := inText e (s.fromStart_perm.subset he)

/-- A session of fixes that are apart and not empty carries them out all at once. -/
theorem exists_substitute_of_apply (apart : s.Apart)
    (nonempty : ∀ e ∈ s.accepted, e.range.start < e.range.stop) {fixed : String}
    {stats : EditStats} (h : s.apply = .ok (fixed, stats)) :
    ∃ edits, edits.Perm s.accepted ∧ Edit.InOrder s.text edits ∧
      fixed = Edit.substitute s.text edits := by
  rw [apply] at h
  split at h
  · next bounds =>
    cases h
    have steady := (Edit.pairwise_not_insertsAtStart nonempty).imp And.left
    have inOrder := inOrder_fromStart apart steady (in_text_of_boundsErrors bounds)
    refine ⟨s.fromStart, s.fromStart_perm, inOrder, ?_⟩
    rw [← Edit.foldr_applyTo inOrder, fromStart, List.foldr_reverse]
  · cases h

/-- After any calls, if the accepted fixes lie in the text, they are carried out all at once, and
what lies outside their ranges stays as it is. If no insertion was accepted before a fix that starts
at its place, what is carried out is these fixes: each puts its replacement in the place of its
range. -/
theorem exists_apply_after (text : String) (fixes : List (List Edit))
    (inText : ∀ e ∈ (after text fixes).accepted,
      0 ≤ e.range.start ∧ e.range.stop ≤ text.length) :
    ∃ blocks stats, (after text fixes).apply = .ok (Edit.substitute text blocks, stats) ∧
      Edit.InPlaceOf text (after text fixes).accepted blocks ∧
      (((after text fixes).accepted.Pairwise fun e f => ¬ e.InsertsAtStart f) →
        blocks.Perm (after text fixes).accepted) := by
  have same := text_after text fixes
  have apart := apart_after text fixes
  generalize after text fixes = s at *
  subst same
  have perm := s.fromStart_perm
  have applied := apply_eq_foldr inText
  by_cases steady : s.accepted.Pairwise fun e f => ¬ e.InsertsAtStart f
  · have inOrder := inOrder_fromStart apart steady inText
    rw [Edit.foldr_applyTo inOrder] at applied
    exact ⟨s.fromStart, s.stats, applied, (Edit.InPlaceOf.refl inOrder).of_perm perm,
      fun _ => perm⟩
  · have loosely := fromStart_looselyBefore_iff.mpr apart
    obtain ⟨blocks, places, result⟩ :=
      Edit.exists_inPlaceOf loosely fun e he => inText e (perm.subset he)
    rw [result] at applied
    exact ⟨blocks, s.stats, applied, places.of_perm perm, fun h => absurd h steady⟩

def insertionsLast : List (List Edit) := [[.bToY], [.putX], [.putX], [⟨⟨2, 4, by decide⟩, ""⟩]]

theorem after_insertionsLast : after "abcd" insertionsLast =
    { text := "abcd", accepted := [.bToY, .putX, .putX, ⟨⟨2, 4, by decide⟩, ""⟩] } := by
  refine after_of_apart ?_ (by decide)
  simp [insertionsLast, Edit.merge_singleton]

theorem exists_apply_after_insertionsLast :
    (∀ e ∈ (after "abcd" insertionsLast).accepted,
        0 ≤ e.range.start ∧ e.range.stop ≤ "abcd".length) ∧
      ((after "abcd" insertionsLast).accepted.Pairwise fun e f => ¬ e.InsertsAtStart f) ∧
      ∃ blocks stats, (after "abcd" insertionsLast).apply =
          .ok (Edit.substitute "abcd" blocks, stats) ∧
        Edit.InOrder "abcd" blocks ∧ blocks.Perm (after "abcd" insertionsLast).accepted := by
  have inText : ∀ e ∈ (after "abcd" insertionsLast).accepted,
      0 ≤ e.range.start ∧ e.range.stop ≤ "abcd".length := by
    rw [after_insertionsLast]
    decide
  have steady : (after "abcd" insertionsLast).accepted.Pairwise fun e f =>
      ¬ e.InsertsAtStart f := by
    rw [after_insertionsLast]
    decide
  obtain ⟨blocks, stats, applied, places, perm⟩ :=
    exists_apply_after "abcd" insertionsLast inText
  exact ⟨inText, steady, blocks, stats, applied, places.inOrder, perm steady⟩

/-- An insertion is lost if it was accepted before a fix that starts at its place: that fix puts its
replacement over what was inserted, and not over its range. -/
theorem apply_after_insertion_first :
    let s := after "abcd" [[.putX], [.bToY]]
    s.accepted = [.putX, .bToY] ∧
      (∀ e ∈ s.accepted, 0 ≤ e.range.start ∧ e.range.stop ≤ "abcd".length) ∧
      (∃ stats, s.apply = .ok ("aYbcd", stats)) ∧
      ∀ edits, edits.Perm s.accepted → Edit.InOrder "abcd" edits →
        Edit.substitute "abcd" edits = "aXYcd" := by
  have both : after "abcd" [[.putX], [.bToY]] = { text := "abcd", accepted := [.putX, .bToY] } := by
    refine after_of_apart ?_ (by decide)
    simp [Edit.merge_singleton]
  rw [both]
  have inText : ∀ e ∈ [Edit.putX, Edit.bToY],
      0 ≤ e.range.start ∧ e.range.stop ≤ "abcd".length := by decide
  refine ⟨rfl, inText, ⟨⟨2, 1, 2⟩, ?_⟩, fun edits perm inOrder => ?_⟩
  · have fromEnd : fromEnd { text := "abcd", accepted := [.putX, .bToY] } = [.putX, .bToY] :=
      List.mergeSort_of_pairwise (by decide)
    rw [apply_eq_ok inText, fromEnd]
    rfl
  · have same : edits = [.putX, .bToY] := by
      have first : ¬ Edit.bToY.Before .putX := by simp [Edit.Before, Edit.putX, Edit.bToY]
      refine perm.eq_of_pairwise ?_ inOrder.before (by simp [Edit.Before, Edit.putX, Edit.bToY])
      intro e f he hf hef hfe
      have he := perm.subset he
      simp only [List.mem_cons, List.not_mem_nil, or_false] at he hf
      rcases he with rfl | rfl
      · rcases hf with rfl | rfl
        · rfl
        · exact absurd hfe first
      · rcases hf with rfl | rfl
        · exact absurd hef first
        · rfl
    rw [same]
    rfl

end EditSession

end FieldOrder
