import FieldOrder.Patch
import FieldOrder.Proofs.Edit.Substitution
import FieldOrder.Proofs.Order.Settled

namespace FieldOrder

/-- The fields lie in the text, each behind the one before it. -/
structure LaidOut (text : String) (fields : List Field) : Prop where
  start_le_stop : ∀ f ∈ fields, f.start ≤ f.stop
  in_text : ∀ f ∈ fields, 0 ≤ f.start ∧ f.stop ≤ text.length
  in_order : fields.Pairwise fun f g => f.stop ≤ g.start

namespace LaidOut

instance (text : String) (fields : List Field) : Decidable (LaidOut text fields) :=
  decidable_of_iff ((∀ f ∈ fields, f.start ≤ f.stop) ∧
      (∀ f ∈ fields, 0 ≤ f.start ∧ f.stop ≤ text.length) ∧
      fields.Pairwise fun f g => f.stop ≤ g.start)
    ⟨fun ⟨h, h', h''⟩ => ⟨h, h', h''⟩, fun ⟨h, h', h''⟩ => ⟨h, h', h''⟩⟩

theorem tail {text : String} {f : Field} {fields : List Field} (h : LaidOut text (f :: fields)) :
    LaidOut text fields where
  start_le_stop g hg := h.start_le_stop g (by simp [hg])
  in_text g hg := h.in_text g (by simp [hg])
  in_order := h.in_order.of_cons

end LaidOut

namespace Patch

/-- The text with all from the first field to the last replaced. -/
def around (text : String) (fields : List Field) (body : String) : String :=
  match fields.head?, fields.getLast? with
  | some first, some last =>
    Text.sliceTo text first.start ++ body ++ Text.sliceFrom text last.stop
  | _, _ => text

/-- What lies between each field and the next. -/
def gaps (text : String) : List Field → List String
  | f :: g :: rest => Text.slice text f.stop g.start :: gaps text (g :: rest)
  | _ => []

/-- Texts with gaps between them, in turn. -/
def weave : List String → List String → String
  | t :: texts, gap :: gaps => t ++ gap ++ weave texts gaps
  | texts, gaps => String.join (texts ++ gaps)

/-- The text with the fields at the given positions in the places of the fields, and all else
where it was. -/
def rearranged (text : String) (fields : List Field) (order : List Nat) : String :=
  around text fields <|
    weave ((order.filterMap (fields[·]?)).map (·.textIn text)) (gaps text fields)

theorem around_cons (text : String) (f : Field) (fields : List Field) (body : String) :
    around text (f :: fields) body = Text.sliceTo text f.start ++ body ++
      Text.sliceFrom text ((f :: fields).getLast (List.cons_ne_nil f fields)).stop := by
  rw [around, List.getLast?_eq_some_getLast (List.cons_ne_nil f fields)]
  rfl

theorem weave_perm (texts gaps : List String) :
    (weave texts gaps).toList.Perm (texts.flatMap String.toList ++ gaps.flatMap String.toList) := by
  induction texts generalizing gaps with
  | nil => simp [weave]
  | cons t texts ih =>
    cases gaps with
    | nil => simp [weave]
    | cons gap gaps =>
      have moved : (gap.toList ++ (texts.flatMap String.toList ++ gaps.flatMap String.toList)).Perm
          (texts.flatMap String.toList ++ (gap.toList ++ gaps.flatMap String.toList)) := by
        simpa only [List.append_assoc] using List.perm_append_comm.append_right _
      rw [weave, String.toList_append, String.toList_append, List.flatMap_cons, List.flatMap_cons,
        List.append_assoc, List.append_assoc]
      exact (((ih gaps).append_left _).trans moved).append_left _

/-- The edits put the texts in the places of the fields; a field that keeps its text may go without
an edit. -/
inductive Writes (text : String) : List Field → List String → List Edit → Prop
  | nil : Writes text [] [] []
  | keep {f fields texts edits} (rest : Writes text fields texts edits) :
    Writes text (f :: fields) (f.textIn text :: texts) edits
  | move {f fields texts edits} {e : Edit} (start : e.range.start = f.start)
    (stop : e.range.stop = f.stop) (rest : Writes text fields texts edits) :
    Writes text (f :: fields) (e.replacement :: texts) (e :: edits)

namespace Writes
variable {text : String} {fields : List Field} {texts : List String} {edits : List Edit}

theorem none (text : String) (fields : List Field) :
    Writes text fields (fields.map (·.textIn text)) [] := by
  induction fields with
  | nil => exact .nil
  | cons f fields ih => exact ih.keep

theorem exists_field (h : Writes text fields texts edits) :
    ∀ e ∈ edits, ∃ f ∈ fields, e.range.start = f.start ∧ e.range.stop = f.stop := by
  induction h with
  | nil => simp
  | keep rest ih =>
    intro e he
    obtain ⟨f, hf, same⟩ := ih e he
    exact ⟨f, List.mem_cons_of_mem _ hf, same⟩
  | move start stop rest ih =>
    intro e he
    rcases List.mem_cons.mp he with rfl | he
    · exact ⟨_, List.mem_cons_self, start, stop⟩
    · obtain ⟨f, hf, same⟩ := ih e he
      exact ⟨f, List.mem_cons_of_mem _ hf, same⟩

theorem in_text (h : Writes text fields texts edits) (laidOut : LaidOut text fields) :
    ∀ e ∈ edits, 0 ≤ e.range.start ∧ e.range.stop ≤ text.length := by
  intro e he
  obtain ⟨f, hf, start, stop⟩ := h.exists_field e he
  rw [start, stop]
  exact laidOut.in_text f hf

theorem in_order (h : Writes text fields texts edits) (laidOut : LaidOut text fields) :
    edits.Pairwise Edit.Before := by
  induction h with
  | nil => exact .nil
  | keep rest ih => exact ih laidOut.tail
  | move start stop rest ih =>
    refine .cons ?_ (ih laidOut.tail)
    intro e he
    obtain ⟨g, hg, start', -⟩ := rest.exists_field e he
    rw [Edit.Before, stop, start']
    exact List.rel_of_pairwise_cons laidOut.in_order hg

/-- Whether a field has an edit or not: behind a position comes the gap before it, then its new
text, then what the other edits give. -/
theorem exists_step {f : Field} (h : Writes text (f :: fields) texts edits)
    (laidOut : LaidOut text (f :: fields)) {pos : Int} (h0 : 0 ≤ pos) (hpos : pos ≤ f.start) :
    ∃ t texts' edits', texts = t :: texts' ∧ Writes text fields texts' edits' ∧
      Edit.substituteFrom text pos edits =
        Text.slice text pos f.start ++ t ++ Edit.substituteFrom text f.stop edits' := by
  have width := laidOut.start_le_stop f (by simp)
  cases h with
  | keep rest =>
    refine ⟨_, _, _, rfl, rest, ?_⟩
    have behind : ∀ e ∈ edits, f.stop ≤ e.range.start := by
      intro e he
      obtain ⟨g, hg, start, -⟩ := rest.exists_field e he
      rw [start]
      exact List.rel_of_pairwise_cons laidOut.in_order hg
    rw [Field.textIn, Text.slice_append text h0 hpos width]
    exact Edit.substituteFrom_split text h0 (by omega) behind
  | move start stop rest =>
    refine ⟨_, _, _, rfl, rest, ?_⟩
    rw [Edit.substituteFrom, start, stop]

/-- Carrying out the edits behind a position gives the texts in place of the fields. -/
theorem substituteFrom_eq {f : Field} (h : Writes text (f :: fields) texts edits)
    (laidOut : LaidOut text (f :: fields)) {pos : Int} (h0 : 0 ≤ pos) (hpos : pos ≤ f.start) :
    Edit.substituteFrom text pos edits =
      Text.slice text pos f.start ++ weave texts (gaps text (f :: fields)) ++
        Text.sliceFrom text ((f :: fields).getLast (List.cons_ne_nil f fields)).stop := by
  induction fields generalizing f texts edits pos with
  | nil =>
    obtain ⟨t, texts, edits, rfl, rest, step⟩ := h.exists_step laidOut h0 hpos
    cases rest
    rw [step]
    simp [weave, gaps, Edit.substituteFrom]
  | cons g fields ih =>
    obtain ⟨t, texts, edits, rfl, rest, step⟩ := h.exists_step laidOut h0 hpos
    have width := laidOut.start_le_stop f (by simp)
    have next : f.stop ≤ g.start := List.rel_of_pairwise_cons laidOut.in_order (by simp)
    rw [step, ih rest laidOut.tail (by omega) next, gaps, weave,
      List.getLast_cons (List.cons_ne_nil g fields)]
    simp only [String.append_assoc]

theorem substitute_eq (h : Writes text fields texts edits) (laidOut : LaidOut text fields) :
    Edit.substitute text edits = around text fields (weave texts (gaps text fields)) := by
  cases fields with
  | nil =>
    cases h
    simp [Edit.substitute, Edit.substituteFrom, around]
  | cons f fields =>
    have start := (laidOut.in_text f (by simp)).1
    rw [Edit.substitute, h.substituteFrom_eq laidOut (Int.le_refl 0) start, around_cons,
      Text.slice_zero]

end Writes

theorem around_weave_self {text : String} {fields : List Field} (laidOut : LaidOut text fields) :
    around text fields (weave (fields.map (·.textIn text)) (gaps text fields)) = text := by
  rw [← (Writes.none text fields).substitute_eq laidOut]
  simp [Edit.substitute, Edit.substituteFrom]

/-- Fields that change places neither drop nor repeat a character of the text. -/
theorem rearranged_perm {text : String} {fields : List Field} (laidOut : LaidOut text fields)
    {order : List Nat} (perm : order.Perm (List.range fields.length)) :
    (rearranged text fields order).toList.Perm text.toList := by
  cases fields with
  | nil => exact .refl _
  | cons f fields =>
    have entries := filterMap_getElem?_perm (f :: fields) perm
    have texts := (entries.map (·.textIn text)).flatMap_right String.toList
    have body := (weave_perm _ (gaps text (f :: fields))).trans
      ((texts.append_right _).trans (weave_perm _ (gaps text (f :: fields))).symm)
    have whole := congrArg String.toList (around_weave_self laidOut)
    rw [around_cons, String.toList_append, String.toList_append] at whole
    rw [rearranged, around_cons, String.toList_append, String.toList_append, ← whole]
    exact (body.append_left _).append_right _

end Patch

end FieldOrder
