import FieldOrder.Shape.Basic
import FieldOrder.Proofs.Computation
import FieldOrder.Proofs.Patch.Layout
import FieldOrder.Proofs.Syntax.WellFormed

namespace FieldOrder

namespace Document
variable {d : Document}

theorem exists_nodeText {n : Node} (h : n.WellFormed d.chars) : ∃ t, d.nodeText n = .ok t :=
  ⟨_, d.nodeText_eq_slice h.fits.start_boundary h.fits.stop_boundary h.fits.start_le_stop⟩

theorem exists_keyName {key : Option Node} (h : ∀ n ∈ key, n.WellFormed d.chars) :
    ∃ name, d.keyName key = .ok name := by
  cases key with
  | none => exact ⟨none, rfl⟩
  | some n =>
    obtain ⟨t, text⟩ := exists_nodeText (h n rfl)
    simp only [keyName, text]
    split
    · exact ⟨_, rfl⟩
    · split
      · simp only [bind, Except.bind]
        split <;> exact ⟨_, rfl⟩
      · exact ⟨_, rfl⟩

/-- The field covers the characters of the node. -/
def Covers (d : Document) (n : Node) (f : Field) : Prop :=
  f.start = (d.nodeRange n).1 ∧ f.stop = (d.nodeRange n).2

theorem Covers.textIn {n : Node} {f : Field} (covers : d.Covers n f) (h : n.WellFormed d.chars) :
    d.nodeText n = .ok (f.textIn d.text) := by
  rw [Field.textIn, covers.1, covers.2]
  exact d.nodeText_eq_slice h.fits.start_boundary h.fits.stop_boundary h.fits.start_le_stop

/-- Fields that cover nodes one behind another are laid out in the text. -/
theorem laidOut_of_covers {nodes : List Node} {fields : List Field}
    (covers : List.Forall₂ d.Covers nodes fields) (wf : ∀ n ∈ nodes, n.WellFormed d.chars)
    (inOrder : nodes.Pairwise fun a b => a.stop ≤ b.start) : LaidOut d.text fields := by
  induction covers with
  | nil => exact ⟨by simp, by simp, .nil⟩
  | @cons n f nodes fields cover rest ih =>
    obtain ⟨hn, wf⟩ := List.forall_mem_cons.mp wf
    obtain ⟨first, inOrder⟩ := List.pairwise_cons.mp inOrder
    have later := ih wf inOrder
    have width := d.charOfByte_mono (Int.ofNat_le.mpr hn.fits.start_le_stop)
    have inText := d.charOfByte_le_length n.stop
    refine ⟨List.forall_mem_cons.mpr ⟨?_, later.start_le_stop⟩,
      List.forall_mem_cons.mpr ⟨?_, later.in_text⟩, .cons ?_ later.in_order⟩
    · rw [cover.1, cover.2]
      exact Int.ofNat_le.mpr width
    · rw [cover.1, cover.2]
      exact ⟨Int.natCast_nonneg _, Int.ofNat_le.mpr inText⟩
    · intro g hg
      obtain ⟨m, hm, cover'⟩ := exists_rel_of_mem_right rest hg
      rw [cover.2, cover'.1]
      exact Int.ofNat_le.mpr (d.charOfByte_mono (Int.ofNat_le.mpr (first m hm)))

theorem mapM_nodeText_of_covers {nodes : List Node} {fields : List Field}
    (covers : List.Forall₂ d.Covers nodes fields) (wf : ∀ n ∈ nodes, n.WellFormed d.chars) :
    nodes.mapM d.nodeText = .ok (fields.map (·.textIn d.text)) := by
  induction covers with
  | nil => rfl
  | cons cover rest ih =>
    obtain ⟨hn, wf⟩ := List.forall_mem_cons.mp wf
    rw [List.mapM_cons, cover.textIn hn, ih wf]
    rfl

theorem around_of_covers {nodes : List Node} {fields : List Field}
    (covers : List.Forall₂ d.Covers nodes fields) {first last : Node}
    (hfirst : nodes.head? = some first) (hlast : nodes.getLast? = some last) (body : String) :
    Patch.around d.text fields body =
      Text.sliceTo d.text (d.nodeRange first).1 ++ body ++
        Text.sliceFrom d.text (d.nodeRange last).2 := by
  have reversed : List.Forall₂ d.Covers nodes.reverse fields.reverse :=
    List.forall₂_reverse_iff.mpr covers
  rw [← List.head?_reverse] at hlast
  obtain ⟨f, hf, cover⟩ := exists_head?_of_forall₂ covers hfirst
  obtain ⟨l, hl, cover'⟩ := exists_head?_of_forall₂ reversed hlast
  rw [List.head?_reverse] at hl
  simp only [Patch.around, hf, hl, cover.1, cover'.2]

end Document

theorem Node.WellFormed.child? {cs : List Char} {n c : Node} {field : String}
    (h : n.WellFormed cs) (hc : n.child? field = some c) : c.WellFormed cs :=
  h.child (List.mem_of_find?_eq_some hc)

end FieldOrder
