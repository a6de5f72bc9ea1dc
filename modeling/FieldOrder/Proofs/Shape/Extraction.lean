import FieldOrder.Shape
import FieldOrder.Proofs.Shape.Parameters

namespace FieldOrder

/-- The list belongs to the node, and its fields lie in it one behind another. -/
structure FieldList.LiesIn (d : Document) (n : Node) (found : FieldList) : Prop where
  owner_eq : found.owner = n
  laidOut : LaidOut d.text found.fields
  within : ∀ f ∈ found.fields, (d.nodeRange n).1 ≤ f.start ∧ f.stop ≤ (d.nodeRange n).2

namespace Document
variable {d : Document}

theorem nodeRange_within {m n : Node} (h : n.WellFormed d.chars) (hm : m ∈ n.preorder) :
    (d.nodeRange n).1 ≤ (d.nodeRange m).1 ∧ (d.nodeRange m).2 ≤ (d.nodeRange n).2 := by
  obtain ⟨start, stop⟩ := h.nested hm
  exact ⟨d.charOfByte_mono (Int.ofNat_le.mpr start), d.charOfByte_mono (Int.ofNat_le.mpr stop)⟩

theorem nodeText_infix {n : Node} (h : n.WellFormed d.chars) {t : String}
    (text : d.nodeText n = .ok t) : t.toList <:+: d.text.toList := by
  rw [d.nodeText_eq_slice h.fits.start_boundary h.fits.stop_boundary h.fits.start_le_stop] at text
  cases text
  rw [Text.toList_slice]
  exact (List.take_prefix _ _).isInfix.trans (List.drop_suffix _ _).isInfix

end Document

/-- Fields that cover children of a node at or below the owner lie in the owner. -/
theorem FieldList.LiesIn.of_covers {d : Document} {n holder : Node} {nodes : List Node}
    {found : FieldList} (owner : found.owner = n) (wf : n.WellFormed d.chars)
    (below : holder ∈ n.preorder) (sub : nodes.Sublist holder.children)
    (covers : List.Forall₂ d.Covers nodes found.fields) : found.LiesIn d n where
  owner_eq := owner
  laidOut := by
    have inHolder := wf.descendant below
    exact Document.laidOut_of_covers covers (fun m hm => inHolder.child (sub.subset hm))
      (inHolder.fits.in_order.sublist sub)
  within f hf := by
    obtain ⟨m, hm, cover⟩ := exists_rel_of_mem_right covers hf
    have inHolder := Node.mem_preorder_of_mem_children (sub.subset hm)
    obtain ⟨start, stop⟩ := Document.nodeRange_within wf (Node.mem_preorder_trans inHolder below)
    rw [cover.1, cover.2]
    exact ⟨Int.ofNat_le.mpr start, Int.ofNat_le.mpr stop⟩

namespace Attributes
variable {d : Document}

theorem owner_of_extract {s : Site} {found : FieldList} (h : extract d s = .ok (some found)) :
    found.owner = s.node := by
  simp only [extract] at h
  split at h
  · cases h
  · obtain ⟨fields, -, h⟩ := bind_eq_ok.mp h
    cases h
    rfl

theorem exists_attribute_of_extract {s : Site} {found : FieldList}
    (h : extract d s = .ok (some found)) {f : Field} (hf : f ∈ found.fields) {name : String}
    (named : f.name = some name) :
    ∃ a ∈ s.node.namedChildren, a.kind = "jsx_attribute" ∧
      ∃ n, a.entries.head? = some n ∧ d.nodeText n = .ok name := by
  simp only [extract] at h
  split at h
  · cases h
  · obtain ⟨fields, described, h⟩ := bind_eq_ok.mp h
    cases h
    obtain ⟨a, ha, made⟩ := exists_rel_of_mem_right (forall₂_of_mapM_eq_ok described) hf
    obtain ⟨inTag, kind⟩ := List.mem_filter.mp ha
    refine ⟨a, inTag, by simpa using kind, ?_⟩
    cases first : a.entries.head? with
    | none =>
      simp only [describe, first] at made
      cases made
      cases named
    | some n =>
      simp only [describe, first] at made
      obtain ⟨text, read, made⟩ := bind_eq_ok.mp made
      cases made
      cases named
      exact ⟨n, rfl, read⟩

theorem exists_describe {a : Node} (h : a.WellFormed d.chars) :
    ∃ f, describe d a = .ok f ∧ d.Covers a f ∧ ∀ name ∈ f.name, name.toList <:+: d.text.toList := by
  cases hn : a.entries.head? with
  | none =>
    refine ⟨_, by simp only [describe, hn]; rfl, ⟨rfl, rfl⟩, ?_⟩
    simp [Document.fieldAt]
  | some n =>
    have inAttribute := h.entry (List.mem_of_head? hn)
    obtain ⟨t, text⟩ := Document.exists_nodeText inAttribute
    refine ⟨_, by simp only [describe, hn, text]; rfl, ⟨rfl, rfl⟩, ?_⟩
    rintro name ⟨⟩
    exact Document.nodeText_infix inAttribute text

theorem exists_extract {s : Site} (node : s.node.WellFormed d.chars) :
    ∃ result, extract d s = .ok result ∧ ∀ found ∈ result, found.LiesIn d s.node ∧
      ∀ f ∈ found.fields, ∀ name ∈ f.name, name.toList <:+: d.text.toList := by
  let attributes := s.node.namedChildren.filter (·.kind == "jsx_attribute")
  have sub : attributes.Sublist s.node.children := List.filter_sublist.trans List.filter_sublist
  have each (a : Node) (ha : a ∈ attributes) := exists_describe (node.child (sub.subset ha))
  obtain ⟨fields, described, rels⟩ := exists_mapM_eq_ok each
  by_cases few : attributes.length < 2
  · refine ⟨none, ?_, by simp⟩
    simp only [extract, attributes] at few ⊢
    rw [if_pos few]
    rfl
  · refine ⟨_, by
      simp only [extract, attributes] at few described ⊢
      rw [if_neg few, described]
      rfl, ?_⟩
    rintro _ ⟨⟩
    refine ⟨.of_covers rfl node s.node.mem_preorder_self sub (rels.imp fun _ _ h => h.1), ?_⟩
    intro f hf
    obtain ⟨a, -, -, names⟩ := exists_rel_of_mem_right rels hf
    exact names

end Attributes

namespace Members
variable {d : Document}

theorem owner_of_extract {s : Site} {found : FieldList} (h : extract d s = .ok (some found)) :
    found.owner = s.node := by
  simp only [extract] at h
  split at h
  · cases h
  · split at h
    · cases h
    · obtain ⟨fields, -, h⟩ := bind_eq_ok.mp h
      cases h
      rfl

theorem exists_describe {signature : Node} (h : signature.WellFormed d.chars) :
    ∃ f, describe d signature = .ok f ∧ d.Covers signature f := by
  obtain ⟨name, key⟩ :=
    Document.exists_keyName fun n (hn : n ∈ signature.child? "name") => h.child? hn
  exact ⟨_, by simp only [describe, key]; rfl, rfl, rfl⟩

theorem body_mem_children {n body : Node} (h : body? n = some body) : body ∈ n.children := by
  simp only [body?] at h
  split at h
  · exact List.mem_of_find?_eq_some (Option.filter_eq_some_iff.mp h).1
  · split at h
    · exact List.mem_of_find?_eq_some (Option.filter_eq_some_iff.mp h).1
    · cases h

theorem exists_extract {s : Site} (node : s.node.WellFormed d.chars) :
    ∃ result, extract d s = .ok result ∧ ∀ found ∈ result, found.LiesIn d s.node := by
  cases hb : body? s.node with
  | none =>
    refine ⟨none, ?_, by simp⟩
    simp only [extract, hb]
    rfl
  | some body =>
    have below := Node.mem_preorder_of_mem_children (body_mem_children hb)
    let signatures := body.namedChildren.filter (·.kind == "property_signature")
    have sub : signatures.Sublist body.children := List.filter_sublist.trans List.filter_sublist
    have each (a : Node) (ha : a ∈ signatures) :=
      exists_describe ((node.descendant below).child (sub.subset ha))
    obtain ⟨fields, described, covers⟩ := exists_mapM_eq_ok each
    by_cases few : signatures.length < 2
    · refine ⟨none, ?_, by simp⟩
      simp only [extract, hb, signatures] at few ⊢
      rw [if_pos few]
      rfl
    · refine ⟨_, by
        simp only [extract, hb, signatures] at few described ⊢
        rw [if_neg few, described]
        rfl, ?_⟩
      rintro _ ⟨⟩
      exact .of_covers rfl node below sub covers

end Members

theorem Parameters.owner_of_extract {d : Document} {s : Site} {found : FieldList}
    (h : extract d s = .ok (some found)) : found.owner = s.node := by
  simp only [extract] at h
  split at h
  · cases h
  · split at h
    · cases h
    · obtain ⟨component, -, h⟩ := bind_eq_ok.mp h
      obtain ⟨fields, -, h⟩ := bind_eq_ok.mp h
      cases h
      rfl

theorem Parameters.exists_extract_liesIn {d : Document} {s : Site}
    (node : s.node.WellFormed d.chars) (parent : ∀ p ∈ s.parent, p.WellFormed d.chars) :
    ∃ result, extract d s = .ok result ∧ ∀ found ∈ result, found.LiesIn d s.node := by
  by_cases few : ∀ pattern, pattern? s.node = some pattern → pattern.entries.length < 2
  · exact ⟨none, extract_eq_none few, by simp⟩
  · obtain ⟨pattern, found⟩ := Classical.not_forall.mp few
    obtain ⟨hp, many⟩ := Classical.not_imp.mp found
    obtain ⟨fields, component, covers, -, extracted⟩ :=
      exists_extract node parent hp (Nat.not_lt.mp many)
    refine ⟨_, extracted, ?_⟩
    rintro _ ⟨⟩
    exact .of_covers rfl node (pattern_mem_preorder hp).1
      (List.filter_sublist.trans List.filter_sublist) covers

theorem Shape.owner_of_extract {shape : Shape} {d : Document} {s : Site} {found : FieldList}
    (h : shape.extract d s = .ok (some found)) : found.owner = s.node := by
  cases shape with
  | parameters => exact Parameters.owner_of_extract h
  | attributes => exact Attributes.owner_of_extract h
  | members => exact Members.owner_of_extract h

/-- Each field is a named node below the owner. -/
def FieldList.CoversNamed (d : Document) (n : Node) (found : FieldList) : Prop :=
  ∀ f ∈ found.fields, ∃ c ∈ n.children, ∃ m ∈ c.preorder, m.isNamed = true ∧ d.Covers m f

namespace FieldList.CoversNamed
variable {d : Document} {n holder : Node} {nodes : List Node} {found : FieldList}

theorem of_describe {describe : Node → Except DocumentError Field}
    (covers : ∀ m f, describe m = .ok f → d.Covers m f) (below : holder ∈ n.preorder)
    (named : ∀ m ∈ nodes, m ∈ holder.namedChildren)
    (described : nodes.mapM describe = .ok found.fields) : found.CoversNamed d n := by
  intro f hf
  obtain ⟨m, hm, eq⟩ := exists_rel_of_mem_right (forall₂_of_mapM_eq_ok described) hf
  obtain ⟨child, isNamed⟩ := List.mem_filter.mp (named m hm)
  rcases Node.mem_preorder.mp below with rfl | ⟨c, hc, below⟩
  · exact ⟨m, child, m, m.mem_preorder_self, isNamed, covers m f eq⟩
  · have inChild := Node.mem_preorder_trans (Node.mem_preorder_of_mem_children child) below
    exact ⟨c, hc, m, inChild, isNamed, covers m f eq⟩

theorem start_lt_stop (h : found.CoversNamed d n) (wf : n.WellFormed d.chars) (solid : n.Solid)
    (clean : n.hasError = false) : ∀ f ∈ found.fields, f.start < f.stop := by
  intro f hf
  obtain ⟨c, hc, m, hm, named, covers⟩ := h f hf
  have width := solid n n.mem_preorder_self clean c hc m hm named
  have fits := (wf.child hc).descendant hm |>.fits
  rw [covers.1, covers.2]
  exact Int.ofNat_lt.mpr (d.charOfByte_lt fits.start_boundary width fits.stop_boundary)

end FieldList.CoversNamed

theorem Attributes.covers_of_describe {d : Document} {a : Node} {f : Field}
    (h : describe d a = .ok f) : d.Covers a f := by
  simp only [describe] at h
  split at h
  · obtain ⟨name, -, h⟩ := bind_eq_ok.mp h
    cases h
    exact ⟨rfl, rfl⟩
  · cases h
    exact ⟨rfl, rfl⟩

theorem Members.covers_of_describe {d : Document} {signature : Node} {f : Field}
    (h : describe d signature = .ok f) : d.Covers signature f := by
  obtain ⟨name, -, h⟩ := bind_eq_ok.mp h
  cases h
  exact ⟨rfl, rfl⟩

theorem Parameters.covers_of_describe {d : Document} {entry : Node} {f : Field}
    (h : describe d entry = .ok f) : d.Covers entry f := by
  simp only [describe] at h
  split at h
  · cases h
    exact ⟨rfl, rfl⟩
  all_goals
    obtain ⟨name, -, h⟩ := bind_eq_ok.mp h
    cases h
    exact ⟨rfl, rfl⟩

theorem Shape.coversNamed_of_extract {shape : Shape} {d : Document} {s : Site} {found : FieldList}
    (h : shape.extract d s = .ok (some found)) : found.CoversNamed d s.node := by
  cases shape with
  | parameters =>
    simp only [extract, Parameters.extract] at h
    split at h
    · cases h
    · next pattern hp =>
      split at h
      · cases h
      · obtain ⟨component, -, h⟩ := bind_eq_ok.mp h
        obtain ⟨fields, described, h⟩ := bind_eq_ok.mp h
        cases h
        exact .of_describe (fun _ _ => Parameters.covers_of_describe)
          (Parameters.pattern_mem_preorder hp).1 (fun _ hm => (List.mem_filter.mp hm).1) described
  | attributes =>
    simp only [extract, Attributes.extract] at h
    split at h
    · cases h
    · obtain ⟨fields, described, h⟩ := bind_eq_ok.mp h
      cases h
      exact .of_describe (fun _ _ => Attributes.covers_of_describe) s.node.mem_preorder_self
        (fun _ hm => (List.mem_filter.mp hm).1) described
  | members =>
    simp only [extract, Members.extract] at h
    split at h
    · cases h
    · next body hb =>
      split at h
      · cases h
      · obtain ⟨fields, described, h⟩ := bind_eq_ok.mp h
        cases h
        exact .of_describe (fun _ _ => Members.covers_of_describe)
          (Node.mem_preorder_of_mem_children (Members.body_mem_children hb))
          (fun _ hm => (List.mem_filter.mp hm).1) described

/-- Whatever the shape, a field list can be read, and lies in its owner. -/
theorem Shape.exists_extract (shape : Shape) {d : Document} {s : Site}
    (node : s.node.WellFormed d.chars) (parent : ∀ p ∈ s.parent, p.WellFormed d.chars) :
    ∃ result, shape.extract d s = .ok result ∧ ∀ found ∈ result, found.LiesIn d s.node ∧
      (shape = .attributes → ∀ f ∈ found.fields, ∀ name ∈ f.name,
        name.toList <:+: d.text.toList) := by
  cases shape with
  | parameters =>
    obtain ⟨result, extracted, lies⟩ := Parameters.exists_extract_liesIn node parent
    exact ⟨result, extracted, fun found hf => ⟨lies found hf, nofun⟩⟩
  | attributes =>
    obtain ⟨result, extracted, lies⟩ := Attributes.exists_extract node
    exact ⟨result, extracted, fun found hf => ⟨(lies found hf).1, fun _ => (lies found hf).2⟩⟩
  | members =>
    obtain ⟨result, extracted, lies⟩ := Members.exists_extract node
    exact ⟨result, extracted, fun found hf => ⟨lies found hf, nofun⟩⟩

end FieldOrder
