import FieldOrder.Proofs.Lint.ParameterFix
import FieldOrder.Proofs.Lint.Sample
import FieldOrder.Proofs.Order.Overtaking
import FieldOrder.Rule.Bound
import FieldOrder.Shape.Bindings

namespace FieldOrder

namespace BoundRule

/-- A fix of destructured parameters joins the entries anew, in the order of the policy unless there
are many entries and some without a name. In that order an entry whose default value reads what an
earlier entry binds stays behind that one unless it is less than some entry before it; and where no
entry is without a name, it stays behind exactly if it is not less than the entry that it reads. -/
theorem visit_parameters_defaults (r : BoundRule) (kind : r.kind = .componentProps)
    (text : String) (root : Node) (wf : root.WellFormed text.toList) (s : Site)
    (node : s.node ∈ root.preorder) (parent : ∀ p ∈ s.parent, p ∈ root.preorder) (v : Violation)
    (visited : r.visit ⟨text, some root⟩ s = .ok (some v)) (nonempty : v.edits ≠ []) :
    let d : Document := ⟨text, some root⟩
    ∃ pattern fields order fixed session stats, Parameters.pattern? s.node = some pattern ∧
      pattern.entries.mapM (Parameters.describe d) = .ok fields ∧
      EditSession.addFix { text } v.edits = .ok (true, session) ∧
      session.apply = .ok (fixed, stats) ∧ Parameters.Reordered d pattern order fixed ∧
      ((fields.length < mergeLength ∨ ∀ f ∈ fields, f.Orderable) →
        order = r.policy.sortOrder fields ∧
        ∀ i j, i < j → ∀ target reader, pattern.entries[i]? = some target →
          pattern.entries[j]? = some reader → Parameters.reads d reader target = true →
          ∃ a b, fields[i]? = some a ∧ fields[j]? = some b ∧
            (order.idxOf i < order.idxOf j ∨ r.policy.MovesForward fields j) ∧
            ((∀ f ∈ fields, f.Orderable) →
              (order.idxOf i < order.idxOf j ↔ r.policy.compare b a ≠ .lt))) := by
  intro d
  have inTree : s.node.WellFormed d.chars := wf.descendant node
  have above (p : Node) (hp : p ∈ s.parent) : p.WellFormed d.chars := wf.descendant (parent p hp)
  obtain ⟨pattern, fields, session, stats, hp, two, described, covers, -, accepted, applied⟩ :=
    exists_joined kind inTree above visited nonempty
  have entries : pattern.entries ≠ [] := List.ne_nil_of_length_pos (by omega)
  have reordered := Parameters.reordered_of_covers
    (inTree.descendant (Parameters.pattern_mem_preorder hp).1) covers entries
    (r.policy.sortOrder_perm fields)
  refine ⟨pattern, fields, _, _, session, stats, hp, described, accepted, applied, reordered,
    fun _ => ⟨rfl, ?_⟩⟩
  -- The order does not depend on what default values read, so that assumption is not used.
  intro i j hij target reader _ hj _
  obtain ⟨inEntries, -⟩ := List.getElem?_eq_some_iff.mp hj
  have inFields : j < fields.length := covers.length_eq ▸ inEntries
  have ha := List.getElem?_eq_getElem (Nat.lt_trans hij inFields)
  have hb := List.getElem?_eq_getElem inFields
  exact ⟨_, _, ha, hb, Policy.idxOf_lt_or_movesForward hij inFields,
    fun orderable => Policy.idxOf_lt_iff orderable hij ha hb⟩

def forParameters : BoundRule where
  kind := .componentProps
  options := {}
  tagOptions := none
  policy := {}

end BoundRule

namespace Node

/-- An arrow function that starts its text, up to the end of its only parameter, a pattern. -/
def arrow (stop : Nat) (entries : List Node) : Node :=
  clean "arrow_function" 0 stop [cleanIn "parameters" "formal_parameters" 0 stop
    [clean "object_pattern" 1 (stop - 1) entries]]

/-- An entry with a name of one letter and a default value, which starts four bytes behind it. -/
def defaulted (start stop : Nat) (kind : String) : Node :=
  clean "object_assignment_pattern" start stop
    [cleanIn "left" "shorthand_property_identifier_pattern" start (start + 1) [],
      cleanIn "right" kind (start + 4) stop []]

end Node

namespace BoundRule

theorem visit_parameters_defaults_moved :
    let entries : List Node := [.clean "shorthand_property_identifier_pattern" 3 4 [],
      .defaulted 6 11 "number", .defaulted 13 18 "identifier"]
    let d : Document := ⟨"({ c, a = 1, b = a }) => b", some (.arrow 21 entries)⟩
    ∃ v fields, forParameters.visit d ⟨.arrow 21 entries, none⟩ = .ok (some v) ∧ v.edits ≠ [] ∧
      entries.mapM (Parameters.describe d) = .ok fields ∧
      Parameters.reads d (.defaulted 13 18 "identifier") (.defaulted 6 11 "number") = true ∧
      (forParameters.policy.sortOrder fields).idxOf 1 <
        (forParameters.policy.sortOrder fields).idxOf 2 := by
  intro entries d
  let function : Node := .arrow 21 entries
  have wf : function.WellFormed "({ c, a = 1, b = a }) => b".toList := by decide +kernel
  have reads : Parameters.reads d (.defaulted 13 18 "identifier") (.defaulted 6 11 "number") =
      true := by decide +kernel
  let v : Violation := forParameters.report d function
    "React component props should be sorted according to the defined order."
    [⟨⟨3, 18, by decide⟩, "a = 1, b = a, c"⟩]
  have visited : forParameters.visit d ⟨function, none⟩ = .ok (some v) := by decide +kernel
  obtain ⟨pattern, fields, order, -, -, -, found, described, -, -, -, settled⟩ :=
    forParameters.visit_parameters_defaults rfl _ function wf ⟨function, none⟩
      function.mem_preorder_self (by simp) v visited (List.cons_ne_nil _ _)
  obtain rfl : .clean "object_pattern" 1 20 entries = pattern := Option.some.inj found
  have few : fields.length < mergeLength := by
    rw [← (forall₂_of_mapM_eq_ok described).length_eq]
    decide
  obtain ⟨rfl, each⟩ := settled (.inl few)
  obtain ⟨a, b, ha, hb, -, stays⟩ := each 1 2 (by decide) _ _ rfl rfl reads
  have facts : (entries.mapM (Parameters.describe d)).toOption.map (fun fields =>
      (fields.all fun f => decide f.Orderable, fields[2]?.bind fun b => fields[1]?.map fun a =>
        forParameters.policy.compare b a)) = some (true, some .gt) := by decide +kernel
  change entries.mapM (Parameters.describe d) = .ok fields at described
  obtain ⟨orderable, greater⟩ : (∀ f ∈ fields, f.Orderable) ∧
      forParameters.policy.compare b a = .gt := by
    rw [described] at facts
    simpa [Except.toOption, ha, hb] using facts
  refine ⟨v, fields, visited, List.cons_ne_nil _ _, described, reads, ?_⟩
  exact (stays orderable).mpr (by rw [greater]; decide)

/-- The entry that stands first in the fixed text reads what the other one binds. -/
theorem visit_parameters_defaults_swapped :
    let entries : List Node := [.defaulted 3 8 "number", .defaulted 10 15 "identifier"]
    let function : Node := .arrow 18 entries
    let d : Document := ⟨"({ z = 1, a = z }) => a", some function⟩
    function.WellFormed "({ z = 1, a = z }) => a".toList ∧
      Parameters.pattern? function = some (.clean "object_pattern" 1 17 entries) ∧
      Parameters.reads d (.defaulted 10 15 "identifier") (.defaulted 3 8 "number") = true ∧
      (entries.mapM (Parameters.describe d)).toOption.map forParameters.policy.sortOrder =
        some [1, 0] ∧
      ∃ v, forParameters.visit d ⟨function, none⟩ = .ok (some v) ∧
        ((EditSession.addFix { text := d.text } v.edits).toOption.bind
          fun s => s.2.apply.toOption.map (·.1)) = some "({ a = z, z = 1 }) => a" := by
  intro entries function d
  refine ⟨by decide +kernel, rfl, by decide +kernel, by decide +kernel,
    forParameters.report d function
      "React component props should be sorted according to the defined order."
      [⟨⟨3, 15, by decide⟩, "a = z, z = 1"⟩], ?_, ?_⟩
  · decide +kernel
  · decide +kernel

end BoundRule

end FieldOrder
