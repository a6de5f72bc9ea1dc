import FieldOrder.Lint.Fix
import FieldOrder.Proofs.Computation
import FieldOrder.Proofs.Edit.Substitution
import FieldOrder.Proofs.Syntax.WellFormed

namespace FieldOrder

namespace Node

/-- A node that is named and free of syntax errors. -/
def clean (kind : String) (start stop : Nat) (children : List Node) : Node :=
  .mk { kind, field := none, start, stop, named := true, hasError := false } children

/-- Such a node in a field of its parent. -/
def cleanIn (field kind : String) (start stop : Nat) (children : List Node) : Node :=
  .mk { kind, field := some field, start, stop, named := true, hasError := false } children

/-- An attribute: its name ends at the second position given, and a value may follow. -/
def attr (start nameStop stop : Nat) (value : List Node) : Node :=
  clean "jsx_attribute" start stop (clean "property_identifier" start nameStop [] :: value)

def tag (start stop : Nat) (attributes : List Node) : Node :=
  clean "jsx_self_closing_element" start stop attributes

theorem clean_wellFormed (kind : String) (cs : List Char) : (clean kind 0 0 []).WellFormed cs := by
  intro n hn
  obtain rfl : n = clean kind 0 0 [] := by simpa [clean, preorder, preorders] using hn
  have start : Text.Boundary cs 0 := ⟨0, Nat.zero_le _, rfl⟩
  exact ⟨start, start, Nat.le_refl _, by simp [clean, children], .nil⟩

end Node

/-- The rule for attributes in the order that is the default, and in that of a locale if there is
one. -/
def BoundRule.forAttributes (locale : Option Locale) : BoundRule where
  kind := .jsxProps
  options := {}
  tagOptions := none
  policy := { collator := { locale } }

def Violation.ofTag (start stop : Int) (edits : List Edit) : Violation where
  rule := "sort-jsx-props"
  severity := .warn
  message := "JSX props should be sorted according to the defined order."
  start := start
  stop := stop
  line := 1
  column := start + 1
  endLine := 1
  endColumn := stop + 1
  edits := edits

def nestedTags : String := "<B b=<A d c/> a/>"

def nestedTree : Node :=
  .tag 0 17 [.attr 3 4 13 [.tag 5 13 [.attr 8 9 9 [], .attr 10 11 11 []]], .attr 14 15 15 []]

def parseNested : Parse := fun text =>
  if text = nestedTags then some nestedTree
  else if text = "<B a b=<A d c/>/>" ∨ text = "<B a b=<A c d/>/>" then
    some (.tag 0 17 [.attr 3 4 4 [],
      .attr 5 6 15 [.tag 7 15 [.attr 10 11 11 [], .attr 12 13 13 []]]])
  else some (.clean "program" 0 0 [])

theorem exists_parseNested_wellFormed (text : String) :
    ∃ root, parseNested text = some root ∧ root.WellFormed text.toList := by
  rw [parseNested]
  split
  · next same =>
    subst same
    exact ⟨_, rfl, by decide +kernel⟩
  · split
    · next same =>
      rcases same with rfl | rfl
      · exact ⟨_, rfl, by decide +kernel⟩
      · exact ⟨_, rfl, by decide +kernel⟩
    · exact ⟨_, rfl, Node.clean_wellFormed _ _⟩

/-- The outer tag of `nestedTags` is to have its attributes swapped. -/
def outerViolation : Violation :=
  .ofTag 0 17 [⟨⟨3, 13, by decide⟩, "a"⟩, ⟨⟨14, 15, by decide⟩, "b=<A d c/>"⟩]

def innerViolation (start : Int) : Violation :=
  .ofTag start (start + 8)
    [⟨⟨start + 3, start + 4, by omega⟩, "c"⟩, ⟨⟨start + 5, start + 6, by omega⟩, "d"⟩]

theorem merge_outerViolation : Edit.merge nestedTags outerViolation.edits =
    .ok ⟨⟨3, 15, by decide⟩, "a b=<A d c/>"⟩ :=
  (Edit.merge_eq_extend _ (by simp [Edit.Before])).trans (by decide +kernel)

theorem merge_innerViolation (text : String) (start : Int) :
    Edit.merge text (innerViolation start).edits = .ok ⟨⟨start + 3, start + 6, by omega⟩,
      "c" ++ Text.slice text (start + 4) (start + 5) ++ "d"⟩ := by
  rw [innerViolation, Violation.ofTag, Edit.merge_eq_extend _ (by simp [Edit.Before]),
    Edit.extend, dif_neg (by simp), Edit.extend]

end FieldOrder
