import FieldOrder.Rule.Options
import FieldOrder.Shape

namespace FieldOrder

inductive RuleKind where
  | componentProps
  | jsxProps
  | typeProperties
  deriving Repr, DecidableEq

/-- What a rule takes for options that are not set. -/
structure RuleDefaults where
  reservedNames : List String := ["id", "key", "ref", "name", "type"]
  callbackPrefixes : Option (List String) := some ["on", "set", "update", "handle", "render"]
  callbackPatterns : Option (List String) := none
  shorthand : Placement := .last
  precedence : List Stage := Stage.defaultPrecedence

namespace RuleKind

def all : List RuleKind := [componentProps, jsxProps, typeProperties]

def name : RuleKind → String
  | componentProps => "sort-component-props"
  | jsxProps => "sort-jsx-props"
  | typeProperties => "sort-type-properties"

def description : RuleKind → String
  | componentProps =>
    "Sort destructured props in React components matching interface property ordering"
  | jsxProps => "Sort JSX props with enhanced callback detection"
  | typeProperties => "Sort types and interfaces properties matching react/jsx-sort-props logic"

def shape : RuleKind → Shape
  | componentProps => .parameters
  | jsxProps => .attributes
  | typeProperties => .members

def className : RuleKind → String
  | componentProps => "SortComponentProps"
  | jsxProps => "SortJsxProps"
  | typeProperties => "SortTypeProperties"

def defaults : RuleKind → RuleDefaults
  | componentProps => {}
  | typeProperties => {}
  | jsxProps => {
      reservedNames := ["id", "key", "ref", "name", "type", "className", "style"]
      callbackPrefixes := none
      callbackPatterns := some ["^on[A-Z]", "^set[A-Z]", "Callback$", "Handler$", "^handle[A-Z]"]
      shorthand := .first
      precedence := [.reserved, .shorthand, .callbacks] }

/-- The message about a construct, for those that the rule reports. -/
def message? : RuleKind → Container → Option String
  | componentProps, .component =>
    some "React component props should be sorted according to the defined order."
  | jsxProps, .element => some "JSX props should be sorted according to the defined order."
  | typeProperties, .interface =>
    some "Interface properties should be sorted according to the defined order."
  | typeProperties, .typeAlias =>
    some "Type properties should be sorted according to the defined order."
  | _, _ => none

def schema : RuleKind → Schema
  | jsxProps => .tagOptions
  | _ => .ruleOptions

end RuleKind

end FieldOrder
