import FieldOrder.Policy
import FieldOrder.Schema.Load

namespace FieldOrder

inductive Severity where
  | off
  | warn
  | error
  deriving Repr, DecidableEq

instance : Choice Severity where
  name := "Severity"
  words := [("off", .off), ("warn", .warn), ("error", .error)]
  word
    | .off => "off"
    | .warn => "warn"
    | .error => "error"

/-- Options of every rule. -/
structure RuleOptions where
  severity : Severity := .warn
  callbacksLast : Bool := true
  alphabetical : Option Bool := none
  /-- The inverse spelling of `alphabetical`. -/
  notAlphabetical : Option Bool := none
  reservedFirst : Bool := true
  reservedNames : Option (List String) := none
  callbackPrefixes : Option (List String) := none
  callbackPatterns : Option (List String) := none
  shorthand : Option Placement := none
  precedence : Option (List Stage) := none
  deriving Repr, DecidableEq

/-- Further options of the rule for attributes. -/
structure TagOptions where
  ignoreCase : Bool := false
  locale : Option String := none
  multiline : Placement := .ignore
  deriving Repr, DecidableEq

namespace Schema

def severity : Schema := literal [.str "off", .str "warn", .str "error"]

def choiceOf (name : String) (words : List String) : Schema :=
  choice name (words.map fun w => (String.ofList (w.toList.map Char.toUpper), .str w))

def placement : Schema := choiceOf "Placement" ["first", "last", "ignore"]

def stage : Schema := choiceOf "Stage" ["reserved", "shorthand", "callbacks"]

def setting (name : String) (schema : Schema) (default : Loaded) : SchemaField :=
  .mk name schema (some default) true

def ruleFields : List SchemaField := [
  setting "severity" severity (.str "warn"),
  setting "callbacks_last" bool (.bool true),
  setting "sort_alphabetically" (optional bool) .null,
  setting "no_sort_alphabetically" (optional bool) .null,
  setting "reserved_first" bool (.bool true),
  setting "reserved_names" (optional (list str)) .null,
  setting "callback_prefixes" (optional (list str)) .null,
  setting "callback_patterns" (optional (list str)) .null,
  setting "shorthand" (optional placement) .null,
  setting "precedence" (optional (list stage)) .null]

def tagFields : List SchemaField := [
  setting "ignore_case" bool (.bool false),
  setting "locale" (optional str) .null,
  setting "multiline" placement (.member "Placement" "IGNORE" (.str "ignore"))]

def ruleOptions : Schema := record "RuleOptions" ruleFields

def tagOptions : Schema := record "JsxPropsOptions" (ruleFields ++ tagFields)

end Schema

namespace Loaded

def field? (l : Loaded) (name : String) : Option Loaded :=
  match l with
  | record _ fields => fields.lookup name
  | _ => none

def toBool? : Loaded → Option Bool
  | plain (.bool b) => some b
  | _ => none

def toText? : Loaded → Option String
  | plain (.str s) => some s
  | _ => none

def toItems? : Loaded → Option (List Loaded)
  | list items => some items
  | _ => none

def toTexts? (l : Loaded) : Option (List String) := l.toItems?.map (·.filterMap toText?)

/-- The value of a finite choice, of which literals and members are written forms. -/
def toChoice? {α : Type} [Choice α] : Loaded → Option α
  | plain (.str w) => (Choice.ofWord w).toOption
  | member _ _ (.str w) => (Choice.ofWord w).toOption
  | _ => none

end Loaded

namespace RuleOptions

def ofLoaded (l : Loaded) : RuleOptions where
  severity := ((l.field? "severity").bind (·.toChoice?)).getD .warn
  callbacksLast := ((l.field? "callbacks_last").bind (·.toBool?)).getD true
  alphabetical := (l.field? "sort_alphabetically").bind (·.toBool?)
  notAlphabetical := (l.field? "no_sort_alphabetically").bind (·.toBool?)
  reservedFirst := ((l.field? "reserved_first").bind (·.toBool?)).getD true
  reservedNames := (l.field? "reserved_names").bind (·.toTexts?)
  callbackPrefixes := (l.field? "callback_prefixes").bind (·.toTexts?)
  callbackPatterns := (l.field? "callback_patterns").bind (·.toTexts?)
  shorthand := (l.field? "shorthand").bind (·.toChoice?)
  precedence := ((l.field? "precedence").bind (·.toItems?)).map (·.filterMap (·.toChoice?))

end RuleOptions

def TagOptions.ofLoaded (l : Loaded) : TagOptions where
  ignoreCase := ((l.field? "ignore_case").bind (·.toBool?)).getD false
  locale := (l.field? "locale").bind (·.toText?)
  multiline := ((l.field? "multiline").bind (·.toChoice?)).getD .ignore

end FieldOrder
