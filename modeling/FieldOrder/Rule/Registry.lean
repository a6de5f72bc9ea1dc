import FieldOrder.Rule.Bound

namespace FieldOrder

/-- Where the class of a rule is said to be. -/
structure Registration where
  moduleName : String
  className : String
  deriving Repr, DecidableEq

/-- The classes that can be found: those of the rules, and the one they extend. -/
inductive RuleClass where
  | base
  | rule (k : RuleKind)
  deriving Repr, DecidableEq

def RuleClass.name : RuleClass → String
  | base => "base"
  | rule k => k.name

inductive RegistryError where
  | unknown (e : ConfigError)
  | noModule
  | noClass (className moduleName : String)
  | notARule
  | otherName (registered declared : String)

def RegistryError.message : RegistryError → String
  | unknown e => e.message
  | noModule => ""
  | noClass className moduleName =>
    "Rule class '" ++ className ++ "' not found in " ++ moduleName
  | notARule => ""
  | otherName registered declared =>
    "Rule registered as '" ++ registered ++ "' declares name '" ++ declared ++ "'"

inductive ModuleMember where
  | ruleClass (c : RuleClass)
  | otherClass

/-- Names of rules, and where the class of each is said to be. A class is looked up when its rule is
first asked for, and kept. -/
structure Registry where
  registrations : List (String × Registration)
  resolved : List (String × RuleClass) := []

namespace Registry

def packageName : String := "prop_ordering.rules"

def modules : List (String × List (String × ModuleMember)) := [
  (".sort_component_props", [("SortComponentProps", .ruleClass (.rule .componentProps)),
    ("OrderingRule", .ruleClass .base), ("RuleOptions", .otherClass)]),
  (".sort_jsx_props", [("SortJsxProps", .ruleClass (.rule .jsxProps)),
    ("OrderingRule", .ruleClass .base), ("RuleDefaults", .otherClass)]),
  (".sort_type_properties", [("SortTypeProperties", .ruleClass (.rule .typeProperties)),
    ("OrderingRule", .ruleClass .base), ("RuleOptions", .otherClass)]),
  (".options", [("RuleOptions", .otherClass), ("RuleDefaults", .otherClass)]),
  (".base", [("OrderingRule", .ruleClass .base), ("RuleOptions", .otherClass),
    ("RuleDefaults", .otherClass)])]

def findModule? (name : String) : Option (List (String × ModuleMember)) :=
  match modules.lookup name with
  | some members => some members
  | none => (modules.find? fun (relative, _) => packageName ++ relative == name).map (·.2)

def builtIn : Registry where
  registrations := RuleKind.all.map fun k =>
    (k.name, ⟨"." ++ String.ofList (k.name.toList.map fun c => if c = '-' then '_' else c),
      k.className⟩)

def register (r : Registry) (name : String) (registration : Registration) : Registry :=
  { r with registrations := putEntry (· == ·) name registration r.registrations }

/-- Names of all registered rules, in order. -/
def names (r : Registry) : List String :=
  (r.registrations.map (·.1)).mergeSort fun a b => a ≤ b

def load (name : String) (registration : Registration) : Except RegistryError RuleClass :=
  match findModule? registration.moduleName with
  | none => .error .noModule
  | some members =>
    match members.lookup registration.className with
    | none => .error (.noClass registration.className registration.moduleName)
    | some .otherClass => .error .notARule
    | some (.ruleClass c) => if c.name = name then .ok c else .error (.otherName name c.name)

/-- The class of a rule, and the registry that keeps it. -/
def get (r : Registry) (name : String) : Except RegistryError (RuleClass × Registry) :=
  match r.resolved.lookup name with
  | some c => .ok (c, r)
  | none =>
    match r.registrations.lookup name with
    | none => .error (.unknown (.unknownRule name r.names))
    | some registration => do
      let c ← load name registration
      return (c, { r with resolved := (name, c) :: r.resolved })

end Registry

def RuleKind.ofName (name : String) : Except ConfigError RuleKind :=
  match RuleKind.all.find? (·.name == name) with
  | some k => .ok k
  | none => .error (.unknownRule name Registry.builtIn.names)

end FieldOrder
