import FieldOrder.Rule.Kind
import FieldOrder.Rule.Error

namespace FieldOrder

structure BoundRule where
  kind : RuleKind
  options : RuleOptions
  /-- Only the rule for attributes has these. -/
  tagOptions : Option TagOptions
  policy : Policy
  /-- No other rule can be given a locale. -/
  locale_eq_none : kind ≠ .jsxProps → policy.collator.locale = none := by simp

namespace BoundRule

def name (r : BoundRule) : String := r.kind.name

def severity (r : BoundRule) : Severity := r.options.severity

def engine (r : BoundRule) : Engine := { policy := r.policy, style := r.kind.shape.style }

end BoundRule

namespace RuleKind

/-- Are names compared? One of two opposite options may say so. -/
def alphabetical (k : RuleKind) (o : RuleOptions) : Except ConfigError Bool :=
  match o.alphabetical, o.notAlphabetical with
  | some _, some _ => .error (.alphabeticalTwice k.name)
  | some b, none => .ok b
  | none, some b => .ok !b
  | none, none => .ok true

def precedence (k : RuleKind) (o : RuleOptions) : Except ConfigError (List Stage) :=
  match o.precedence with
  | none => .ok k.defaults.precedence
  | some stages => (Stage.complete stages k.defaults.precedence).mapError (.precedence k.name)

/-- The classifier that the options ask for, by prefixes or by patterns. -/
def classifier (k : RuleKind) (o : RuleOptions) : Except ConfigFailure Classifier :=
  let reserved := o.reservedNames.getD k.defaults.reservedNames
  match o.callbackPrefixes, o.callbackPatterns with
  | some _, some _ => .error (.config (.callbacksTwice k.name))
  | some words, none => .ok (.withPrefixes reserved words)
  | none, patterns =>
    match patterns.or k.defaults.callbackPatterns with
    | none => .ok (.withPrefixes reserved (k.defaults.callbackPrefixes.getD []))
    | some sources =>
      match Classifier.withPatterns reserved sources with
      | .ok c => .ok c
      | .error (.invalid fault source position) =>
        .error (.config (.pattern k.name (.invalid fault source position)))
      | .error e => .error (.pattern e)

/-- The order that the options of every rule stand for. Of several faults in them the first one in
this order is reported. -/
def basePolicy (k : RuleKind) (o : RuleOptions) : Except ConfigFailure Policy := do
  let alphabetical ← (k.alphabetical o).mapError .config
  let precedence ← (k.precedence o).mapError .config
  let classifier ← k.classifier o
  return {
    classifier, alphabetical, precedence
    reservedFirst := o.reservedFirst
    callbacksLast := o.callbacksLast
    shorthand := o.shorthand.getD k.defaults.shorthand }

/-- Only the rule for attributes has options of its own. -/
def tagOptions? (k : RuleKind) (l : Loaded) : Option TagOptions :=
  match k with
  | jsxProps => some (TagOptions.ofLoaded l)
  | _ => none

theorem tagOptions?_of_ne {k : RuleKind} (ne : k ≠ jsxProps) (l : Loaded) :
    k.tagOptions? l = none := by
  cases k with
  | jsxProps => exact absurd rfl ne
  | componentProps => rfl
  | typeProperties => rfl

variable (locales : Locales)

def collator (k : RuleKind) (tag : Option TagOptions) : Except ConfigError Collator :=
  match tag with
  | none => .ok {}
  | some t => (Collator.ofOptions locales t.ignoreCase t.locale).mapError (.locale k.name)

/-- The order that options stand for. -/
def policy (k : RuleKind) (o : RuleOptions) (tag : Option TagOptions) :
    Except ConfigFailure Policy := do
  let base ← k.basePolicy o
  let collator ← (k.collator locales tag).mapError .config
  return { base with collator, multiline := (tag.map (·.multiline)).getD .ignore }

variable {locales}

theorem locale_of_policy {k : RuleKind} {o : RuleOptions} {p : Policy}
    (made : k.policy locales o none = .ok p) : p.collator.locale = none := by
  rw [policy] at made
  cases base : k.basePolicy o with
  | error e =>
    rw [base] at made
    cases made
  | ok base' =>
    rw [base] at made
    cases made
    rfl

variable (locales)

def bindLoaded (k : RuleKind) (l : Loaded) : Except ConfigFailure BoundRule :=
  match made : k.policy locales (.ofLoaded l) (k.tagOptions? l) with
  | .error e => .error e
  | .ok policy => .ok {
      kind := k, options := .ofLoaded l, tagOptions := k.tagOptions? l, policy
      locale_eq_none := fun ne => locale_of_policy (tagOptions?_of_ne ne l ▸ made) }

/-- Binds a rule to raw options, none being the same as no entries. -/
def bind (k : RuleKind) (raw : Value) : Except ConfigFailure BoundRule := do
  let entries := match raw with
    | .map entries => entries
    | _ => []
  k.bindLoaded locales (← (k.schema.load (rulePath k.name) (.map entries)).mapError .ofLoad)

def defaultOptions (k : RuleKind) : List (String × Value) :=
  let texts (ws : List String) : Value := .list (ws.map .str)
  let orNull (ws : Option (List String)) : Value := (ws.map texts).getD .null
  let d := k.defaults
  let tagDefaults : List (String × Value) := match k with
    | jsxProps => [("ignore_case", .bool false), ("locale", .null), ("multiline", .str "ignore")]
    | _ => []
  [("severity", .str "warn"), ("callbacks_last", .bool true), ("sort_alphabetically", .bool true),
    ("reserved_first", .bool true), ("reserved_names", texts d.reservedNames),
    ("callback_prefixes", orNull d.callbackPrefixes),
    ("callback_patterns", orNull d.callbackPatterns),
    ("shorthand", .str (Choice.word d.shorthand)),
    ("precedence", texts (d.precedence.map Choice.word))] ++ tagDefaults

end RuleKind

end FieldOrder
