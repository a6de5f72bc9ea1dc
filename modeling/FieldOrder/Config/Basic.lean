import FieldOrder.Rule.Registry

namespace FieldOrder

/-- The setting of a rule: its defaults, a severity, or options. -/
inductive RuleSetting where
  | unset
  | severity (word : String)
  | options (entries : List (Value × Value))

def RuleSetting.toOptions : RuleSetting → Value
  | unset => .map []
  | severity word => .map [(.str "severity", .str word)]
  | options entries => .map entries

structure Config where
  /-- Name of the preset. -/
  preset : String
  extensions : List String
  /-- Patterns of files to pass over. -/
  exclude : List String
  rules : List (String × RuleSetting)

def defaultExtensions : List String :=
  [".ts", ".tsx", ".js", ".jsx", ".mts", ".cts", ".mjs", ".cjs"]

namespace Schema

def ruleSetting : Schema := unionOf [severity, dict str any, null]

def config : Schema := record "Config" [
  setting "extends" (literal [.str "recommended", .str "all", .str "none"]) (.str "recommended"),
  setting "extensions" (list str) (.list (defaultExtensions.map .str)),
  setting "exclude" (list str) (.list []),
  setting "rules" (dict str ruleSetting) (.dict [])]

end Schema

namespace Loaded

def toEntries? : Loaded → Option (List (Loaded × Loaded))
  | dict entries => some entries
  | _ => none

/-- The raw value that a loaded one stands for, where it was taken as it is. -/
def toValue? : Loaded → Option Value
  | plain v => some v
  | _ => none

def toSetting : Loaded → RuleSetting
  | plain (.str word) => .severity word
  | dict entries => .options (entries.filterMap fun (k, v) => do
      return (← k.toValue?, ← v.toValue?))
  | _ => .unset

end Loaded

namespace Config

def ofLoaded (l : Loaded) : Config where
  preset := ((l.field? "extends").bind (·.toText?)).getD "recommended"
  extensions := ((l.field? "extensions").bind (·.toTexts?)).getD []
  exclude := ((l.field? "exclude").bind (·.toTexts?)).getD []
  rules := (((l.field? "rules").bind (·.toEntries?)).getD []).filterMap fun (k, v) => do
    return (← k.toText?, v.toSetting)

/-- Reads raw data as a configuration; the record that it was loaded as. -/
def load (raw : Value) : Except LoadFailure Loaded := Schema.config.load "$" raw

def normalizeExtension (ext : String) : String :=
  if ext.toList.head? = some '.' then Text.lower ext else "." ++ Text.lower ext

def normalizedExtensions (c : Config) : List String :=
  (c.extensions.map normalizeExtension).eraseDups

def recommendedOptions : Value := .map [
  (.str "severity", .str "warn"),
  (.str "callbacks_last", .bool true),
  (.str "no_sort_alphabetically", .bool false),
  (.str "reserved_first", .bool true),
  (.str "reserved_names", .list (["id", "key", "ref", "name", "type"].map .str)),
  (.str "callback_prefixes", .list (["on", "set", "update", "handle", "render"].map .str))]

/-- The rules of a preset with their options; an unknown preset has none. -/
def presetRules (preset : String) : List (String × Value) :=
  if preset = "recommended" then
    [("sort-type-properties", recommendedOptions), ("sort-component-props", recommendedOptions)]
  else if preset = "all" then
    Registry.builtIn.names.map fun name => (name, .map [(.str "severity", .str "warn")])
  else []

/-- The options of every rule that is mentioned: an entry of the configuration takes the place of
the preset's. -/
def settings (c : Config) : List (String × Value) :=
  c.rules.foldl (fun settings (name, setting) =>
    putEntry (· == ·) name setting.toOptions settings) (presetRules c.preset)

/-- The rules that are on, by name. Those that are off are bound too, so that a fault in their
options is reported. -/
def activeRules (locales : Locales) (c : Config) : Except ConfigFailure (List BoundRule) := do
  let sorted := c.settings.mergeSort fun a b => a.1 ≤ b.1
  let bound ← sorted.mapM fun (name, options) => do
    let kind ← (RuleKind.ofName name).mapError .config
    kind.bind locales options
  return bound.filter (·.severity != .off)

end Config

end FieldOrder
