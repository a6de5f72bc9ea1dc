import FieldOrder.Policy
import FieldOrder.Schema.Load

namespace FieldOrder

/-- A fault in a configuration, reported when its rules are activated. -/
inductive ConfigError where
  | invalid (e : LoadError)
  | unknownRule (name : String) (available : List String)
  | alphabeticalTwice (rule : String)
  | callbacksTwice (rule : String)
  | precedence (rule : String) (e : DuplicateStage)
  | pattern (rule : String) (e : Pattern.Error)
  | locale (rule : String) (e : LocaleError)
  | unreadable (path : String) (cause : String)
  | malformed (path : String)
  | notMapping (path : String)
  | notFound (path : String)

def rulePath (rule : String) : String := "$.rules." ++ rule

def ConfigError.message : ConfigError → String
  | invalid e => e.message
  | unknownRule name available =>
    "Unknown rule '" ++ name ++ "'. Available rules: " ++ ", ".intercalate available
  | alphabeticalTwice rule =>
    rulePath rule ++ ": use either sort_alphabetically or no_sort_alphabetically, not both"
  | callbacksTwice rule =>
    rulePath rule ++ ": use either callback_prefixes or callback_patterns, not both"
  | precedence rule e => rulePath rule ++ ".precedence: " ++ e.message
  | pattern rule e =>
    rulePath rule ++ ".callback_patterns: invalid regular expression " ++ e.shownSource ++ ": " ++
      e.message
  | locale rule e => rulePath rule ++ ".locale: " ++ e.message
  | unreadable path cause => "Cannot read config file " ++ path ++ ": " ++ cause
  | malformed path => "Invalid YAML in " ++ path
  | notMapping path => "YAML must be a mapping: " ++ path
  | notFound path => "Config file not found: " ++ path

/-- Why options could not be put to use: a fault to report, or one beyond what is foreseen. -/
inductive ConfigFailure where
  | config (e : ConfigError)
  | load (e : LoadFailure)
  | pattern (e : Pattern.Error)

def ConfigFailure.ofLoad : LoadFailure → ConfigFailure
  | .invalid e => .config (.invalid e)
  | e => .load e

end FieldOrder
