import FieldOrder.Text.Quoted

namespace FieldOrder

structure Locale where
  name : String
  /-- A text in the form in which the locale compares it, by code point. -/
  transform : String → String := id

/-- The locales that a platform has, by the names that it knows them under. -/
abbrev Locales := String → Option Locale

inductive LocaleError where
  | unsupported (name : String)
  | holdsNul
  deriving Repr, DecidableEq

def LocaleError.message : LocaleError → String
  | unsupported name =>
    "unsupported locale " ++ Text.quoted name ++ ": unsupported locale setting"
  | holdsNul => "embedded null character"

namespace Locale

/-- The spellings to try for a name: with an encoding, unless it names one, before without. -/
def candidates (name : String) : List String :=
  let base := String.ofList (name.toList.map fun c => if c = '-' then '_' else c)
  if base.toList.contains '.' then [base] else [base ++ ".UTF-8", base ++ ".utf8", base]

def find (locales : Locales) (name : String) : Except LocaleError Locale :=
  if name.toList.contains '\x00' then .error .holdsNul
  else match (candidates name).findSome? locales with
    | some found => .ok found
    | none => .error (.unsupported name)

/-- The locales of a bare platform, which compare texts as they are. -/
def posix : Locales := fun name =>
  if ["C", "C.UTF-8", "C.utf8", "POSIX"].contains name then some { name } else none

end Locale

end FieldOrder
