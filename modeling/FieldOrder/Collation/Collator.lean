import FieldOrder.Collation.Key
import FieldOrder.Collation.Locale

namespace FieldOrder

structure Collator where
  ignoreCase : Bool := false
  locale : Option Locale := none

structure LocaleKey where
  transformed : String
  root : CollationKey
  deriving Repr, DecidableEq

def LocaleKey.compare (a b : LocaleKey) : Ordering :=
  (Ord.compare a.transformed b.transformed).then (a.root.compare b.root)

/-- What collation leaves behind: the keys computed so far, the current locale, and how often it was
switched. The platform has one current locale, so it is switched for a computation and restored
after it. -/
structure CollationState where
  keys : List (String × LocaleKey) := []
  current : Locale := { name := "C" }
  switches : Nat := 0

namespace CollationState

def under {α : Type} (locale : Locale) (compute : Locale → α) (s : CollationState) :
    α × CollationState :=
  let switched := { s with current := locale, switches := s.switches + 1 }
  (compute switched.current, { switched with current := s.current })

end CollationState

namespace Collator

/-- A collator; the empty locale is none. -/
def ofOptions (locales : Locales) (ignoreCase : Bool) (locale : Option String) :
    Except LocaleError Collator :=
  match locale with
  | none => .ok ⟨ignoreCase, none⟩
  | some name =>
    if name.isEmpty then .ok ⟨ignoreCase, none⟩
    else (Locale.find locales name).map fun found => ⟨ignoreCase, some found⟩

def fold (c : Collator) (text : String) : String := if c.ignoreCase then Text.lower text else text

def rootKey (c : Collator) (text : String) : CollationKey := .ofText (c.fold text)

def localeKey (c : Collator) (locale : Locale) (text : String) : LocaleKey :=
  ⟨locale.transform (c.fold text), c.rootKey text⟩

/-- Compares two names by keys computed for the occasion. -/
def compare (c : Collator) (a b : String) : Ordering :=
  match c.locale with
  | none => (c.rootKey a).compare (c.rootKey b)
  | some l => (c.localeKey l a).compare (c.localeKey l b)

/-- Fails where the platform cannot transform a text: under a locale it takes none with a NUL. -/
def check (c : Collator) (texts : List String) : Except LocaleError Unit :=
  if c.locale.isSome && texts.any (·.toList.contains '\x00') then .error .holdsNul else .ok ()

def prime (c : Collator) (texts : List String) : StateM CollationState Unit := do
  match c.locale with
  | none => return
  | some locale =>
    let s ← get
    let missing := (texts.filter fun t => (s.keys.lookup t).isNone).eraseDups
    if missing.isEmpty then return
    let (keys, s) := s.under locale fun l => missing.map fun t => (t, c.localeKey l t)
    set { s with keys := s.keys ++ keys }

def key (c : Collator) (locale : Locale) (text : String) : StateM CollationState LocaleKey := do
  match (← get).keys.lookup text with
  | some k => return k
  | none =>
    c.prime [text]
    return ((← get).keys.lookup text).getD (c.localeKey locale text)

def compareKept (c : Collator) (a b : String) : StateM CollationState Ordering := do
  match c.locale with
  | none => return (c.rootKey a).compare (c.rootKey b)
  | some locale =>
    let ka ← c.key locale a
    let kb ← c.key locale b
    return ka.compare kb

end Collator

end FieldOrder
