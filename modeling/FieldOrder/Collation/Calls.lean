import FieldOrder.Patch

namespace FieldOrder

/-- What collation needs of a platform. -/
structure Platform where
  /-- A text as a locale orders it, unless the platform refuses it. -/
  transform : Locale → String → Except LocaleError String
  /-- The order in which the texts of a set are gone through. -/
  arrange : List String → List String
  arrange_perm : ∀ texts, (arrange texts).Perm texts

/-- The platform that refuses no text. -/
def Platform.plain : Platform where
  transform locale text := .ok (locale.transform text)
  arrange texts := texts
  arrange_perm _ := .rfl

/-- A part of a collation. What it left behind stays when it fails. -/
abbrev Collating := ExceptT LocaleError (StateM CollationState)

namespace Collating
variable {α : Type}

/-- How the collation ends, and what it leaves behind. -/
def runFrom (x : Collating α) (s : CollationState) : Except LocaleError α × CollationState :=
  StateT.run (ExceptT.run x) s

def ofExcept (x : Except LocaleError α) : Collating α := ExceptT.mk (pure x)

/-- Collates under a locale and goes back to the one before, however that ends. -/
def under (locale : Locale) (x : Collating α) : Collating α := do
  let before ← get
  set { before with current := locale, switches := before.switches + 1 }
  try x
  finally modify fun s => { s with current := before.current }

end Collating

namespace Collator

/-- The key of a text under a locale, unless the platform refuses the text. -/
def freshKey (c : Collator) (host : Platform) (locale : Locale) (text : String) :
    Except LocaleError LocaleKey :=
  (host.transform locale (c.fold text)).map (⟨·, c.rootKey text⟩)

/-- Compares two names by keys computed for the occasion. -/
def compareFresh (c : Collator) (host : Platform) (a b : String) : Except LocaleError Ordering :=
  match c.locale with
  | none => .ok ((c.rootKey a).compare (c.rootKey b))
  | some locale => do
    let ka ← c.freshKey host locale a
    let kb ← c.freshKey host locale b
    return ka.compare kb

def keepEach (c : Collator) (host : Platform) (texts : List String) : Collating Unit :=
  texts.forM fun text => do
    let s ← get
    let key ← Collating.ofExcept (c.freshKey host s.current text)
    set { s with keys := s.keys ++ [(text, key)] }

/-- Computes the keys that are missing, all under one switch of the locale. -/
def primeOn (c : Collator) (host : Platform) (texts : List String) : Collating Unit := do
  match c.locale with
  | none => return
  | some locale =>
    let s ← get
    let missing := (texts.filter fun t => (s.keys.lookup t).isNone).eraseDups
    if missing.isEmpty then return
    Collating.under locale (c.keepEach host (host.arrange missing))

def keyOn (c : Collator) (host : Platform) (locale : Locale) (text : String) :
    Collating LocaleKey := do
  match (← get).keys.lookup text with
  | some k => return k
  | none =>
    c.primeOn host [text]
    return ((← get).keys.lookup text).getD (c.localeKey locale text)

def collateOn (c : Collator) (host : Platform) (a b : String) : Collating Ordering := do
  match c.locale with
  | none => return (c.rootKey a).compare (c.rootKey b)
  | some locale =>
    let ka ← c.keyOn host locale a
    let kb ← c.keyOn host locale b
    return ka.compare kb

end Collator

inductive CollatorCall where
  | prime (texts : List String)
  | compare (a b : String)

namespace CollatorCall

/-- Makes a call; what it answers, if it compares. -/
def make (c : Collator) (host : Platform) : CollatorCall → Collating (Option Ordering)
  | prime texts => do
    c.primeOn host texts
    return none
  | compare a b => do
    let o ← c.collateOn host a b
    return some o

/-- Makes calls one after another, whether they fail or not; the answers, and what is left behind.
-/
def makeAll (c : Collator) (host : Platform) : List CollatorCall → CollationState →
    List (Except LocaleError (Option Ordering)) × CollationState
  | [], s => ([], s)
  | call :: rest, s =>
    let (answer, s) := (call.make c host).runFrom s
    let (answers, s) := makeAll c host rest s
    (answer :: answers, s)

end CollatorCall

namespace Policy

def primeOn (p : Policy) (host : Platform) (fields : List Field) : Collating Unit :=
  if p.alphabetical then p.collator.primeOn host (fields.filterMap (·.name)) else pure ()

def collateOn (p : Policy) (host : Platform) (a b : Field) : Collating Ordering :=
  p.compareWith (p.collator.collateOn host) a b

end Policy

namespace Engine

def analyzeOn (e : Engine) (host : Platform) (text : String) (fields : List Field)
    (fixable : Bool) : Collating (Except PatchError (Option (List Edit))) := do
  e.policy.primeOn host fields
  e.judgeBy (e.policy.collateOn host) text fields fixable

end Engine

end FieldOrder
