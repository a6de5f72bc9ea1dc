namespace FieldOrder

inductive Flag where
  | help
  | version
  | verbose
  | config
  | format
  | dryRun
  deriving Repr, DecidableEq

namespace Flag

def takesValue : Flag → Bool
  | config | format => true
  | _ => false

def letter? : Flag → Option Char
  | help => some 'h'
  | version => some 'v'
  | _ => none

def word : Flag → String
  | help => "--help"
  | version => "--version"
  | verbose => "--verbose"
  | config => "--config"
  | format => "--format"
  | dryRun => "--dry-run"

end Flag

/-- A word of a command line. -/
inductive Argument where
  | operand (word : String)
  /-- Two hyphens. -/
  | separator
  /-- An option, with the value that is written into the same word. -/
  | option (flag : Flag) (value : Option String)
  /-- What looks like an option and is none. -/
  | unknown
  deriving Repr, DecidableEq

inductive UsageError where
  | ambiguous (word : String)
  | missingValue (flag : Flag)
  | unwantedValue (flag : Flag)
  | notAllowed (flag : Flag) (value : String)
  | noCommand
  | unknownCommand (word : String)
  | leftOver
  deriving Repr, DecidableEq

namespace Argument

/-- Is the text a number below zero? Such a word is an operand. -/
def isNegativeNumber (cs : List Char) : Bool :=
  match cs with
  | '-' :: rest =>
    let whole := rest.takeWhile Char.isDigit
    match rest.dropWhile Char.isDigit with
    | [] => !whole.isEmpty
    | '.' :: places => !places.isEmpty && places.all Char.isDigit
    | _ => false
  | _ => false

def splitEquals (cs : List Char) : List Char × Option (List Char) :=
  match cs.dropWhile (· != '=') with
  | [] => (cs, none)
  | _ :: value => (cs.takeWhile (· != '='), some value)

/-- The option whose word is given in full, or shortened. -/
def longOption (flags : List Flag) (cs : List Char) : Except UsageError (Option Argument) :=
  let (start, value) := splitEquals cs
  let full (f : Flag) (word : List Char) : Bool := f.word.toList == word
  match flags.find? (full · cs), flags.find? (full · start) with
  | some f, _ => .ok (some (option f none))
  | none, some f => .ok (some (option f (value.map String.ofList)))
  | none, none =>
    match flags.filter fun f => start.isPrefixOf f.word.toList with
    | [] => .ok none
    | [f] => .ok (some (option f (value.map String.ofList)))
    | _ => .error (.ambiguous (.ofList cs))

/-- What is written as a value after letters that stand together: letters of options go on, others
end them, and an equals sign or a hyphen starts a value. -/
def valueAfter (flags : List Flag) : List Char → Option String
  | [] => none
  | c :: rest =>
    if c = '=' || c = '-' then some (.ofList (c :: rest))
    else if flags.any (·.letter? == some c) then valueAfter flags rest
    else none

/-- The option that a letter stands for. -/
def shortOption (flags : List Flag) (cs : List Char) : Option Argument :=
  match cs with
  | c :: rest =>
    (flags.find? (·.letter? == some c)).map fun f => option f (valueAfter flags rest)
  | [] => none

def ofWord (flags : List Flag) (word : String) : Except UsageError Argument := do
  let cs := word.toList
  let known ← match cs with
    | '-' :: '-' :: _ => longOption flags cs
    | '-' :: rest => pure (shortOption flags rest)
    | _ => return operand word
  match known with
  | some a => return a
  | none =>
    return if cs = ['-'] || isNegativeNumber cs || cs.contains ' ' then operand word else unknown

def ofWords (flags : List Flag) : List String → Except UsageError (List Argument)
  | [] => .ok []
  | word :: rest =>
    if word = "--" then .ok (separator :: rest.map operand)
    else do
      let a ← ofWord flags word
      return a :: (← ofWords flags rest)

end Argument

end FieldOrder
