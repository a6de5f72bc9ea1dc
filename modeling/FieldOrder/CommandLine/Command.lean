import FieldOrder.Choice
import FieldOrder.CommandLine.Arguments

namespace FieldOrder

inductive ReportFormat where
  | text
  | json
  deriving Repr, DecidableEq

instance : Choice ReportFormat where
  name := "ReportFormat"
  words := [("text", .text), ("json", .json)]
  word
    | .text => "text"
    | .json => "json"

/-- What checking and fixing have in common. -/
structure Request where
  targets : List String := []
  configFile : Option String := none
  format : ReportFormat := .text
  /-- Show what fixing would write, and write nothing. -/
  dryRun : Bool := false
  deriving Repr, DecidableEq

inductive Command where
  | check (r : Request)
  | fix (r : Request)
  | rules
  deriving Repr, DecidableEq

inductive Invocation where
  | command (c : Command) (verbose : Bool)
  | version
  | help
  deriving Repr, DecidableEq

namespace Command

/-- What an option asks for by itself, whatever else there is. -/
def ending? : Flag → Option Invocation
  | .help => some .help
  | .version => some .version
  | _ => none

def withOption (r : Request) (flag : Flag) (value : String) : Except UsageError Request :=
  match flag with
  | .config => .ok { r with configFile := if value = "" then none else some value }
  | .format =>
    match (Choice.ofWord value : Except UnknownChoice ReportFormat) with
    | .ok format => .ok { r with format }
    | .error _ => .error (.notAllowed flag value)
  | .dryRun => .ok { r with dryRun := true }
  | _ => .ok r

/-- Operands count only where they stand together. -/
inductive Operands where
  | awaited
  | reading
  | closed
  deriving Repr, DecidableEq

/-- An option ends the operands before it. -/
def Operands.afterOption : Operands → Operands
  | reading => closed
  | o => o

/-- Reads the words after the name of a command into a request. What has no place is told of only
at the end, as an option on the way may end it all. -/
def readRequest : Operands → Bool → Request → List Argument →
    Except UsageError (Invocation ⊕ Request)
  | _, leftOver, r, [] => if leftOver then .error .leftOver else .ok (.inr r)
  | .closed, _, r, .operand _ :: rest => readRequest .closed true r rest
  | .closed, _, r, .separator :: rest => readRequest .closed true r rest
  | _, leftOver, r, .operand word :: rest =>
    readRequest .reading leftOver { r with targets := r.targets ++ [word] } rest
  | _, leftOver, r, .separator :: rest => readRequest .reading leftOver r rest
  | o, _, r, .unknown :: rest => readRequest o.afterOption true r rest
  | o, leftOver, r, .option flag (some value) :: rest =>
    if flag.takesValue then do
      readRequest o.afterOption leftOver (← withOption r flag value) rest
    else .error (.unwantedValue flag)
  | o, leftOver, r, .option flag none :: rest =>
    match ending? flag with
    | some i => .ok (.inl i)
    | none =>
      if flag.takesValue then
        match rest with
        | .operand value :: rest => do
          readRequest o.afterOption leftOver (← withOption r flag value) rest
        | _ => .error (.missingValue flag)
      else do readRequest o.afterOption leftOver (← withOption r flag "") rest

/-- Options that the commands know. -/
def flags (name : String) : Option (List Flag) :=
  match name with
  | "check" => some [.help, .config, .format]
  | "fix" => some [.help, .config, .format, .dryRun]
  | "rules" => some [.help]
  | _ => none

def ofWords (name : String) (words : List String) : Except UsageError (Invocation ⊕ Command) := do
  match flags name with
  | none => throw (.unknownCommand name)
  | some flags =>
    let operands := if name = "rules" then Operands.closed else .awaited
    match ← readRequest operands false {} (← Argument.ofWords flags words) with
    | .inl i => return .inl i
    | .inr r =>
      return .inr (if name = "check" then check r else if name = "fix" then fix r else rules)

end Command

namespace Invocation

def flags : List Flag := [.help, .version, .verbose]

/-- Reads a command line, given also what each of its words is among the first options. -/
def read (verbose leftOver : Bool) : List String → List Argument → Except UsageError Invocation
  | name :: words, .operand _ :: _ => do
    match ← Command.ofWords name words with
    | .inl i => return i
    | .inr c => if leftOver then throw .leftOver else return command c verbose
  | _ :: words, .option flag none :: rest =>
    match Command.ending? flag with
    | some i => .ok i
    | none => read true leftOver words rest
  | _ :: _, .option flag (some _) :: _ => .error (.unwantedValue flag)
  | _ :: words, .unknown :: rest => read verbose true words rest
  | _, _ => .error .noCommand

def ofWords (words : List String) : Except UsageError Invocation := do
  read false false words (← Argument.ofWords flags words)

end Invocation

end FieldOrder
