import FieldOrder.CommandLine.Command
import FieldOrder.Config.File
import FieldOrder.Files.Collect
import FieldOrder.Lint.Fix
import FieldOrder.Report.Listing
import FieldOrder.Report.Text

namespace FieldOrder

/-- What a run is given by other programs and by its platform. -/
structure Environment where
  parse : Grammar → Parse
  readDocument : Config.DocumentReader
  compile : IgnoreCompiler
  locales : Locales

namespace Environment

/-- A parser, with the readers of documents and patterns that are defined here, on a bare
platform. -/
def plain (parse : Grammar → Parse) : Environment where
  parse
  readDocument := Yaml.load
  compile := Ignore.compile
  locales := Locale.posix

def parserOf (env : Environment) (f : FoundFile) : Parse :=
  env.parse (Grammar.ofExtension f.extension)

end Environment

/-- What a run leaves behind. -/
structure Outcome where
  exit : Nat
  stdout : String := ""
  /-- `none` where the wording is not laid down. -/
  stderr : Option String := some ""
  /-- New texts of files, by location. -/
  written : List (List String × String) := []
  deriving Repr, DecidableEq

inductive RunError where
  | configFile (e : ConfigFileError)
  | rules (e : ConfigFailure)
  | collect (e : CollectError)
  | lint (e : LintError)
  | fix (e : FixError)
  | report (e : ReportError)

/-- The message for the user, if the user can mend what is wrong. What follows the name of a
malformed file is not laid down, so that message stays without an end of line. -/
def RunError.userMessage? : RunError → Option String
  | configFile (.config (.malformed path)) => some (ConfigError.malformed path).message
  | configFile (.config e) => some (Text.trimRight e.message ++ "\n")
  | rules (.config e) => some (Text.trimRight e.message ++ "\n")
  | collect (.missing target) => some (Text.trimRight (CollectError.missing target).message ++ "\n")
  | _ => none

def programName : String := "prop-ordering"

def toolVersion : String := "0.1.0"

/-- Why a source file is passed over. -/
inductive ReadError where
  | os (e : OsError)
  | notText (e : Text.Utf8Error)
  deriving Repr, DecidableEq

def ReadError.message (name : String) : ReadError → String
  | os e => "Cannot read " ++ name ++ ": " ++ e.message name
  | notText e => "Cannot read " ++ name ++ ": " ++ e.message

/-- What became of one file. -/
structure FileOutcome where
  report : FileReport
  /-- The text that fixing made of it, if that changed anything. -/
  fixed : Option (FoundFile × String) := none

namespace Workspace

/-- The name of a file in reports: from the current directory on, or in full outside it. -/
def displayName (w : Workspace) (f : FoundFile) : String :=
  if w.current.isPrefixOf f.location then Path.joinNames (f.location.drop w.current.length)
  else f.name

def bytesAt (w : Workspace) (location : List String) : List UInt8 :=
  match w.tree.at? location with
  | some (.file bytes) => bytes
  | _ => []

/-- The text of a source file; its lines end in line feeds alone. -/
def sourceText (w : Workspace) (f : FoundFile) : Except ReadError String :=
  match f.obstacle with
  | some e => .error (.os e)
  | none => do
    let bytes ← (w.read f.location).mapError .os
    let text ← (Text.decode bytes).mapError .notText
    return .ofList (Text.unifyLineEnds text)

variable (env : Environment)

/-- Checks one file; what cannot be read is reported and passed over. -/
def checkFile (w : Workspace) (rules : List BoundRule) (f : FoundFile) :
    Except RunError FileOutcome := do
  let name := w.displayName f
  match w.sourceText f with
  | .error e => return ⟨.unreadable name (e.message f.name), none⟩
  | .ok text =>
    let violations ← (lintText rules (env.parserOf f) text).mapError .lint
    return ⟨← (FileReport.ofViolations name violations text 0).mapError .report, none⟩

/-- Fixes one file. -/
def fixFile (w : Workspace) (rules : List BoundRule) (f : FoundFile) :
    Except RunError FileOutcome := do
  let name := w.displayName f
  match w.sourceText f with
  | .error e => return ⟨.unreadable name (e.message f.name), none⟩
  | .ok text =>
    let r ← (fixText rules (env.parserOf f) text).mapError .fix
    let report ← (FileReport.ofViolations name r.remaining r.text r.fixedCount).mapError .report
    return ⟨report, if r.changed then some (f, r.text) else none⟩

/-- The rules of a request's configuration, and the files it is for. -/
def prepare (w : Workspace) (r : Request) : Except RunError (List BoundRule × List FoundFile) := do
  let loaded ← (Config.loadFrom w env.readDocument (r.configFile.map Path.ofText)).mapError
    .configFile
  let config := Config.ofLoaded loaded
  let rules ← (config.activeRules env.locales).mapError .rules
  let targets := if r.targets.isEmpty then ["."] else r.targets
  let files ← (w.collect env.compile (targets.map Path.ofText) config.normalizedExtensions
    config.exclude).mapError .collect
  return (rules, files)

/-- A fixed text as it is shown instead of being written. -/
def shownFix (w : Workspace) (fix : FoundFile × String) : String :=
  "==> " ++ w.displayName fix.1 ++ " <==\n" ++
    if fix.2.endsWith "\n" then fix.2 else fix.2 ++ "\n"

/-- 2 if something could not be read, else 1 if there is an error to mend. -/
def exitCode (files : List FileReport) : Nat :=
  if files.any (·.readError.isSome) then 2
  else if files.any fun f => f.errorCount != 0 then 1
  else 0

/-- Carries out a request, by a way to deal with one file. -/
def carryOut (w : Workspace) (r : Request)
    (work : List BoundRule → FoundFile → Except RunError FileOutcome) :
    Except RunError Outcome := do
  let (rules, files) ← w.prepare env r
  let outcomes ← files.mapM (work rules)
  let reports := outcomes.map (·.report)
  let fixes := outcomes.filterMap (·.fixed)
  let report := RunReport.ofFiles toolVersion reports
  let written := if r.dryRun then [] else
    (fixes.filter fun (f, text) => Text.encode text.toList != w.bytesAt f.location).map
      fun (f, text) => (f.location, text)
  let exit := exitCode reports
  match r.format, r.dryRun with
  | .json, _ => return { exit, stdout := report.toJson.document, written }
  | .text, false => return { exit, stdout := report.toText, written }
  | .text, true =>
    return { exit, stdout := String.join (fixes.map w.shownFix), stderr := some report.toText }

def execute (w : Workspace) : Command → Except RunError Outcome
  | .check r => w.carryOut env r (w.checkFile env)
  | .fix r => w.carryOut env r (w.fixFile env)
  | .rules => .ok { exit := 0, stdout := RuleKind.listing.document }

/-- Runs a command line. An early end that is beyond the user is left to the caller. -/
def run (w : Workspace) (words : List String) : Except RunError Outcome :=
  match Invocation.ofWords words with
  | .error _ => .ok { exit := 2, stderr := none }
  | .ok .help => .ok { exit := 0, stderr := none }
  | .ok .version =>
    .ok { exit := 0, stdout := programName ++ " " ++ toolVersion ++ "\n", stderr := none }
  | .ok (.command c verbose) => do
    let outcome ← match w.execute env c with
      | .ok outcome => pure outcome
      | .error e =>
        match e.userMessage? with
        | some message => pure { exit := 2, stderr := some message }
        | none => throw e
    return if verbose then { outcome with stderr := none } else outcome

end Workspace

end FieldOrder
