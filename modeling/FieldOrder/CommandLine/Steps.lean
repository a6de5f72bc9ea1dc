import FieldOrder.CommandLine.Run

namespace FieldOrder

/-- A run on its way: the files as they are by now, and what was written and printed. -/
structure Progress where
  workspace : Workspace
  /-- New texts of files, by location, in the order in which they were written. -/
  written : List (List String × String) := []
  stdout : String := ""
  stderr : String := ""

/-- A location is given a file with a new text. -/
def Progress.write (p : Progress) (location : List String) (text : String) : Progress :=
  { p with
    workspace.tree := p.workspace.tree.insert (.file (Text.encode text.toList)) location
    written := p.written ++ [(location, text)] }

/-- A part of a run. -/
abbrev Steps := ExceptT RunError (StateM Progress)

namespace Steps

def runFrom {α : Type} (steps : Steps α) (p : Progress) : Except RunError α × Progress :=
  StateT.run (ExceptT.run steps) p

def start (w : Workspace) : Progress := { workspace := w }

def ofExcept {α : Type} (x : Except RunError α) : Steps α := ExceptT.mk (pure x)

def write (f : FoundFile) (text : String) : Steps Unit := modify (·.write f.location text)

def print (text : String) : Steps Unit := modify fun p => { p with stdout := p.stdout ++ text }

def printError (text : String) : Steps Unit := modify fun p => { p with stderr := p.stderr ++ text }

section
variable (env : Environment)

def checkFile (rules : List BoundRule) (f : FoundFile) : Steps FileOutcome := do
  let p ← get
  ofExcept (p.workspace.checkFile env rules f)

/-- Fixes one file. It is written before its report is made. -/
def fixFile (dryRun : Bool) (rules : List BoundRule) (f : FoundFile) : Steps FileOutcome := do
  let p ← get
  let name := p.workspace.displayName f
  match p.workspace.sourceText f with
  | .error e => return ⟨.unreadable name (e.message f.name), none⟩
  | .ok text =>
    let r ← ofExcept ((fixText rules (env.parserOf f) text).mapError .fix)
    if r.changed && !dryRun then write f r.text
    let report ← ofExcept
      ((FileReport.ofViolations name r.remaining r.text r.fixedCount).mapError .report)
    return ⟨report, if r.changed then some (f, r.text) else none⟩

def carryOut (r : Request) (work : List BoundRule → FoundFile → Steps FileOutcome) :
    Steps Nat := do
  let p ← get
  let (rules, files) ← ofExcept (p.workspace.prepare env r)
  let outcomes ← files.mapM (work rules)
  let reports := outcomes.map (·.report)
  let report := RunReport.ofFiles toolVersion reports
  match r.format, r.dryRun with
  | .json, _ => print report.toJson.document
  | .text, false => print report.toText
  | .text, true =>
    print (String.join ((outcomes.filterMap (·.fixed)).map p.workspace.shownFix))
    printError report.toText
  return Workspace.exitCode reports

def execute : Command → Steps Nat
  | .check r => carryOut env r (checkFile env)
  | .fix r => carryOut env r (fixFile env r.dryRun)
  | .rules => do
    print RuleKind.listing.document
    return 0

/-- Runs a command line up to the exit code. What the user can mend is told. -/
def run (words : List String) : Steps Nat :=
  match Invocation.ofWords words with
  | .error _ => return 2
  | .ok .help => return 0
  | .ok .version => do
    print (programName ++ " " ++ toolVersion ++ "\n")
    return 0
  | .ok (.command c _) =>
    tryCatch (execute env c) fun e =>
      match e.userMessage? with
      | some message => do
        printError message
        return 2
      | none => throw e

end

end Steps

end FieldOrder
