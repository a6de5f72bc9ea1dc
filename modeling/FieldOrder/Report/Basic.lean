import FieldOrder.Lint.Violation
import FieldOrder.Report.Json

namespace FieldOrder

/-- A merged fix: the range it replaces, and by what. -/
structure ReportedFix where
  start : Int
  stop : Int
  text : String
  deriving Repr, DecidableEq

structure ReportedViolation where
  rule : String
  severity : Severity
  message : String
  line : Int
  column : Int
  endLine : Int
  endColumn : Int
  fix : Option ReportedFix
  deriving Repr, DecidableEq

structure FileReport where
  path : String
  violations : List ReportedViolation := []
  fixedCount : Int := 0
  errorCount : Nat := 0
  warningCount : Nat := 0
  /-- Why the file could not be read. -/
  readError : Option String := none
  deriving Repr, DecidableEq

structure RunReport where
  toolVersion : String
  files : List FileReport
  errorCount : Nat
  warningCount : Nat
  fixedCount : Int
  deriving Repr, DecidableEq

inductive ReportError where
  /-- The edits of a violation cannot be merged. -/
  | merge (e : MergeError)
  /-- A place before the start of the text, a severity that is not reported, or a negative count. -/
  | invalid
  deriving Repr, DecidableEq

namespace ReportedViolation

/-- The violation as it is reported; `text` is what it was found in. -/
def ofViolation (text : String) (v : Violation) : Except ReportError ReportedViolation := do
  let fix ← match v.edits with
    | [] => pure none
    | edits => do
      let merged ← (Edit.merge text edits).mapError .merge
      pure (some ⟨merged.range.start, merged.range.stop, merged.replacement⟩)
  if v.severity = .off || v.line < 1 || v.column < 1 || v.endLine < 1 || v.endColumn < 1 then
    throw .invalid
  return {
    rule := v.rule, severity := v.severity, message := v.message, line := v.line
    column := v.column, endLine := v.endLine, endColumn := v.endColumn, fix }

end ReportedViolation

namespace FileReport

def ofViolations (path : String) (violations : List Violation) (text : String)
    (fixedCount : Int) : Except ReportError FileReport := do
  let reported ← violations.mapM (ReportedViolation.ofViolation text)
  if fixedCount < 0 then throw .invalid
  return {
    path, violations := reported, fixedCount
    errorCount := violations.countP (·.isError)
    warningCount := violations.countP (!·.isError) }

def unreadable (path cause : String) : FileReport := { path, readError := some cause }

end FileReport

namespace RunReport

def ofFiles (toolVersion : String) (files : List FileReport) : RunReport where
  toolVersion := toolVersion
  files := files
  errorCount := files.foldl (fun n f => n + f.errorCount) 0
  warningCount := files.foldl (fun n f => n + f.warningCount) 0
  fixedCount := files.foldl (fun n f => n + f.fixedCount) 0

end RunReport

end FieldOrder
