import FieldOrder.Report.Basic

namespace FieldOrder

def plural (n : Int) (one many : String) : String :=
  toString n ++ " " ++ if n = 1 then one else many

namespace ReportedViolation

def textLine (v : ReportedViolation) : String :=
  "  " ++ toString v.line ++ ":" ++ toString v.column ++ "  " ++ Choice.word v.severity ++ "  " ++
    v.message ++ "  " ++ v.rule

def toJson (v : ReportedViolation) : Json := .obj [
  ("rule", .str v.rule),
  ("severity", .str (Choice.word v.severity)),
  ("message", .str v.message),
  ("line", .int v.line),
  ("column", .int v.column),
  ("end_line", .int v.endLine),
  ("end_column", .int v.endColumn),
  ("fix", match v.fix with
    | none => .null
    | some f => .obj [("range", .arr [.int f.start, .int f.stop]), ("text", .str f.text)])]

end ReportedViolation

namespace FileReport

def lines (f : FileReport) : List String :=
  let unreadable := f.readError.filter (· != "")
  if f.violations.isEmpty && unreadable.isNone then []
  else
    [f.path] ++ (unreadable.map fun cause => "  error  " ++ cause).toList ++
      f.violations.map (·.textLine) ++ [""]

def toJson (f : FileReport) : Json := .obj [
  ("path", .str f.path),
  ("violations", .arr (f.violations.map (·.toJson))),
  ("fixed_count", .int f.fixedCount),
  ("error_count", .int f.errorCount),
  ("warning_count", .int f.warningCount),
  ("read_error", (f.readError.map Json.str).getD .null)]

end FileReport

namespace RunReport

def summary (r : RunReport) : String :=
  let total := r.errorCount + r.warningCount
  plural total "problem" "problems" ++ " (" ++ plural r.errorCount "error" "errors" ++ ", " ++
    plural r.warningCount "warning" "warnings" ++ ")" ++
    if r.fixedCount = 0 then "" else ", " ++ plural r.fixedCount "fix" "fixes" ++ " applied"

def toText (r : RunReport) : String :=
  "\n".intercalate (r.files.flatMap (·.lines) ++ [r.summary]) ++ "\n"

def formVersion : Int := 1

def toJson (r : RunReport) : Json := .obj [
  ("protocol", .int formVersion),
  ("tool_version", .str r.toolVersion),
  ("files", .arr (r.files.map (·.toJson))),
  ("error_count", .int r.errorCount),
  ("warning_count", .int r.warningCount),
  ("fixed_count", .int r.fixedCount)]

end RunReport

end FieldOrder
