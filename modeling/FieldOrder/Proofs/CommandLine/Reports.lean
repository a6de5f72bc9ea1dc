import FieldOrder.Proofs.CommandLine.Ended
import FieldOrder.Proofs.CommandLine.Written
import FieldOrder.Proofs.Lint.Fixing
import Mathlib.Algebra.GroupWithZero.Nat

namespace FieldOrder

theorem ReportedViolation.severity_eq {text : String} {v : Violation} {shown : ReportedViolation}
    (h : ofViolation text v = .ok shown) : shown.severity = v.severity := by
  rw [ofViolation] at h
  split at h
  · split at h
    · cases h
    · cases h
      rfl
  · simp only [bind_eq_ok] at h
    obtain ⟨merged, -, fix, -, h⟩ := h
    split at h
    · cases h
    · cases h
      rfl

theorem RunReport.ofFiles_totals (toolVersion : String) (files : List FileReport) :
    (ofFiles toolVersion files).errorCount = (files.map (·.errorCount)).sum ∧
      (ofFiles toolVersion files).warningCount = (files.map (·.warningCount)).sum ∧
      (ofFiles toolVersion files).fixedCount = (files.map (·.fixedCount)).sum := by
  simp only [ofFiles, List.sum_eq_foldl, List.foldl_map, and_self]

namespace FileReport

/-- The report lists the violations of a text. -/
structure Lists (report : FileReport) (text : String) (vs : List Violation) : Prop where
  readable : report.readError = none
  shown : List.Forall₂ (fun v shown => ReportedViolation.ofViolation text v = .ok shown) vs
    report.violations

/-- The counts of the report are those of the violations that it lists. -/
structure Counts (report : FileReport) : Prop where
  errors : report.errorCount = report.violations.countP (·.severity == .error)
  all : report.errorCount + report.warningCount = report.violations.length

theorem countP_isError {text : String} {vs : List Violation} {shown : List ReportedViolation}
    (h : List.Forall₂ (fun v s => ReportedViolation.ofViolation text v = .ok s) vs shown) :
    vs.countP (·.isError) = shown.countP (·.severity == .error) := by
  induction h with
  | nil => rfl
  | cons first rest ih =>
    rw [List.countP_cons, List.countP_cons, ih, ReportedViolation.severity_eq first]
    rfl

theorem of_ofViolations {path text : String} {vs : List Violation} {count : Int}
    {report : FileReport} (h : ofViolations path vs text count = .ok report) :
    report.path = path ∧ report.fixedCount = count ∧ report.Counts ∧ report.Lists text vs := by
  obtain ⟨shown, each, h⟩ := bind_eq_ok.mp h
  have listed := forall₂_of_mapM_eq_ok each
  split at h
  · cases h
  cases h
  refine ⟨rfl, rfl, ⟨countP_isError listed, ?_⟩, rfl, listed⟩
  have all := List.length_eq_countP_add_countP (·.isError) (l := vs)
  rw [← listed.length_eq, all]
  simp

theorem unreadable_counts (path cause : String) : (unreadable path cause).Counts := ⟨rfl, rfl⟩

theorem Counts.errorCount_ne_zero {report : FileReport} (h : report.Counts) :
    report.errorCount ≠ 0 ↔ ∃ v ∈ report.violations, v.severity = .error := by
  rw [h.errors, ← Nat.pos_iff_ne_zero, List.countP_pos_iff]
  simp

end FileReport

/-- The report is printed in the form that was asked for. A dry run prints the new texts, and a
report in lines goes beside them. -/
def Outcome.Shows (out : Outcome) (r : Request) (report : RunReport) : Prop :=
  match r.format, r.dryRun with
  | .json, _ => out.stdout = report.toJson.document
  | .text, false => out.stdout = report.toText
  | .text, true => ∀ text ∈ out.stderr, text = report.toText

theorem Outcome.Shows.withoutMessages {out : Outcome} {r : Request} {report : RunReport}
    (h : out.Shows r report) : Shows { out with stderr := none } r report := by
  rw [Shows] at h ⊢
  split at h
  · exact h
  · exact h
  · exact fun text told => nomatch told

namespace Workspace
variable {env : Environment} {w : Workspace} {rules : List BoundRule} {f : FoundFile}

/-- What is reported of a file: that it cannot be read, or the violations of its text; of a file
that is fixed, those of the text with which it is left, and how many fixes were accepted in passes
that changed it. -/
structure Reports (env : Environment) (w : Workspace) (rules : List BoundRule) (fixing : Bool)
    (f : FoundFile) (report : FileReport) : Prop where
  path : report.path = w.displayName f
  counts : report.Counts
  unreadable : ∀ e, w.sourceText f = .error e →
    report.readError.isSome ∧ report.violations = [] ∧ report.fixedCount = 0
  checked : fixing = false → ∀ text, w.sourceText f = .ok text →
    report.fixedCount = 0 ∧
      ∃ vs, lintText rules (env.parserOf f) text = .ok vs ∧ report.Lists text vs
  fixed : fixing = true → ∀ text, w.sourceText f = .ok text →
    ∃ r ps, fixText rules (env.parserOf f) text = .ok r ∧
      Run rules (env.parserOf f) text ps r.text ∧ ps.length = r.passes ∧
      report.fixedCount = countedFixes ps ∧
      lintText rules (env.parserOf f) r.text = .ok r.remaining ∧ report.Lists r.text r.remaining

theorem reports_unreadable {fixing : Bool} {e : ReadError} (read : w.sourceText f = .error e)
    (cause : String) :
    w.Reports env rules fixing f (.unreadable (w.displayName f) cause) := by
  refine ⟨rfl, FileReport.unreadable_counts _ _, fun _ _ => ⟨rfl, rfl, rfl⟩, ?_, ?_⟩
  · intro _ text readable
    rw [read] at readable
    cases readable
  · intro _ text readable
    rw [read] at readable
    cases readable

theorem reports_of_checkFile {outcome : FileOutcome}
    (h : w.checkFile env rules f = .ok outcome) :
    w.Reports env rules false f outcome.report := by
  rw [checkFile] at h
  cases read : w.sourceText f with
  | error e =>
    simp only [read, pure_eq_ok] at h
    subst h
    exact reports_unreadable read _
  | ok text =>
    simp only [read, bind_eq_ok, mapError_eq_ok, pure_eq_ok] at h
    obtain ⟨vs, lint, report, made, rfl⟩ := h
    obtain ⟨path, count, counts, lists⟩ := FileReport.of_ofViolations made
    refine ⟨path, counts, ?_, ?_, fun fixing => by cases fixing⟩
    · rw [read]
      rintro _ ⟨⟩
    · rw [read]
      rintro - _ ⟨⟩
      exact ⟨count, vs, lint, lists⟩

theorem reports_of_fixFile {outcome : FileOutcome} (h : w.fixFile env rules f = .ok outcome) :
    w.Reports env rules true f outcome.report := by
  rw [fixFile] at h
  cases read : w.sourceText f with
  | error e =>
    simp only [read, pure_eq_ok] at h
    subst h
    exact reports_unreadable read _
  | ok text =>
    simp only [read, bind_eq_ok, mapError_eq_ok, pure_eq_ok] at h
    obtain ⟨r, fixing, report, made, rfl⟩ := h
    obtain ⟨path, count, counts, lists⟩ := FileReport.of_ofViolations made
    refine ⟨path, counts, ?_, (fun checking => by cases checking), ?_⟩
    · rw [read]
      rintro _ ⟨⟩
    · rw [read]
      rintro - _ ⟨⟩
      obtain ⟨lint, ps, run, -, passes, counted⟩ := exists_run fixing
      refine ⟨r, ps, fixing, run, ?_, ?_, lint, lists⟩
      · simpa using passes.symm
      · simpa [counted] using count

theorem Reports.readError_isSome {fixing : Bool} {report : FileReport}
    (h : w.Reports env rules fixing f report) :
    report.readError.isSome ↔ ∃ e, w.sourceText f = .error e := by
  cases read : w.sourceText f with
  | error e => simp [(h.unreadable e read).1]
  | ok text =>
    have readable : report.readError = none := by
      cases fixing with
      | false =>
        obtain ⟨-, vs, -, lists⟩ := h.checked rfl text read
        exact lists.readable
      | true =>
        obtain ⟨r, ps, -, -, -, -, -, lists⟩ := h.fixed rfl text read
        exact lists.readable
    simp [readable]

/-- How a file is dealt with. -/
def dealWith (env : Environment) (w : Workspace) (fixing : Bool) (rules : List BoundRule)
    (f : FoundFile) : Except RunError FileOutcome :=
  if fixing then w.fixFile env rules f else w.checkFile env rules f

theorem execute_dealWith (env : Environment) (w : Workspace) (r : Request) (fixing : Bool) :
    w.execute env (if fixing then .fix r else .check r) =
      w.carryOut env r (w.dealWith env fixing) := by
  cases fixing <;> rfl

theorem reports_of_dealWith {fixing : Bool} {outcome : FileOutcome}
    (h : w.dealWith env fixing rules f = .ok outcome) :
    w.Reports env rules fixing f outcome.report := by
  cases fixing with
  | false => exact reports_of_checkFile h
  | true => exact reports_of_fixFile h

theorem userMessage?_of_dealWith {fixing : Bool} {e : RunError}
    (h : w.dealWith env fixing rules f = .error e) : e.userMessage? = none := by
  cases fixing with
  | false => exact (Steps.checkFile_dealsWith false).silent f e h
  | true => exact (Steps.fixFile_dealsWith false).silent f e h

/-- What a run that came to its end has to tell: a report for each file, their totals, and the exit
code that goes with them. -/
structure Told (env : Environment) (w : Workspace) (rules : List BoundRule) (fixing : Bool)
    (files : List FoundFile) (r : Request) (report : RunReport) (out : Outcome) : Prop where
  each : List.Forall₂ (w.Reports env rules fixing) files report.files
  errorCount : report.errorCount = (report.files.map (·.errorCount)).sum
  warningCount : report.warningCount = (report.files.map (·.warningCount)).sum
  fixedCount : report.fixedCount = (report.files.map (·.fixedCount)).sum
  unreadable : (∃ f ∈ files, ∃ e, w.sourceText f = .error e) → out.exit = 2
  failing : (∀ f ∈ files, ∃ text, w.sourceText f = .ok text) →
    (∃ file ∈ report.files, ∃ v ∈ file.violations, v.severity = .error) → out.exit = 1
  passing : (∀ f ∈ files, ∃ text, w.sourceText f = .ok text) →
    (∀ file ∈ report.files, ∀ v ∈ file.violations, v.severity ≠ .error) → out.exit = 0
  shown : out.Shows r report

section
variable {fixing : Bool} {files : List FoundFile} {reports : List FileReport}
  (each : List.Forall₂ (w.Reports env rules fixing) files reports)
include each

theorem exitCode_of_unreadable (unreadable : ∃ f ∈ files, ∃ e, w.sourceText f = .error e) :
    exitCode reports = 2 := by
  obtain ⟨f, hf, failed⟩ := unreadable
  obtain ⟨report, mem, reported⟩ := exists_rel_of_mem_left each hf
  rw [exitCode, if_pos (List.any_eq_true.mpr ⟨report, mem, reported.readError_isSome.mpr failed⟩)]

theorem exitCode_of_readable (readable : ∀ f ∈ files, ∃ text, w.sourceText f = .ok text) :
    exitCode reports =
      if ∃ file ∈ reports, ∃ v ∈ file.violations, v.severity = .error then 1 else 0 := by
  have allRead : ¬ reports.any (·.readError.isSome) := by
    intro unreadable
    obtain ⟨report, mem, isSome⟩ := List.any_eq_true.mp unreadable
    obtain ⟨f, hf, reported⟩ := exists_rel_of_mem_right each mem
    obtain ⟨e, failed⟩ := reported.readError_isSome.mp isSome
    obtain ⟨text, read⟩ := readable f hf
    rw [read] at failed
    cases failed
  have errors : reports.any (·.errorCount != 0) ↔
      ∃ file ∈ reports, ∃ v ∈ file.violations, v.severity = .error := by
    rw [List.any_eq_true]
    refine exists_congr fun report => and_congr_right fun mem => ?_
    obtain ⟨f, -, reported⟩ := exists_rel_of_mem_right each mem
    rw [bne_iff_ne, reported.counts.errorCount_ne_zero]
  simp only [exitCode, if_neg allRead, errors]

end

section
variable {r : Request} {files : List FoundFile} {out : Outcome}

/-- A run that comes to its end has dealt with each file, and its report is made of theirs. -/
theorem exists_outcomes_of_carryOut
    {work : List BoundRule → FoundFile → Except RunError FileOutcome}
    (prepared : w.prepare env r = .ok (rules, files)) (h : w.carryOut env r work = .ok out) :
    ∃ outcomes, files.mapM (work rules) = .ok outcomes ∧
      out.exit = exitCode (outcomes.map (·.report)) ∧
      out.Shows r (RunReport.ofFiles toolVersion (outcomes.map (·.report))) := by
  simp only [carryOut, prepared, ok_bind] at h
  obtain ⟨outcomes, worked, h⟩ := bind_eq_ok.mp h
  refine ⟨outcomes, worked, ?_⟩
  rw [Outcome.Shows]
  cases format : r.format <;> cases dry : r.dryRun <;> simp only [format, dry] at h ⊢ <;> cases h
  · exact ⟨rfl, rfl⟩
  · exact ⟨rfl, fun text told => (Option.mem_some.mp told).symm⟩
  · exact ⟨rfl, rfl⟩
  · exact ⟨rfl, rfl⟩

theorem told_of_carryOut {fixing : Bool} (prepared : w.prepare env r = .ok (rules, files))
    (h : w.carryOut env r (w.dealWith env fixing) = .ok out) :
    ∃ report, w.Told env rules fixing files r report out := by
  obtain ⟨outcomes, worked, ended, shown⟩ := exists_outcomes_of_carryOut prepared h
  let reports := outcomes.map (·.report)
  have each : List.Forall₂ (w.Reports env rules fixing) files reports :=
    List.forall₂_map_right_iff.mpr ((forall₂_of_mapM_eq_ok worked).imp fun _ _ =>
      reports_of_dealWith)
  obtain ⟨errors, warnings, fixes⟩ := RunReport.ofFiles_totals toolVersion reports
  refine ⟨RunReport.ofFiles toolVersion reports, each, errors, warnings, fixes, ?_, ?_, ?_, shown⟩
  · intro unreadable
    rw [ended, exitCode_of_unreadable each unreadable]
  · intro readable failing
    rw [ended, exitCode_of_readable each readable]
    exact if_pos failing
  · intro readable passing
    rw [ended, exitCode_of_readable each readable]
    refine if_neg ?_
    rintro ⟨file, hfile, v, hv, error⟩
    exact passing file hfile v hv error

theorem carryOut_eq_error {e : RunError}
    {work : List BoundRule → FoundFile → Except RunError FileOutcome}
    (h : w.carryOut env r work = .error e) :
    w.prepare env r = .error e ∨ ∃ rules files, w.prepare env r = .ok (rules, files) ∧
      ∃ f ∈ files, work rules f = .error e := by
  rcases bind_eq_error.mp h with unprepared | ⟨⟨rules, files⟩, prepared, h⟩
  · exact .inl unprepared
  rcases bind_eq_error.mp h with unworked | ⟨outcomes, -, h⟩
  · exact .inr ⟨rules, files, prepared, exists_error_of_mapM unworked⟩
  · cases format : r.format <;> cases dry : r.dryRun <;> simp only [format, dry] at h <;> cases h

end

theorem severity_of_prepare {r : Request} {files : List FoundFile}
    (prepared : w.prepare env r = .ok (rules, files)) : ∀ rule ∈ rules, rule.severity ≠ .off := by
  simp only [prepare, Config.activeRules, bind_eq_ok, mapError_eq_ok, pure_eq_ok] at prepared
  obtain ⟨loaded, -, active, ⟨bound, -, rfl⟩, found, -, same⟩ := prepared
  cases same
  intro rule mem
  simpa using (List.mem_filter.mp mem).2

section
variable (fits : ∀ g, (env.parse g).Fits) (names : ∀ g, (env.parse g).NamesAttributes)
  (reportable : ∀ r ∈ rules, r.severity ≠ .off)
include fits reportable

theorem exists_ofViolations {text : String} {vs : List Violation} {count : Int}
    (lint : lintText rules (env.parserOf f) text = .ok vs) (natural : 0 ≤ count) (path : String) :
    ∃ report, FileReport.ofViolations path vs text count = .ok report := by
  obtain ⟨root, -, contained⟩ := contained_of_lintText (fits _) reportable lint
  exact contained.reports path count natural

include names

theorem exists_checkFile (f : FoundFile) : ∃ outcome, w.checkFile env rules f = .ok outcome := by
  rw [checkFile]
  cases w.sourceText f with
  | error e => exact ⟨_, rfl⟩
  | ok text =>
    obtain ⟨vs, lint⟩ : ∃ vs, lintText rules (env.parserOf f) text = .ok vs :=
      exists_lintText (fits _) (names _) text
    obtain ⟨report, made⟩ :=
      exists_ofViolations fits reportable lint (Int.le_refl 0) (w.displayName f)
    exact ⟨_, bind_eq_ok.mpr ⟨vs, mapError_eq_ok.mpr lint,
      bind_eq_ok.mpr ⟨report, mapError_eq_ok.mpr made, rfl⟩⟩⟩

theorem exists_fixFile (f : FoundFile) : ∃ outcome, w.fixFile env rules f = .ok outcome := by
  rw [fixFile]
  cases w.sourceText f with
  | error e => exact ⟨_, rfl⟩
  | ok text =>
    obtain ⟨r, fixed⟩ := exists_fixPasses (fits _) (names _) reportable maxFixPasses { text }
    obtain ⟨lint, ps, -, -, -, counted⟩ := exists_run fixed
    have natural : 0 ≤ r.fixedCount := by
      rw [counted]
      exact Int.add_nonneg (Int.le_refl 0) (Int.natCast_nonneg _)
    obtain ⟨report, made⟩ := exists_ofViolations fits reportable lint natural (w.displayName f)
    exact ⟨_, bind_eq_ok.mpr ⟨r, mapError_eq_ok.mpr fixed,
      bind_eq_ok.mpr ⟨report, mapError_eq_ok.mpr made, rfl⟩⟩⟩

theorem exists_dealWith (fixing : Bool) (f : FoundFile) :
    ∃ outcome, w.dealWith env fixing rules f = .ok outcome := by
  cases fixing with
  | false => exact exists_checkFile fits names reportable f
  | true => exact exists_fixFile fits names reportable f

end

section
variable {words : List String} {r : Request} {fixing verbose : Bool}
  (read : Invocation.ofWords words = .ok (.command (if fixing then .fix r else .check r) verbose))
include read

/-- An outcome tells what was found, or which mistake of the user kept the run from starting. -/
theorem told_of_run {out : Outcome} (h : w.run env words = .ok out) :
    (∃ e message, w.prepare env r = .error e ∧ e.userMessage? = some message ∧
      out = { exit := 2, stderr := if verbose then none else some message }) ∨
    ∃ rules files report, w.prepare env r = .ok (rules, files) ∧
      w.Told env rules fixing files r report out := by
  have made := execute_dealWith env w r fixing
  cases done : w.execute env (if fixing then .fix r else .check r) with
  | ok out =>
    rw [run_of_outcome read done] at h
    cases h
    rw [made] at done
    obtain ⟨⟨rules, files⟩, prepared, -⟩ := bind_eq_ok.mp done
    obtain ⟨report, told⟩ := told_of_carryOut prepared done
    refine .inr ⟨rules, files, report, prepared, ?_⟩
    cases verbose with
    | false => exact told
    | true => exact { told with shown := told.shown.withoutMessages }
  | error e =>
    cases told : e.userMessage? with
    | some message =>
      rw [run_of_userMessage read done told] at h
      cases h
      -- Files fail for reasons that are beyond the user, so this one is of the preparation.
      rcases carryOut_eq_error (made ▸ done) with unprepared | ⟨rules, files, -, f, -, failed⟩
      · exact .inl ⟨e, message, unprepared, told, rfl⟩
      · rw [userMessage?_of_dealWith failed] at told
        cases told
    | none =>
      rw [run_of_noMessage read done told] at h
      cases h

/-- What ends a run without an outcome is beyond the user, and comes of its preparation or of a
file. -/
theorem cases_of_run_eq_error {e : RunError} (h : w.run env words = .error e) :
    e.userMessage? = none ∧ (w.prepare env r = .error e ∨
      ∃ rules files, w.prepare env r = .ok (rules, files) ∧
        ∃ f ∈ files, w.dealWith env fixing rules f = .error e) := by
  have made := execute_dealWith env w r fixing
  cases done : w.execute env (if fixing then .fix r else .check r) with
  | ok out =>
    rw [run_of_outcome read done] at h
    cases h
  | error e' =>
    cases told : e'.userMessage? with
    | some message =>
      rw [run_of_userMessage read done told] at h
      cases h
    | none =>
      rw [run_of_noMessage read done told] at h
      cases h
      exact ⟨told, carryOut_eq_error (made ▸ done)⟩

end

/-- A run that checks or fixes and gives an outcome tells what it found, or which mistake of the
user kept it from starting. Once its files are collected it does give one, as long as the trees of
the parser fit the texts and no clean attribute has a NUL in its name. -/
theorem run_reports (env : Environment) (w : Workspace) (words : List String) (r : Request)
    (fixing verbose : Bool)
    (read : Invocation.ofWords words =
      .ok (.command (if fixing then .fix r else .check r) verbose)) :
    (∀ out, w.run env words = .ok out →
      (∃ e message, w.prepare env r = .error e ∧ e.userMessage? = some message ∧
        out = { exit := 2, stderr := if verbose then none else some message }) ∨
      ∃ rules files report, w.prepare env r = .ok (rules, files) ∧
        w.Told env rules fixing files r report out) ∧
    (∀ rules files, w.prepare env r = .ok (rules, files) → (∀ g, (env.parse g).Fits) →
      (∀ g, (env.parse g).NamesAttributes) →
      ∃ out report, w.run env words = .ok out ∧ w.Told env rules fixing files r report out) ∧
    ∀ e, w.run env words = .error e → e.userMessage? = none := by
  refine ⟨fun out => told_of_run read, fun rules files prepared fits names => ?_,
    fun e h => (cases_of_run_eq_error read h).1⟩
  cases ran : w.run env words with
  | ok out =>
    rcases told_of_run read ran with ⟨e, message, unprepared, -⟩ | ⟨_, _, report, prepared', told⟩
    · rw [prepared] at unprepared
      cases unprepared
    · rw [prepared] at prepared'
      cases prepared'
      exact ⟨out, report, rfl, told⟩
  | error e =>
    rcases (cases_of_run_eq_error read ran).2 with unprepared | ⟨_, _, prepared', f, -, failed⟩
    · rw [prepared] at unprepared
      cases unprepared
    · obtain ⟨outcome, dealt⟩ := exists_dealWith fits names (severity_of_prepare prepared') fixing f
      rw [dealt] at failed
      cases failed

/-- A parser that finds an empty program where another has no tree. -/
def parseAll (parse : Parse) : Parse := fun text =>
  some ((parse text).getD (.clean "program" 0 0 []))

section
variable {parse : Parse}

theorem parseAll_fits (wf : ∀ text root, parse text = some root → root.WellFormed text.toList) :
    (parseAll parse).Fits := by
  intro text
  refine ⟨_, rfl, ?_⟩
  cases tree : parse text with
  | none => exact Node.clean_wellFormed "program" text.toList
  | some root => exact wf text root tree

/-- Where there are no attributes, none has a NUL in its name. -/
theorem parseAll_namesAttributes (none : ∀ text root, parse text = some root →
    ∀ n ∈ root.preorder, n.kind ≠ "jsx_attribute") : (parseAll parse).NamesAttributes := by
  intro text root tree tag htag clean a ha kind
  have below : a ∈ root.preorder := Node.mem_preorder_trans
    (Node.mem_preorder_of_mem_children (List.mem_filter.mp ha).1) htag
  cases found : parse text with
  | none =>
    rw [parseAll, found] at tree
    cases tree
    have empty : a ∈ [Node.clean "program" 0 0 []] := below
    rw [List.mem_singleton.mp empty] at kind
    exact absurd kind (by decide)
  | some other =>
    rw [parseAll, found] at tree
    cases tree
    exact absurd kind (none text other found a below)

end

theorem run_reports_sample :
    let env := Environment.plain fun _ => parseAll parseSample
    let w := sample "({ b, a }) => 1\n"
    let r : Request := { targets := ["a.ts"] }
    Invocation.ofWords ["fix", "a.ts"] = .ok (.command (.fix r) false) ∧
      (∀ g, (env.parse g).Fits) ∧ (∀ g, (env.parse g).NamesAttributes) ∧
      ∃ out rules files report, w.prepare env r = .ok (rules, files) ∧
        w.run env ["fix", "a.ts"] = .ok out ∧ w.Told env rules true files r report out ∧
        out.exit = 0 ∧ report.toText = "0 problems (0 errors, 0 warnings), 1 fix applied\n" := by
  intro env w r
  have read : Invocation.ofWords ["fix", "a.ts"] = .ok (.command (.fix r) false) := by
    decide +kernel
  have fits (g : Grammar) : (env.parse g).Fits :=
    parseAll_fits fun text root h => (parseSample_sound text root h).1
  have names (g : Grammar) : (env.parse g).NamesAttributes :=
    parseAll_namesAttributes fun text root h => parseSample_kinds h
  have ended : (w.run env ["fix", "a.ts"]).toOption.map (fun out => (out.exit, out.stdout)) =
      some (0, "0 problems (0 errors, 0 warnings), 1 fix applied\n") := by decide +kernel
  have ready : (w.prepare env r).isOk = true := by decide +kernel
  obtain ⟨⟨rules, files⟩, prepared⟩ := exists_eq_ok_of_isOk ready
  obtain ⟨-, reported, -⟩ := run_reports env w ["fix", "a.ts"] r true false read
  obtain ⟨out, report, ran, told⟩ := reported rules files prepared fits names
  rw [ran] at ended
  have outcome := Option.some.inj ended
  exact ⟨read, fits, names, out, rules, files, report, prepared, ran, told,
    congrArg Prod.fst outcome, told.shown.symm.trans (congrArg Prod.snd outcome)⟩

end Workspace

end FieldOrder
