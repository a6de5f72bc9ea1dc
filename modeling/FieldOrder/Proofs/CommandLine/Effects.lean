import FieldOrder.Proofs.CommandLine.Ended
import FieldOrder.Proofs.CommandLine.Written

namespace FieldOrder

namespace Steps
variable {env : Environment} {w : Workspace} {rules : List BoundRule}

/-- What the steps of a run come to is what the run as a whole comes to. A text that a file has
already is written to it all the same. -/
def Agrees (w : Workspace) : Except RunError Outcome → Except RunError Nat → Progress → Prop
  | .error e, result, _ => result = .error e
  | .ok out, result, p => result = .ok out.exit ∧ p.stdout = out.stdout ∧
    (∀ text ∈ out.stderr, p.stderr = text) ∧
    out.written = p.written.filter fun (location, text) =>
      Text.encode text.toList != w.bytesAt location

section
variable {r : Request} {steps : List BoundRule → FoundFile → Steps FileOutcome}
  {work : List BoundRule → FoundFile → Except RunError FileOutcome}
  {new? : List BoundRule → FoundFile → Option String} {rules : List BoundRule}
  {files : List FoundFile}

theorem carryOut_of_outcomes {outcomes : List FileOutcome} {q : Progress}
    (prepared : w.prepare env r = .ok (rules, files))
    (worked : files.mapM (work rules) = .ok outcomes)
    (run : (files.mapM (steps rules)).runFrom (start w) = (.ok outcomes, q))
    (stdout : q.stdout = "") (stderr : q.stderr = "") :
    ∃ out, w.carryOut env r work = .ok out ∧
      (carryOut env r steps).runFrom (start w) =
        (.ok out.exit, { q with stdout := out.stdout, stderr := out.stderr.getD "" }) ∧
      out.written = if r.dryRun then [] else ((outcomes.filterMap (·.fixed)).filter
        fun (f, text) => Text.encode text.toList != w.bytesAt f.location).map
          fun (f, text) => (f.location, text) := by
  cases format : r.format <;> cases dry : r.dryRun <;>
    simp [carryOut, Workspace.carryOut, runFrom_bind, runFrom_map, prepared, run, ok_bind, worked,
      format, dry, stdout, stderr, Except.map]

theorem map_writes (dryRun : Bool) (new? : FoundFile → Option String) (files : List FoundFile) :
    files.filterMap (writes dryRun new?) = if dryRun then [] else
      (files.filterMap fun f => (new? f).map (f, ·)).map fun (f, text) => (f.location, text) := by
  cases dryRun with
  | true => exact List.filterMap_eq_nil_iff.mpr fun f _ => rfl
  | false =>
    rw [if_neg Bool.false_ne_true, List.map_filterMap]
    simp only [Option.map_map]
    rfl

/-- A request is found to be at fault before anything is done, or it comes to files that are dealt
with in turn. An error on the way is beyond the user. -/
theorem carryOut_effects
    (deals : ∀ rules, DealsWith w r.dryRun (steps rules) (work rules) (new? rules))
    {result : Except RunError Nat} {p : Progress}
    (h : (carryOut env r steps).runFrom (start w) = (result, p)) :
    Agrees w (w.carryOut env r work) result p ∧
      ((∃ e, w.prepare env r = .error e ∧ result = .error e ∧ p = start w) ∨
        ∃ rules files visited, w.prepare env r = .ok (rules, files) ∧ p.Follows w ∧
          visited <+: files ∧ p.written = visited.filterMap (writes r.dryRun (new? rules)) ∧
          (∀ exit, result = .ok exit → visited = files) ∧
          ∀ e, result = .error e → e.userMessage? = none) := by
  cases prepared : w.prepare env r with
  | error e =>
    have early : (carryOut env r steps).runFrom (start w) = (.error e, start w) := by
      simp [carryOut, runFrom_bind, prepared]
    rw [early] at h
    cases h
    have failed : w.carryOut env r work = .error e := by
      rw [Workspace.carryOut, prepared, error_bind]
    rw [failed]
    exact ⟨rfl, .inl ⟨e, rfl, rfl, rfl⟩⟩
  | ok given =>
    obtain ⟨rules, files⟩ := given
    -- Collected files differ in their locations, so each is read as it was at the start.
    have distinct := Workspace.prepare_distinct prepared
    obtain ⟨visited, q, within, run, follows, written, stdout, stderr, all⟩ :=
      mapM_runFrom (deals rules) start_follows distinct fun _ _ => rfl
    rw [start_written, List.nil_append] at written
    cases worked : files.mapM (work rules) with
    | error e =>
      rw [worked] at run
      obtain ⟨f, -, silent⟩ := exists_error_of_mapM worked
      have early : (carryOut env r steps).runFrom (start w) = (.error e, q) := by
        simp [carryOut, runFrom_bind, prepared, run]
      rw [early] at h
      cases h
      have failed : w.carryOut env r work = .error e := by
        simp only [Workspace.carryOut, prepared, ok_bind, worked, error_bind]
      rw [failed]
      refine ⟨rfl, .inr ⟨rules, files, visited, rfl, follows, within, written, ?_, ?_⟩⟩
      · rintro _ ⟨⟩
      · rintro _ ⟨⟩
        exact (deals rules).silent f e silent
    | ok outcomes =>
      rw [worked] at run
      -- No file failed, so all of them were dealt with.
      have whole := all outcomes worked
      subst whole
      obtain ⟨out, done, ended, changes⟩ := carryOut_of_outcomes prepared worked run stdout stderr
      rw [ended] at h
      cases h
      rw [done]
      refine ⟨⟨rfl, rfl, ?_, ?_⟩, .inr ⟨rules, visited, visited, rfl,
        ⟨follows.same, follows.fileAt?, follows.untouched⟩, within, written, fun _ _ => rfl, ?_⟩⟩
      · intro text printed
        show out.stderr.getD "" = text
        rw [printed]
        rfl
      · show _ = q.written.filter _
        rw [changes, filterMap_fixed (deals rules) worked, written, map_writes]
        cases r.dryRun with
        | true => rfl
        | false =>
          rw [if_neg Bool.false_ne_true, if_neg Bool.false_ne_true, List.filter_map]
          rfl
      · rintro _ ⟨⟩

end

theorem check_deals (r : Request) (rules : List BoundRule) :
    DealsWith w r.dryRun (checkFile env rules) (w.checkFile env rules) fun _ => none :=
  checkFile_dealsWith r.dryRun

theorem fix_deals (r : Request) (rules : List BoundRule) :
    DealsWith w r.dryRun (fixFile env r.dryRun rules) (w.fixFile env rules)
      (w.fixedText? env rules) :=
  fixFile_dealsWith r.dryRun

theorem execute_agrees {c : Command} {result : Except RunError Nat} {p : Progress}
    (h : (execute env c).runFrom (start w) = (result, p)) :
    Agrees w (w.execute env c) result p := by
  cases c with
  | check r => exact (carryOut_effects (check_deals r) h).1
  | fix r => exact (carryOut_effects (fix_deals r) h).1
  | rules =>
    simp only [execute, runFrom_bind, runFrom_print, runFrom_pure, Prod.mk.injEq] at h
    obtain ⟨rfl, rfl⟩ := h
    exact ⟨rfl, by simp, by simp, rfl⟩

/-- What one command does. -/
theorem execute_effects {c : Command} {result : Except RunError Nat} {p : Progress}
    (h : (execute env c).runFrom (start w) = (result, p)) :
    p.Follows w ∧ (∀ e message, result = .error e → e.userMessage? = some message → p = start w) ∧
      (p.written ≠ [] →
        ∃ r rules files, c = .fix r ∧ r.dryRun = false ∧ w.prepare env r = .ok (rules, files)) ∧
      ∀ r rules files, c = .fix r → r.dryRun = false → w.prepare env r = .ok (rules, files) →
        (∀ e, result = .error e → e.userMessage? = none) ∧
          ∃ visited, visited <+: files ∧
            p.written = visited.filterMap (writes false (w.fixedText? env rules)) ∧
            ∀ exit, result = .ok exit → visited = files := by
  cases c with
  | rules =>
    simp only [execute, runFrom_bind, runFrom_print, runFrom_pure, Prod.mk.injEq] at h
    obtain ⟨rfl, rfl⟩ := h
    refine ⟨⟨rfl, fun _ => rfl, fun _ => rfl⟩, ?_, ?_, ?_⟩
    · rintro e message ⟨⟩
    · intro some
      exact absurd rfl some
    · rintro _ _ _ ⟨⟩
  | check r =>
    obtain ⟨-, ⟨e, -, rfl, rfl⟩ | ⟨rules, files, visited, -, follows, -, written, -, silent⟩⟩ :=
      carryOut_effects (check_deals r) h
    · exact ⟨start_follows, fun _ _ _ _ => rfl, fun some => absurd rfl some, by rintro _ _ _ ⟨⟩⟩
    · have none : p.written = [] := by
        rw [written]
        exact List.filterMap_eq_nil_iff.mpr fun f _ => by simp [writes]
      refine ⟨follows, fun e message failed told => ?_, fun some => absurd none some, ?_⟩
      · simp [silent e failed] at told
      · rintro _ _ _ ⟨⟩
  | fix r =>
    obtain ⟨-, ⟨e, failed, rfl, rfl⟩ |
      ⟨rules, files, visited, prepared, follows, within, written, whole, silent⟩⟩ :=
      carryOut_effects (fix_deals r) h
    · refine ⟨start_follows, fun _ _ _ _ => rfl, fun some => absurd rfl some, ?_⟩
      rintro _ rules files ⟨⟩ - prepared
      rw [failed] at prepared
      cases prepared
    · refine ⟨follows, fun e message failed told => ?_, fun some => ?_, ?_⟩
      · simp [silent e failed] at told
      · cases dry : r.dryRun with
        | true =>
          refine absurd ?_ some
          rw [written, dry]
          exact List.filterMap_eq_nil_iff.mpr fun f _ => rfl
        | false => exact ⟨r, rules, files, rfl, dry, prepared⟩
      · rintro _ rules' files' ⟨⟩ dry prepared'
        rw [prepared] at prepared'
        cases prepared'
        rw [dry] at written
        exact ⟨silent, visited, within, written, whole⟩

theorem follows_of_no_command {words : List String} {result : Except RunError Nat} {p : Progress}
    (none : ∀ c verbose, Invocation.ofWords words ≠ .ok (.command c verbose))
    (h : (run env words).runFrom (start w) = (result, p)) :
    p.Follows w ∧ p.written = [] := by
  rw [run] at h
  cases read : Invocation.ofWords words with
  | error e =>
    simp only [read, runFrom_pure, Prod.mk.injEq] at h
    obtain ⟨rfl, rfl⟩ := h
    exact ⟨start_follows, rfl⟩
  | ok invocation =>
    cases invocation with
    | help =>
      simp only [read, runFrom_pure, Prod.mk.injEq] at h
      obtain ⟨rfl, rfl⟩ := h
      exact ⟨start_follows, rfl⟩
    | version =>
      simp only [read, runFrom_bind, runFrom_print, runFrom_pure, Prod.mk.injEq] at h
      obtain ⟨rfl, rfl⟩ := h
      exact ⟨⟨rfl, fun _ => rfl, fun _ => rfl⟩, rfl⟩
    | command c verbose => exact absurd read (none c verbose)

/-- What is wrong for the user to mend is told; all else a command comes to stays as it is. -/
theorem run_of_command {words : List String} {c : Command} {verbose : Bool}
    {result ends : Except RunError Nat} {p q : Progress}
    (read : Invocation.ofWords words = .ok (.command c verbose))
    (executed : (execute env c).runFrom (start w) = (ends, q))
    (h : (run env words).runFrom (start w) = (result, p)) :
    (result = ends ∧ p = q ∧ ∀ e, ends = .error e → e.userMessage? = none) ∨
      ∃ e message, ends = .error e ∧ e.userMessage? = some message ∧ result = .ok 2 ∧
        p = { q with stderr := q.stderr ++ message } := by
  simp only [run, read, runFrom_tryCatch, executed] at h
  cases ends with
  | ok exit =>
    cases h
    exact .inl ⟨rfl, rfl, by simp⟩
  | error e =>
    cases told : e.userMessage? with
    | none =>
      simp only [told, runFrom_throw, Prod.mk.injEq] at h
      obtain ⟨rfl, rfl⟩ := h
      exact .inl ⟨rfl, rfl, by simp [told]⟩
    | some message =>
      simp only [told, runFrom_bind, runFrom_printError, runFrom_pure, Prod.mk.injEq] at h
      obtain ⟨rfl, rfl⟩ := h
      exact .inr ⟨e, message, rfl, told, rfl, rfl⟩

/-- A command line comes to the same step by step and as a whole. -/
theorem run_agrees {words : List String} {result : Except RunError Nat} {p : Progress}
    (h : (run env words).runFrom (start w) = (result, p)) :
    Agrees w (w.run env words) result p := by
  cases read : Invocation.ofWords words with
  | error e =>
    simp only [run, read, runFrom_pure, Prod.mk.injEq] at h
    obtain ⟨rfl, rfl⟩ := h
    simp [Workspace.run, read, Agrees]
  | ok invocation =>
    cases invocation with
    | help =>
      simp only [run, read, runFrom_pure, Prod.mk.injEq] at h
      obtain ⟨rfl, rfl⟩ := h
      simp [Workspace.run, read, Agrees]
    | version =>
      simp only [run, read, runFrom_bind, runFrom_print, runFrom_pure, Prod.mk.injEq] at h
      obtain ⟨rfl, rfl⟩ := h
      simp [Workspace.run, read, Agrees]
    | command c verbose =>
      rcases executed : (execute env c).runFrom (start w) with ⟨ends, q⟩
      have agrees := execute_agrees executed
      rcases run_of_command read executed h with ⟨rfl, rfl, silent⟩ |
        ⟨e, message, rfl, told, rfl, rfl⟩
      · cases done : w.execute env c with
        | error e =>
          rw [done] at agrees
          rw [Workspace.run_of_noMessage read done (silent e agrees)]
          exact agrees
        | ok out =>
          rw [done] at agrees
          obtain ⟨ended, stdout, stderr, written⟩ := agrees
          rw [Workspace.run_of_outcome read done]
          cases verbose with
          | true => exact ⟨ended, stdout, (fun _ shown => by cases shown), written⟩
          | false => exact ⟨ended, stdout, stderr, written⟩
      · -- A mistake of the user: nothing was done before it, so both runs start anew with its
        -- message.
        cases (execute_effects executed).2.1 e message rfl told
        cases done : w.execute env c with
        | error e' =>
          rw [done] at agrees
          cases agrees
          rw [Workspace.run_of_userMessage read done told]
          cases verbose with
          | true => exact ⟨rfl, rfl, (fun _ shown => by cases shown), rfl⟩
          | false => exact ⟨rfl, rfl, by simp, rfl⟩
        | ok out =>
          rw [done] at agrees
          cases agrees.1

/-- Every file is at the end what was written to it, or else what it was. Texts are written by
fixing alone, unless it is a dry run: a file that was collected, behind all links, is given the text
that fixing made of its own, if that changed it, and in a run that comes to its end this is done for
all of them. What is wrong for the user to mend ends a run in which nothing was written or
printed. -/
theorem run_effects (env : Environment) (w : Workspace) (words : List String)
    (result : Except RunError Nat) (p : Progress)
    (h : (run env words).runFrom (start w) = (result, p)) :
    (p.written = [] → p.workspace = w) ∧
    (∀ location, p.workspace.tree.fileAt? location =
      match p.written.lookup location with
      | some text => some (Text.encode text.toList)
      | none => w.tree.fileAt? location) ∧
    (p.written ≠ [] → ∃ r verbose rules files,
      Invocation.ofWords words = .ok (.command (.fix r) verbose) ∧ r.dryRun = false ∧
        w.prepare env r = .ok (rules, files)) ∧
    (∀ r verbose rules files, Invocation.ofWords words = .ok (.command (.fix r) verbose) →
      r.dryRun = false → w.prepare env r = .ok (rules, files) →
      ∃ visited, visited <+: files ∧
        p.written = visited.filterMap (fun f =>
          (w.fixedText? env rules f).map (f.location, ·)) ∧
        ∀ exit, result = .ok exit → visited = files) ∧
    ∀ c verbose e message, Invocation.ofWords words = .ok (.command c verbose) →
      ((execute env c).runFrom (start w)).1 = .error e → e.userMessage? = some message →
      result = .ok 2 ∧ p = { workspace := w, stderr := message } := by
  by_cases command : ∃ c verbose, Invocation.ofWords words = .ok (.command c verbose)
  · obtain ⟨c, verbose, read⟩ := command
    rcases executed : (execute env c).runFrom (start w) with ⟨ends, q⟩
    obtain ⟨follows, kept, some, each⟩ := execute_effects executed
    -- A command line stands for one command.
    have only (c' : Command) (verbose' : Bool)
        (read' : Invocation.ofWords words = .ok (.command c' verbose')) : c' = c := by
      rw [read] at read'
      cases read'
      rfl
    rcases run_of_command read executed h with ⟨rfl, rfl, silent⟩ |
      ⟨e, message, rfl, told, rfl, rfl⟩
    · refine ⟨follows.untouched, follows.fileAt?, fun written => ?_, ?_, ?_⟩
      · obtain ⟨r, rules, files, rfl, dry, prepared⟩ := some written
        exact ⟨r, verbose, rules, files, read, dry, prepared⟩
      · intro r verbose' rules files read' dry prepared
        exact (each r rules files (only _ _ read').symm dry prepared).2
      · intro c' verbose' e message read' failed told
        cases only _ _ read'
        rw [executed] at failed
        rw [silent e failed] at told
        cases told
    · cases kept e message rfl told
      refine ⟨fun _ => rfl, fun _ => rfl, fun written => absurd rfl written, ?_, ?_⟩
      · intro r verbose' rules files read' dry prepared
        have silent := (each r rules files (only _ _ read').symm dry prepared).1 e rfl
        rw [silent] at told
        cases told
      · intro c' verbose' e' message' read' failed told'
        cases only _ _ read'
        rw [executed] at failed
        cases failed
        rw [told] at told'
        cases told'
        exact ⟨rfl, by simp [start]⟩
  · simp only [not_exists] at command
    obtain ⟨follows, written⟩ := follows_of_no_command command h
    refine ⟨follows.untouched, follows.fileAt?, fun some => absurd written some, ?_, ?_⟩
    · intro r verbose rules files read
      exact absurd read (command _ _)
    · intro c verbose e message read
      exact absurd read (command _ _)

/-- A file is fixed; beside a target that is missing it is left alone. -/
theorem run_effects_sample :
    let env := Workspace.sampleEnvironment
    let w := Workspace.sample "({ b, a }) => 1\n"
    let fixed := "({ a, b }) => 1\n"
    (∃ p, (run env ["fix", "a.ts"]).runFrom (start w) = (.ok 0, p) ∧
        p.written = [(["a.ts"], fixed)] ∧
        p.workspace.tree.fileAt? ["a.ts"] = some (Text.encode fixed.toList) ∧
        p.workspace.tree.fileAt? ["prop-ordering.yaml"] =
          w.tree.fileAt? ["prop-ordering.yaml"]) ∧
      (run env ["fix", "a.ts", "b.ts"]).runFrom (start w) =
        (.ok 2, { workspace := w, stderr := "No such file or directory: b.ts\n" }) := by
  intro env w fixed
  constructor
  · have found : ((run env ["fix", "a.ts"]).runFrom (start w)).map Except.toOption (·.written) =
        (some 0, [(["a.ts"], fixed)]) := by
      decide +kernel
    rcases ran : (run env ["fix", "a.ts"]).runFrom (start w) with ⟨result, p⟩
    obtain ⟨-, files, -⟩ := run_effects env w ["fix", "a.ts"] result p ran
    rw [ran] at found
    obtain ⟨ended, written⟩ := Prod.mk.inj found
    change p.written = _ at written
    rw [written] at files
    cases result with
    | error e => cases ended
    | ok exit =>
      cases ended
      exact ⟨p, rfl, written, files ["a.ts"], files ["prop-ordering.yaml"]⟩
  · let c : Command := .fix { targets := ["a.ts", "b.ts"] }
    let message := "No such file or directory: b.ts\n"
    have read : Invocation.ofWords ["fix", "a.ts", "b.ts"] = .ok (.command c false) := by rfl
    have found : ((execute env c).runFrom (start w)).1.mapError (·.userMessage?) =
        .error (some message) := by decide +kernel
    rcases ran : (run env ["fix", "a.ts", "b.ts"]).runFrom (start w) with ⟨result, p⟩
    obtain ⟨-, -, -, -, told⟩ := run_effects env w ["fix", "a.ts", "b.ts"] result p ran
    cases ended : ((execute env c).runFrom (start w)).1 with
    | ok exit =>
      rw [ended] at found
      cases found
    | error e =>
      rw [ended] at found
      obtain ⟨rfl, rfl⟩ := told c false e message read ended (Except.error.inj found)
      rfl

end Steps

end FieldOrder
