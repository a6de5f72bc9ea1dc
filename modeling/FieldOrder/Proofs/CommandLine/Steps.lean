import FieldOrder.CommandLine.Steps
import FieldOrder.Proofs.Files.Collect

namespace FieldOrder

namespace Steps
variable {α β : Type} (p : Progress)

@[simp]
theorem runFrom_pure (a : α) : (pure a : Steps α).runFrom p = (.ok a, p) := rfl

@[simp]
theorem runFrom_throw (e : RunError) : (throw e : Steps α).runFrom p = (.error e, p) := rfl

@[simp]
theorem runFrom_ofExcept (x : Except RunError α) : (ofExcept x).runFrom p = (x, p) := rfl

@[simp]
theorem runFrom_get : (get : Steps Progress).runFrom p = (.ok p, p) := rfl

@[simp]
theorem runFrom_write (f : FoundFile) (text : String) :
    (write f text).runFrom p = (.ok (), p.write f.location text) := rfl

@[simp]
theorem runFrom_print (text : String) :
    (print text).runFrom p = (.ok (), { p with stdout := p.stdout ++ text }) := rfl

@[simp]
theorem runFrom_printError (text : String) :
    (printError text).runFrom p = (.ok (), { p with stderr := p.stderr ++ text }) := rfl

theorem runFrom_bind (x : Steps α) (f : α → Steps β) :
    (x >>= f).runFrom p = match x.runFrom p with
      | (.ok a, q) => (f a).runFrom q
      | (.error e, q) => (.error e, q) := by
  unfold runFrom
  rw [run_run_bind]
  rcases StateT.run (ExceptT.run x) p with ⟨_ | _, q⟩
  · rfl
  · rfl

theorem runFrom_map (x : Steps α) (f : α → β) :
    (f <$> x).runFrom p = ((x.runFrom p).1.map f, (x.runFrom p).2) :=
  run_run_map p x f

theorem runFrom_tryCatch (x : Steps α) (handle : RunError → Steps α) :
    (tryCatch x handle).runFrom p = match x.runFrom p with
      | (.ok a, q) => (.ok a, q)
      | (.error e, q) => (handle e).runFrom q := by
  unfold runFrom ExceptT.run StateT.run
  simp only [tryCatch, tryCatchThe, MonadExceptOf.tryCatch, ExceptT.tryCatch, ExceptT.mk, bind,
    StateT.bind]
  rcases x p with ⟨_ | _, q⟩
  · rfl
  · rfl

end Steps

namespace Workspace

theorem bytesAt_eq (w : Workspace) (location : List String) :
    w.bytesAt location = (w.tree.fileAt? location).getD [] := by
  rw [bytesAt, FileTree.fileAt?]
  split <;> simp_all

theorem read_eq_ok {w : Workspace} {location : List String} {bytes : List UInt8} :
    w.read location = .ok bytes ↔
      w.refused location = none ∧ w.tree.fileAt? location = some bytes := by
  rw [read]
  cases w.refused location <;> cases w.tree.fileAt? location <;> simp

theorem sourceText_eq_ok {w : Workspace} {f : FoundFile} {text : String} :
    w.sourceText f = .ok text ↔ f.obstacle = none ∧ ∃ bytes source,
      w.read f.location = .ok bytes ∧ Text.decode bytes = .ok source ∧
        .ofList (Text.unifyLineEnds source) = text := by
  rw [sourceText]
  cases f.obstacle with
  | some e => simp
  | none => simp only [bind_eq_ok, mapError_eq_ok, pure_eq_ok, true_and, exists_and_left]

theorem prepare_distinct {env : Environment} {w : Workspace} {r : Request} {rules : List BoundRule}
    {files : List FoundFile} (h : w.prepare env r = .ok (rules, files)) :
    (files.map (·.location)).Nodup := by
  simp only [prepare, bind_eq_ok, mapError_eq_ok, pure_eq_ok] at h
  obtain ⟨loaded, -, active, -, collected, found, same⟩ := h
  cases same
  exact collect_distinct found

/-- What fixing makes of the text of a file, if that changes it. -/
def fixedText? (env : Environment) (w : Workspace) (rules : List BoundRule) (f : FoundFile) :
    Option String :=
  match w.sourceText f with
  | .error _ => none
  | .ok text =>
    match fixText rules (env.parserOf f) text with
    | .error _ => none
    | .ok r => if r.changed then some r.text else none

theorem isSome_fileAt?_of_fixedText? {env : Environment} {w : Workspace} {rules : List BoundRule}
    {f : FoundFile} {text : String} (h : w.fixedText? env rules f = some text) :
    (w.tree.fileAt? f.location).isSome := by
  cases read : w.sourceText f with
  | error e => simp [fixedText?, read] at h
  | ok source =>
    obtain ⟨-, bytes, -, there, -⟩ := sourceText_eq_ok.mp read
    rw [(read_eq_ok.mp there).2]
    rfl

end Workspace

/-- The workspace is the one from the start, but for the texts that were written. -/
structure Progress.Follows (p : Progress) (w : Workspace) : Prop where
  same : p.workspace = { w with tree := p.workspace.tree }
  fileAt? : ∀ location, p.workspace.tree.fileAt? location =
    match p.written.lookup location with
    | some text => some (Text.encode text.toList)
    | none => w.tree.fileAt? location
  untouched : p.written = [] → p.workspace = w

/-- A file was written if there is a new text for it. -/
def Progress.record (p : Progress) : Option (List String × String) → Progress
  | none => p
  | some (location, text) => p.write location text

@[simp]
theorem Progress.record_written (p : Progress) (new? : Option (List String × String)) :
    (p.record new?).written = p.written ++ new?.toList := by
  cases new? <;> simp [record, write]

@[simp]
theorem Progress.record_stdout (p : Progress) (new? : Option (List String × String)) :
    (p.record new?).stdout = p.stdout := by
  cases new? <;> rfl

@[simp]
theorem Progress.record_stderr (p : Progress) (new? : Option (List String × String)) :
    (p.record new?).stderr = p.stderr := by
  cases new? <;> rfl

namespace Progress.Follows
variable {p : Progress} {w : Workspace} (follows : p.Follows w) {f : FoundFile}
include follows

theorem displayName : p.workspace.displayName f = w.displayName f := by
  rw [follows.same]
  rfl

variable (fresh : p.written.lookup f.location = none)
include fresh

theorem sourceText : p.workspace.sourceText f = w.sourceText f := by
  have refused : p.workspace.refused = w.refused := by
    rw [follows.same]
  have same : p.workspace.read f.location = w.read f.location := by
    rw [Workspace.read, Workspace.read, refused, follows.fileAt?, fresh]
  rw [Workspace.sourceText, Workspace.sourceText, same]

theorem write (there : (w.tree.fileAt? f.location).isSome) (text : String) :
    (p.write f.location text).Follows w := by
  refine ⟨?_, fun location => ?_, fun none => ?_⟩
  · rw [Progress.write, follows.same]
  · have isFile : (p.workspace.tree.fileAt? f.location).isSome := by
      rw [follows.fileAt?, fresh]
      exact there
    show (p.workspace.tree.insert _ f.location).fileAt? location = _
    rw [FileTree.fileAt?_insert isFile]
    by_cases here : location = f.location
    · subst here
      rw [if_pos rfl, Progress.write, List.lookup_append, fresh, FileTree.lookup_cons_eq,
        if_pos rfl]
      rfl
    · have other : (p.write f.location text).written.lookup location =
          p.written.lookup location := by
        rw [Progress.write, List.lookup_append, FileTree.lookup_cons_eq, if_neg here]
        simp
      rw [if_neg here, other, follows.fileAt?]
  · simp [Progress.write] at none

end Progress.Follows

namespace Steps
variable {env : Environment} {w : Workspace} {rules : List BoundRule}

/-- What is written to a file, given the new texts of files. -/
def writes (dryRun : Bool) (new? : FoundFile → Option String) (f : FoundFile) :
    Option (List String × String) :=
  if dryRun then none else (new? f).map (f.location, ·)

/-- How one file is dealt with, whatever was written to others before: the outcome is that of
`work`, `new?` is the text that it gives the file, and that is written. -/
structure DealsWith (w : Workspace) (dryRun : Bool) (steps : FoundFile → Steps FileOutcome)
    (work : FoundFile → Except RunError FileOutcome) (new? : FoundFile → Option String) : Prop where
  step : ∀ (p : Progress) (f : FoundFile), p.Follows w → p.written.lookup f.location = none →
    (steps f).runFrom p =
      (work f, p.record (writes dryRun new? f))
  fixed_eq : ∀ f outcome, work f = .ok outcome → outcome.fixed = (new? f).map (f, ·)
  silent : ∀ f e, work f = .error e → e.userMessage? = none
  there : ∀ f text, new? f = some text → (w.tree.fileAt? f.location).isSome

theorem checkFile_dealsWith (dryRun : Bool) :
    DealsWith w dryRun (checkFile env rules) (w.checkFile env rules) fun _ => none := by
  refine ⟨fun p f follows fresh => ?_, fun f outcome h => ?_, fun f e h => ?_, nofun⟩
  · have same : p.workspace.checkFile env rules f = w.checkFile env rules f := by
      rw [Workspace.checkFile, Workspace.checkFile, follows.displayName, follows.sourceText fresh]
    simp [checkFile, runFrom_bind, same, writes, Progress.record]
  · rw [Workspace.checkFile] at h
    split at h
    · cases h
      rfl
    · simp only [bind_eq_ok, pure_eq_ok] at h
      obtain ⟨violations, -, report, -, rfl⟩ := h
      rfl
  · rw [Workspace.checkFile] at h
    split at h
    · cases h
    · simp only [bind_eq_error, mapError_eq_error, pure_ne_error, and_false, exists_false,
        or_false] at h
      rcases h with ⟨cause, -, rfl⟩ | ⟨violations, -, cause, -, rfl⟩
      · rfl
      · rfl

theorem fixFile_dealsWith (dryRun : Bool) :
    DealsWith w dryRun (fixFile env dryRun rules) (w.fixFile env rules)
      (w.fixedText? env rules) := by
  refine ⟨fun p f follows fresh => ?_, fun f outcome h => ?_, fun f e h => ?_,
    fun _ _ => Workspace.isSome_fileAt?_of_fixedText?⟩
  · have source := follows.sourceText fresh
    have name := follows.displayName (f := f)
    cases read : w.sourceText f with
    | error e =>
      have none : w.fixedText? env rules f = none := by simp [Workspace.fixedText?, read]
      simp [fixFile, Workspace.fixFile, runFrom_bind, source, read, name, none, writes,
        Progress.record]
      rfl
    | ok text =>
      cases fixing : fixText rules (env.parserOf f) text with
      | error e =>
        have none : w.fixedText? env rules f = none := by
          simp [Workspace.fixedText?, read, fixing]
        simp [fixFile, Workspace.fixFile, runFrom_bind, source, read, fixing, none, error_bind,
          Except.mapError, writes, Progress.record]
      | ok r =>
        have given : w.fixedText? env rules f = if r.changed then some r.text else none := by
          simp [Workspace.fixedText?, read, fixing]
        -- The file is written before its report is made, so that a report that fails leaves it
        -- written.
        cases reported : FileReport.ofViolations (w.displayName f) r.remaining r.text r.fixedCount
          <;> cases changed : r.changed <;> cases dryRun <;>
          simp [fixFile, Workspace.fixFile, runFrom_bind, runFrom_map, source, read, fixing, name,
            given, reported, changed, ok_bind, Except.mapError, Except.map, writes, Progress.record]
  · rw [Workspace.fixFile] at h
    split at h
    · next read =>
      cases h
      simp [Workspace.fixedText?, read]
    · next text read =>
      simp only [bind_eq_ok, mapError_eq_ok, pure_eq_ok] at h
      obtain ⟨r, fixing, report, -, rfl⟩ := h
      cases changed : r.changed <;> simp [Workspace.fixedText?, read, fixing, changed]
  · rw [Workspace.fixFile] at h
    split at h
    · cases h
    · simp only [bind_eq_error, mapError_eq_error, pure_ne_error, and_false, exists_false,
        or_false] at h
      rcases h with ⟨cause, -, rfl⟩ | ⟨r, -, cause, -, rfl⟩
      · rfl
      · rfl

theorem lookup_writes_of_ne {dryRun : Bool} {new? : FoundFile → Option String} {f : FoundFile}
    {location : List String} (other : location ≠ f.location) :
    (writes dryRun new? f).toList.lookup location = none := by
  cases dryRun with
  | true => rfl
  | false =>
    cases given : new? f with
    | none => simp [writes, given]
    | some text => simp [writes, given, FileTree.lookup_cons_eq, other]

theorem follows_record {p : Progress} {f : FoundFile} (follows : p.Follows w)
    (fresh : p.written.lookup f.location = none) (dryRun : Bool) {new? : FoundFile → Option String}
    (there : ∀ text, new? f = some text → (w.tree.fileAt? f.location).isSome) :
    (p.record (writes dryRun new? f)).Follows w := by
  cases dryRun with
  | true => exact follows
  | false =>
    cases given : new? f with
    | none => simpa [writes, given, Progress.record] using follows
    | some text =>
      simpa [writes, given, Progress.record] using follows.write fresh (there text given) text

section
variable {dryRun : Bool} {steps : FoundFile → Steps FileOutcome}
  {work : FoundFile → Except RunError FileOutcome} {new? : FoundFile → Option String}
  (deals : DealsWith w dryRun steps work new?)
include deals

/-- Files are dealt with in turn, up to one that fails. -/
theorem mapM_runFrom {files : List FoundFile} {p : Progress} (follows : p.Follows w)
    (distinct : (files.map (·.location)).Nodup)
    (fresh : ∀ f ∈ files, p.written.lookup f.location = none) :
    ∃ visited q, visited <+: files ∧
      (files.mapM steps).runFrom p = (files.mapM work, q) ∧ q.Follows w ∧
      q.written = p.written ++ visited.filterMap (writes dryRun new?) ∧
      q.stdout = p.stdout ∧ q.stderr = p.stderr ∧
      ∀ outcomes, files.mapM work = .ok outcomes → visited = files := by
  -- The locations that are still to come have not been written to, and stay so as they all differ.
  induction files generalizing p with
  | nil => exact ⟨[], p, List.prefix_rfl, rfl, follows, by simp, rfl, rfl, fun _ _ => rfl⟩
  | cons f files ih =>
    obtain ⟨thisFresh, othersFresh⟩ := List.forall_mem_cons.mp fresh
    rw [List.map_cons, List.nodup_cons] at distinct
    have first := deals.step p f follows thisFresh
    have follows' := follows_record follows thisFresh dryRun (deals.there f)
    rw [List.mapM_cons, List.mapM_cons, runFrom_bind, first]
    cases done : work f with
    | error e =>
      refine ⟨[f], _, List.prefix_append [f] files, rfl, follows', ?_, ?_, ?_, ?_⟩
      · simp [List.filterMap_eq_flatMap_toList]
      · simp
      · simp
      · simp [error_bind]
    | ok outcome =>
      have othersFresh : ∀ g ∈ files,
          (p.record (writes dryRun new? f)).written.lookup g.location = none := by
        intro g hg
        have other : g.location ≠ f.location := fun same =>
          distinct.1 (same ▸ List.mem_map_of_mem hg)
        rw [Progress.record_written, List.lookup_append, othersFresh g hg, Option.none_or]
        exact lookup_writes_of_ne other
      obtain ⟨visited, q, within, run, follows', written, stdout, stderr, all⟩ :=
        ih follows' distinct.2 othersFresh
      have within : f :: visited <+: f :: files := List.cons_prefix_cons.mpr ⟨rfl, within⟩
      refine ⟨f :: visited, q, within, ?_, follows', ?_, ?_, ?_, ?_⟩
      · simp only [ok_bind, runFrom_bind, run]
        cases files.mapM work <;> rfl
      · simp [written, List.filterMap_eq_flatMap_toList]
      · simpa using stdout
      · simpa using stderr
      · intro outcomes h
        simp only [ok_bind, bind_eq_ok] at h
        obtain ⟨others, h, -⟩ := h
        rw [all others h]

theorem filterMap_fixed {files : List FoundFile} {outcomes : List FileOutcome}
    (done : files.mapM work = .ok outcomes) :
    outcomes.filterMap (·.fixed) = files.filterMap fun f => (new? f).map (f, ·) := by
  have each := forall₂_of_mapM_eq_ok done
  clear done
  induction each with
  | nil => rfl
  | cons first rest ih =>
    have this := deals.fixed_eq _ _ first
    rw [List.filterMap_eq_flatMap_toList, List.filterMap_eq_flatMap_toList] at ih ⊢
    rw [List.flatMap_cons, List.flatMap_cons, this, ih]

end

@[simp]
theorem start_workspace : (start w).workspace = w := rfl

@[simp]
theorem start_written : (start w).written = [] := rfl

@[simp]
theorem start_stdout : (start w).stdout = "" := rfl

@[simp]
theorem start_stderr : (start w).stderr = "" := rfl

theorem start_follows : (start w).Follows w := ⟨rfl, fun _ => rfl, fun _ => rfl⟩

end Steps

end FieldOrder
