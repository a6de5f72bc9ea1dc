import FieldOrder.Proofs.CommandLine.Steps
import FieldOrder.Proofs.Lint.Frame
import FieldOrder.Proofs.Text.LineEnds

namespace FieldOrder.Workspace

variable {env : Environment} {w : Workspace} {req : Request} {out : Outcome}

theorem exists_work_of_written {work : List BoundRule → FoundFile → Except RunError FileOutcome}
    (h : w.carryOut env req work = .ok out) {written : List String × String}
    (mem : written ∈ out.written) :
    ∃ rules files, w.prepare env req = .ok (rules, files) ∧ ∃ f ∈ files, ∃ outcome fix,
      work rules f = .ok outcome ∧ outcome.fixed = some fix ∧
        (fix.1.location, fix.2) = written := by
  simp only [carryOut] at h
  obtain ⟨⟨rules, files⟩, prepared, h⟩ := bind_eq_ok.mp h
  obtain ⟨outcomes, worked, h⟩ := bind_eq_ok.mp h
  let rewritten := (outcomes.filterMap (·.fixed)).filter fun fix =>
    Text.encode fix.2.toList != w.bytesAt fix.1.location
  have all : out.written =
      if req.dryRun then [] else rewritten.map fun fix => (fix.1.location, fix.2) := by
    cases format : req.format <;> cases dry : req.dryRun <;> simp only [format, dry] at h <;>
      cases h <;> rfl
  rw [all] at mem
  split at mem
  · cases mem
  obtain ⟨fix, hfix, eq⟩ := List.mem_map.mp mem
  obtain ⟨outcome, mem, fixed⟩ := List.mem_filterMap.mp (List.mem_filter.mp hfix).1
  obtain ⟨f, hf, done⟩ := exists_rel_of_mem_right (forall₂_of_mapM_eq_ok worked) mem
  exact ⟨rules, files, prepared, f, hf, outcome, fix, done, fixed, eq⟩

theorem exists_decode_of_sourceText {f : FoundFile} {text : String}
    (h : w.sourceText f = .ok text) : ∃ source, Text.decode (w.bytesAt f.location) = .ok source ∧
      .ofList (Text.unifyLineEnds source) = text := by
  obtain ⟨-, bytes, source, read, decoded, unified⟩ := sourceText_eq_ok.mp h
  have same : w.bytesAt f.location = bytes := by
    rw [bytesAt_eq, (read_eq_ok.mp read).2, Option.getD_some]
  exact ⟨source, same ▸ decoded, unified⟩

theorem exists_fixText_of_fixFile {rules : List BoundRule} {f : FoundFile} {outcome : FileOutcome}
    {fix : FoundFile × String} (h : w.fixFile env rules f = .ok outcome)
    (fixed : outcome.fixed = some fix) :
    fix.1 = f ∧ ∃ text, w.sourceText f = .ok text ∧
      ∃ r, fixText rules (env.parserOf f) text = .ok r ∧ r.text = fix.2 := by
  rw [fixFile] at h
  cases read : w.sourceText f with
  | error e =>
    simp only [read, pure_eq_ok] at h
    subst h
    cases fixed
  | ok text =>
    simp only [read, bind_eq_ok, mapError_eq_ok, pure_eq_ok] at h
    obtain ⟨r, run, report, -, rfl⟩ := h
    split at fixed
    · cases fixed
      exact ⟨rfl, text, rfl, r, run, rfl⟩
    · cases fixed

/-- What is written to a file came about in passes from its text with line feeds for all line ends.
Each pass leaves the text outside its accepted fixes as it is, but the text before the first one is
what the file holds only if there is no carriage return in it. -/
theorem execute_fix_written (env : Environment) (w : Workspace) (req : Request) (out : Outcome)
    (sound : ∀ g, (env.parse g).Sound) (h : w.execute env (.fix req) = .ok out) :
    ∃ rules files, w.prepare env req = .ok (rules, files) ∧ ∀ written ∈ out.written,
      ∃ f ∈ files, f.location = written.1 ∧ ∃ source,
        Text.decode (w.bytesAt f.location) = .ok source ∧
        (Text.encode (Text.unifyLineEnds source) = w.bytesAt f.location ↔
          13 ∉ w.bytesAt f.location) ∧
        ∃ ps, Run rules (env.parserOf f) (.ofList (Text.unifyLineEnds source)) ps written.2 ∧
          ∀ p ∈ ps, ∃ edits, p.Replaces edits := by
  change w.carryOut env req (w.fixFile env) = .ok out at h
  obtain ⟨⟨rules, files⟩, prepared, -⟩ := bind_eq_ok.mp h
  refine ⟨rules, files, prepared, fun written mem => ?_⟩
  obtain ⟨rules', files', prepared', f, hf, outcome, fix, done, fixed, rfl⟩ :=
    exists_work_of_written h mem
  rw [prepared] at prepared'
  cases prepared'
  obtain ⟨rfl, _, readable, r, run, text⟩ := exists_fixText_of_fixFile done fixed
  obtain ⟨source, read, rfl⟩ := exists_decode_of_sourceText readable
  obtain ⟨-, ps, passes, -⟩ := exists_run run
  refine ⟨fix.1, hf, rfl, source, read, Text.encode_unifyLineEnds read, ps, text ▸ passes, ?_⟩
  exact fun p hp => (passes.made p hp).exists_replaces (sound _)

def sample (source : String) : Workspace where
  rootName := "/w"
  tree := .directory [("a.ts", .file (Text.encode source.toList)),
    ("prop-ordering.yaml",
      .file (Text.encode "extends: none\nrules: \x7bsort-component-props: warn\x7d\n".toList))]

def parseSample : Parse := fun text =>
  let name := "shorthand_property_identifier_pattern"
  if text = "({ b, a }) => 1\n" ∨ text = "({ a, b }) => 1\n" then
    some (.clean "program" 0 16 [.clean "arrow_function" 0 15
      [.cleanIn "parameters" "formal_parameters" 0 10
        [.clean "object_pattern" 1 9 [.clean name 3 4 [], .clean name 6 7 []]]]])
  else none

theorem parseSample_kinds {text : String} {root : Node} (h : parseSample text = some root) :
    ∀ n ∈ root.preorder, n.kind ≠ "jsx_attribute" := by
  rw [parseSample] at h
  split at h
  · cases h
    decide +kernel
  · cases h

theorem parseSample_sound : parseSample.Sound := by
  intro text root h
  rw [parseSample] at h
  split at h
  · next same =>
    cases h
    rcases same with rfl | rfl
    · decide +kernel
    · decide +kernel
  · cases h

def sampleEnvironment : Environment := .plain fun _ => parseSample

theorem execute_fix_written_sample :
    let env := sampleEnvironment
    let w := sample "({ b, a }) => 1\n"
    (∀ g, (env.parse g).Sound) ∧
      ∃ out, w.execute env (.fix { targets := ["a.ts"] }) = .ok out ∧
        out.written = [(["a.ts"], "({ a, b }) => 1\n")] ∧
        ∃ rules files, w.prepare env { targets := ["a.ts"] } = .ok (rules, files) ∧
          ∃ source, Text.decode (w.bytesAt ["a.ts"]) = .ok source ∧
            Text.encode (Text.unifyLineEnds source) = w.bytesAt ["a.ts"] ∧
            ∃ ps, Run rules parseSample (.ofList (Text.unifyLineEnds source)) ps
                "({ a, b }) => 1\n" ∧
              ∀ p ∈ ps, ∃ edits, p.Replaces edits := by
  intro env w
  have sound (g : Grammar) : (env.parse g).Sound := parseSample_sound
  refine ⟨sound, ?_⟩
  have found : (w.execute env (.fix { targets := ["a.ts"] })).toOption.map (·.written) =
      some [(["a.ts"], "({ a, b }) => 1\n")] := by decide +kernel
  cases run : w.execute env (.fix { targets := ["a.ts"] }) with
  | error e =>
    rw [run] at found
    cases found
  | ok out =>
    rw [run] at found
    have written : out.written = [(["a.ts"], "({ a, b }) => 1\n")] := Option.some.inj found
    obtain ⟨rules, files, prepared, each⟩ :=
      execute_fix_written env w { targets := ["a.ts"] } out sound run
    obtain ⟨f, -, location, source, read, same, ps, passes, replaces⟩ :=
      each (["a.ts"], "({ a, b }) => 1\n") (by rw [written]; exact List.mem_singleton_self _)
    rw [location] at read same
    have noReturn : 13 ∉ w.bytesAt ["a.ts"] := by decide +kernel
    exact ⟨out, rfl, written, rules, files, prepared, source, read, same.mpr noReturn, ps, passes,
      replaces⟩

/-- Only the parameters are to be replaced, but the line end behind them is lost as well. -/
theorem execute_fix_crlf :
    let env := sampleEnvironment
    let w := sample "({ b, a }) => 1\r\n"
    (∀ g, (env.parse g).Sound) ∧
      Text.decode (w.bytesAt ["a.ts"]) = .ok "({ b, a }) => 1\r\n".toList ∧
      (w.prepare env { targets := ["a.ts"] }).toOption.map (fun (rules, files) =>
        (files.map (·.location), (lintText rules parseSample "({ b, a }) => 1\n").toOption.map
          (·.map (·.edits)))) = some ([["a.ts"]], some [[⟨⟨3, 7, by decide⟩, "a, b"⟩]]) ∧
      (w.execute env (.fix { targets := ["a.ts"] })).toOption.map (·.written) =
        some [(["a.ts"], "({ a, b }) => 1\n")] := by
  refine ⟨fun _ => parseSample_sound, ?_, ?_, ?_⟩
  · decide +kernel
  · decide +kernel
  · decide +kernel

end FieldOrder.Workspace
