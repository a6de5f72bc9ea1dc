import FieldOrder.CommandLine.Run
import FieldOrder.Proofs.Lint.Passes

namespace FieldOrder

variable {rules : List BoundRule} {parse : Parse} {text : String} {r : FixResult}

theorem changed_of_ne (h : fixText rules parse text = .ok r) (ne : r.text ≠ text) :
    r.changed = true := by
  obtain ⟨-, ps, run, -, -, count⟩ := exists_run h
  have counted := run.one_le_countedFixes ne
  simp only [FixResult.changed, count, decide_eq_true_eq]
  omega

namespace Workspace
variable {env : Environment} {w : Workspace} {f : FoundFile}

theorem fixed_of_fixFile {outcome : FileOutcome} (source : w.sourceText f = .ok text)
    (fixing : fixText rules (env.parserOf f) text = .ok r) (changed : r.changed = true)
    (h : w.fixFile env rules f = .ok outcome) : outcome.fixed = some (f, r.text) := by
  simp only [fixFile, source, bind_eq_ok, mapError_eq_ok, pure_eq_ok] at h
  obtain ⟨r', fixing', report, -, rfl⟩ := h
  rw [fixing] at fixing'
  cases fixing'
  exact if_pos changed

theorem mem_written_of_execute {req : Request} {files : List FoundFile} {out : Outcome}
    (prepared : w.prepare env req = .ok (rules, files)) (hf : f ∈ files)
    (writes : req.dryRun = false) (source : w.sourceText f = .ok text)
    (fixing : fixText rules (env.parserOf f) text = .ok r) (changed : r.changed = true)
    (h : w.execute env (.fix req) = .ok out) :
    (f.location, r.text) ∈ out.written ∨ w.bytesAt f.location = Text.encode r.text.toList := by
  simp only [execute, carryOut, prepared, writes, bind_eq_ok] at h
  obtain ⟨_, ⟨⟩, outcomes, each, h⟩ := h
  obtain ⟨outcome, mem, fixed⟩ := exists_rel_of_mem_left (forall₂_of_mapM_eq_ok each) hf
  have given := fixed_of_fixFile source fixing changed fixed
  by_cases same : w.bytesAt f.location = Text.encode r.text.toList
  · exact .inr same
  have written : (f.location, r.text) ∈ ((outcomes.filterMap (·.fixed)).filter fun fix =>
      Text.encode fix.2.toList != w.bytesAt fix.1.location).map fun fix =>
        (fix.1.location, fix.2) := by
    refine List.mem_map.mpr ⟨(f, r.text), List.mem_filter.mpr ⟨?_, ?_⟩, rfl⟩
    · exact List.mem_filterMap.mpr ⟨outcome, mem, given⟩
    · simpa using Ne.symm same
  cases format : req.format with
  | json =>
    simp only [format, pure_eq_ok] at h
    rw [← h]
    exact .inl written
  | text =>
    simp only [format, pure_eq_ok] at h
    rw [← h]
    exact .inl written

end Workspace

/-- What is left is what the rules say about the text as it was left; the passes are those made, the
fixes those accepted where the text changed, and no text that changed is lost to a run. -/
theorem fixText_accounts (rules : List BoundRule) (parse : Parse) (text : String) (r : FixResult)
    (h : fixText rules parse text = .ok r) :
    lintText rules parse r.text = .ok r.remaining ∧ r.passes ≤ maxFixPasses ∧
      (∃ ps, Run rules parse text ps r.text ∧ r.passes = ps.length ∧
        (∀ p ∈ ps, 1 ≤ p.accepted) ∧ r.fixedCount = countedFixes ps) ∧
      (r.text ≠ text → r.changed = true) ∧
      ∀ (env : Environment) (w : Workspace) (req : Request) (files : List FoundFile)
        (f : FoundFile) (out : Outcome), env.parserOf f = parse →
        w.prepare env req = .ok (rules, files) → f ∈ files → w.sourceText f = .ok text →
        req.dryRun = false → w.execute env (.fix req) = .ok out → r.text ≠ text →
        (f.location, r.text) ∈ out.written ∨
          w.bytesAt f.location = Text.encode r.text.toList := by
  obtain ⟨lint, ps, run, length, passes, count⟩ := exists_run h
  have passes : r.passes = ps.length := by simpa using passes
  refine ⟨lint, passes ▸ length, ⟨ps, run, passes, ?_, by simpa using count⟩, changed_of_ne h, ?_⟩
  · intro p hp
    exact (run.made p hp).one_le_accepted
  · rintro env w req files f out rfl prepared hf source writes executed ne
    exact Workspace.mem_written_of_execute prepared hf writes source h (changed_of_ne h ne) executed

theorem fixText_accounts_nested :
    ∃ r, fixText [.forAttributes none] parseNested nestedTags = .ok r ∧
      r.text = "<B a b=<A c d/>/>" ∧
      lintText [.forAttributes none] parseNested r.text = .ok r.remaining ∧ r.changed = true ∧
      ∃ ps, Run [.forAttributes none] parseNested nestedTags ps r.text ∧ ps.length = 2 ∧
        (∀ p ∈ ps, 1 ≤ p.accepted) ∧ countedFixes ps = 2 := by
  obtain ⟨lint, -, ⟨ps, run, passes, accepted, count⟩, changed, -⟩ :=
    fixText_accounts [.forAttributes none] parseNested nestedTags _ fixText_nested
  have two : (2 : Int) = countedFixes ps := count
  exact ⟨_, fixText_nested, rfl, lint, changed (by decide), ps, run, passes.symm, accepted,
    by omega⟩

end FieldOrder
