import FieldOrder.CommandLine.Run
import FieldOrder.Proofs.Computation

namespace FieldOrder

theorem RunError.exists_userMessage_of_config (e : ConfigError) :
    ∃ message, (RunError.configFile (.config e)).userMessage? = some message := by
  cases e <;> exact ⟨_, rfl⟩

namespace Workspace
variable {env : Environment} {w : Workspace} {words : List String} {c : Command} {verbose : Bool}
  {e : RunError} {message : String}

theorem run_of_outcome {out : Outcome} (read : Invocation.ofWords words = .ok (.command c verbose))
    (done : w.execute env c = .ok out) :
    w.run env words = .ok (if verbose then { out with stderr := none } else out) := by
  simp only [run, read, done]
  rfl

theorem run_of_userMessage (read : Invocation.ofWords words = .ok (.command c verbose))
    (failed : w.execute env c = .error e) (told : e.userMessage? = some message) :
    w.run env words =
      .ok { exit := 2, stderr := if verbose then none else some message } := by
  simp only [run, read, failed, told]
  cases verbose <;> rfl

/-- What is beyond the user is left to the caller. -/
theorem run_of_noMessage (read : Invocation.ofWords words = .ok (.command c verbose))
    (failed : w.execute env c = .error e) (silent : e.userMessage? = none) :
    w.run env words = .error e := by
  simp only [run, read, failed, silent]
  rfl

theorem execute_of_prepare {r : Request} (asked : c = .check r ∨ c = .fix r)
    (failed : w.prepare env r = .error e) : w.execute env c = .error e := by
  rcases asked with rfl | rfl
  · rw [execute, carryOut, failed]
    rfl
  · rw [execute, carryOut, failed]
    rfl

theorem prepare_of_configFile {r : Request} {e : ConfigFileError}
    (failed : Config.loadFrom w env.readDocument (r.configFile.map Path.ofText) = .error e) :
    w.prepare env r = .error (.configFile e) := by
  rw [prepare, failed]
  rfl

end Workspace

end FieldOrder
