import ScriptEnv.Script.Runner

namespace ScriptEnv

theorem Action.run_ofExcept {ε α : Type} (x : Except (Halt ε) α) (s : Session) :
    (Action.ofExcept x : Action ε α).run s = (x, s) := by
  cases x <;> rfl

namespace Runner

variable {handler : Handler} {p : Payload} {e : Environment} {json : String} {f : Failure}

def announced (e : Environment) (s : Session) : Session :=
  s.record .info runnerSource s!"Running script '{e.scriptName}' against {e.target.display}"

def finished (e : Environment) (s : Session) : Session :=
  s.record .info runnerSource s!"Script '{e.scriptName}' finished"

def ended (e : Environment) :
    Except (Halt Raised) Unit × Session → Except (Halt Failure) Unit × Session
  | (.ok (), s) => (.ok (), finished e s)
  | (.error (.error r), s) => (.error (.error r.reported), s)
  | (.error .panic, s) => (.error .panic, s)

theorem reporting_run (a : Action Raised Unit) (s : Session) :
    (reporting a).run s =
      match a.run s with
      | (.ok (), s) => (.ok (), s)
      | (.error (.error r), s) => (.error (.error r.reported), s)
      | (.error .panic, s) => (.error .panic, s) := by
  unfold reporting
  simp only [ExceptT.run, ExceptT.mk, bind, StateT.bind]
  rcases a s with ⟨(_ | _) | _, _⟩ <;> rfl

theorem log_run (message : String) (s : Session) :
    (log message).run s = (.ok (), s.record .info runnerSource message) := rfl

theorem runPayload_run (he : Environment.ofPayload p = .ok e) (handler : Handler) (s : Session) :
    (runPayload handler p).run s = ended e ((handler e).run (announced e s)) := by
  unfold runPayload
  rw [he, Action.run_bind, Action.run_ofExcept]
  dsimp only [Except.mapError]
  rw [Action.run_bind, log_run]
  dsimp only
  rw [Action.run_bind, reporting_run]
  change _ = ended e ((handler e).run (announced e s))
  unfold announced
  rcases (handler e).run _ with ⟨(_ | _) | _, _⟩ <;> rfl

theorem runPayload_run_of_error (he : Environment.ofPayload p = .error f) (handler : Handler)
    (s : Session) : (runPayload handler p).run s = (.error (.error f), s) := by
  unfold runPayload
  rw [he, Action.run_bind, Action.run_ofExcept]
  rfl

theorem run_run (hp : Payload.ofJson json = .ok p) (handler : Handler) (s : Session) :
    (run handler json).run s = (runPayload handler p).run s := by
  unfold run
  rw [hp, Action.run_bind, Action.run_ofExcept]
  rfl

theorem run_run_of_error (hp : Payload.ofJson json = .error f) (handler : Handler) (s : Session) :
    (run handler json).run s = (.error (.error f), s) := by
  unfold run
  rw [hp, Action.run_bind, Action.run_ofExcept]
  rfl

end Runner

end ScriptEnv
