import ScriptEnv.Script.Builtin

namespace ScriptEnv.Runner

def reporting (a : Action Raised Unit) : Action Failure Unit :=
  ExceptT.mk do
    match (← a.run) with
    | .ok () => pure (.ok ())
    | .error (.error r) => pure (.error (.error r.reported))
    | .error .panic => pure (.error .panic)

def log (message : String) : Action Failure Unit :=
  modify (Session.record .info runnerSource message)

def runPayload (handler : Handler) (p : Payload) : Action Failure Unit := do
  let e ← Action.ofExcept ((Environment.ofPayload p).mapError .error)
  log s!"Running script '{e.scriptName}' against {e.target.display}"
  reporting (handler e)
  log s!"Script '{e.scriptName}' finished"

def run (handler : Handler) (json : String) : Action Failure Unit := do
  let p ← Action.ofExcept ((Payload.ofJson json).mapError .error)
  runPayload handler p

end ScriptEnv.Runner
