import ScriptEnv.CommandLine.Connection
import ScriptEnv.CommandLine.Parser
import ScriptEnv.CommandLine.Usage
import ScriptEnv.LogFilter
import ScriptEnv.Script.Runner

namespace ScriptEnv

structure Surroundings where
  environment : Variables
  accountHome : Option String
  file : String → FileContent
  peer : Peer

structure Exit where
  code : Nat
  output : String
  log : List LogRecord
  complaint : String
  deriving Repr

namespace Program

open CommandLine (Invocation Notice)

def log (message : String) : Action Failure Unit :=
  modify (Session.record .info programSource message)

def checked {α : Type} (x : Except Failure α) : Action Failure α :=
  Action.ofExcept (x.mapError .error)

/-- Settings, connection, payload and format are settled in this order, before anything runs. -/
def execute (i : Invocation) (s : Surroundings) : Action Failure Unit := do
  let path := i.settingsPath s.environment s.accountHome
  log s!"Loading config from: {path}"
  let settings ← checked (Settings.ofFile path (s.file path))
  let profile ← checked (i.resolve settings s.environment)
  log s!"Connection: {profile.display}"
  let payload ← checked (profile.payload i.scriptName settings.tuning)
  let format ← checked ((Format.parse i.format).mapError .config)
  Runner.runPayload (i.command.handler format) payload

def panicCode : Nat := 101

def ended (end_ : Except (Halt Failure) Unit) (s : Session) : Nat × Session :=
  match end_ with
  | .ok () => (0, s)
  | .error (.error f) => (1, s.record .error programSource s!"{f.category}: {f.message}")
  | .error .panic => (panicCode, s)

def run (words : List String) (s : Surroundings) : Exit :=
  match CommandLine.parse words s.environment with
  | .error notice => ⟨notice.code, notice.output, [], notice.complaint⟩
  | .ok i =>
    let (end_, session) := (execute i s).run (Session.start s.peer)
    let (code, session) := ended end_ session
    let filter := LogFilter.choose (s.environment.text? "RUST_LOG") i.verbosity
    ⟨code, session.output, session.log.filter filter.admits, ""⟩

end Program

end ScriptEnv
