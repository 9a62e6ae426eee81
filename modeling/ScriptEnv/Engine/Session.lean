import ScriptEnv.Engine.Acquire
import ScriptEnv.Log
import ScriptEnv.Script.Answer

namespace ScriptEnv

/-- What comes of connecting with this password. -/
def Welcome.answer (password : String) : Welcome → Except AcquireError Unit
  | accepts => .ok ()
  | asksPassword refusal? =>
    match refusal? password with
    | none => .ok ()
    | some r => .error (.refused r.message)
  | hangsUp => .error (.other lostConnection)
  | refuses r => .error (.refused r.message)

theorem Welcome.answer_ne_timedOut (w : Welcome) (password : String) :
    w.answer password ≠ .error .timedOut := by
  cases w with
  | asksPassword refusal? =>
    rw [answer]
    split <;> exact nofun
  | _ => exact nofun

structure Pool where
  closed : Bool
  /-- Connections handed out. -/
  held : Nat
  /-- Open connections that wait to be handed out. -/
  idle : Nat
  deriving DecidableEq, Repr

structure Connection where
  queryTimeout : UInt64
  alive : Bool
  deriving DecidableEq, Repr

structure Session where
  pool : Option Pool
  peer : Peer
  startups : List Startup
  slots : List (Nat × Connection)
  log : List LogRecord
  output : String
  answers : List Answered

/-- A step of a run that may fail with an `ε`; what it did to the session stays. -/
abbrev Action (ε α : Type) := ExceptT (Halt ε) (StateM Session) α

namespace Action

variable {ε α β : Type}

theorem run_bind (m : Action ε α) (f : α → Action ε β) (s : Session) :
    (m >>= f).run s =
      match m.run s with
      | (.ok a, s) => (f a).run s
      | (.error e, s) => (.error e, s) := by
  simp only [bind, ExceptT.bind, ExceptT.run, ExceptT.mk, StateT.bind, ExceptT.bindCont]
  rcases m s with ⟨_ | _, _⟩ <;> rfl

theorem run_modifyGet (f : Session → α × Session) (s : Session) :
    (modifyGet f : Action ε α).run s = (.ok (f s).1, (f s).2) := rfl

end Action

namespace Session

def start (peer : Peer) : Session := ⟨none, peer, [], [], [], "", []⟩

def hasEngine (s : Session) : Bool := s.pool.isSome

def record (level : Level) (source message : String) (s : Session) : Session :=
  { s with log := s.log ++ [⟨level, source, message⟩] }

def newPool : Pool := ⟨false, 0, 0⟩

/-- The engine is made on first use; no connection is opened yet. -/
def ensureEngine (t : Target) (s : Session) : Session :=
  match s.pool with
  | some _ => s
  | none =>
    { s.record .debug engineSource s!"Creating engine for {t.display}" with pool := some newPool }

def withPool (pool : Pool) (s : Session) : Session := { s with pool := some pool }

def started (password : Bool) (t : Target) (s : Session) : Session :=
  let startup : Startup := ⟨t.username, t.database, if password then some t.password else none⟩
  { s with startups := s.startups ++ [startup] }

def openConnection (t : Target) (s : Session) : Except AcquireError Unit × Session :=
  match s.peer with
  | .noRoute reason => (.error (.other s!"error communicating with database: {reason}"), s)
  | .silent => (.error .timedOut, s)
  | .server server =>
    let (welcome, server) := server.welcome
    (welcome.answer t.password, started welcome.asks t { s with peer := .server server })

/-- Hands out a connection: one that waits, or a new one while the pool has room. -/
def acquire (t : Target) (s : Session) : Except AcquireError Connection × Session :=
  let s := s.ensureEngine t
  let pool := s.pool.getD newPool
  let connection : Connection := ⟨t.tuning.queryTimeout, true⟩
  if pool.closed then (.error .closed, s)
  else if t.tuning.acquireTimeout = 0 ∨ t.tuning.poolSize ≤ pool.held then (.error .timedOut, s)
  else if 0 < pool.idle then
    (.ok connection, s.withPool { pool with held := pool.held + 1, idle := pool.idle - 1 })
  else
    match s.openConnection t with
    | (.ok (), s) => (.ok connection, s.withPool { pool with held := pool.held + 1 })
    | (.error e, s) => (.error e, s)

/-- Takes a connection back; one that is lost leaves the pool. -/
def release (c : Connection) (s : Session) : Session :=
  let s := s.record .debug connectionSource "Releasing connection"
  match s.pool with
  | none => s
  | some pool =>
    let kept := c.alive && !pool.closed
    s.withPool { pool with held := pool.held - 1, idle := if kept then pool.idle + 1 else pool.idle }

def close (s : Session) : Session :=
  match s.pool with
  | none => s
  | some pool => s.withPool { pool with closed := true, idle := 0 }

def connect (t : Target) (s : Session) : Except AcquireError Connection × Session :=
  attempts
    (fun n ↦ record .debug engineSource s!"Connection attempt {n} of {maxAttempts}")
    (acquire t)
    (fun n delay ↦ record .warn engineSource
      s!"Connection attempt {n} failed (transient error), retrying in {durationText delay}")
    s

end Session

namespace Target

def connect (t : Target) : Action Failure Connection := do
  match (← modifyGet (Session.connect t)) with
  | .ok c =>
    modify (Session.record .debug engineSource s!"Acquired connection to {t.display}")
    pure c
  | .error e => throw (.error (e.report t))

theorem connect_run (t : Target) (s : Session) :
    (connect t).run s =
      match s.connect t with
      | (.ok c, s) => (.ok c, s.record .debug engineSource s!"Acquired connection to {t.display}")
      | (.error e, s) => (.error (.error (e.report t)), s) := by
  unfold connect
  rw [Action.run_bind, Action.run_modifyGet]
  rcases s.connect t with ⟨_ | _, _⟩ <;> rfl

end Target

end ScriptEnv
