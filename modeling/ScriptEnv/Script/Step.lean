import ScriptEnv.Script.Runner

namespace ScriptEnv

inductive Step
  | inspect
  | hasEngine
  | engine
  | insert (kind : EntityKind) (name : String) (policy : OnDuplicate)
  | builtin (b : Builtin) (format : Format)
  | raise (r : Raised)
  | close
  | connect (slot : Nat)
  | release (slot : Nat)
  | describe (slot : Nat)
  | touch (slot : Nat)
  | query (slot : Nat) (sql : String)
  | execute (slot : Nat) (sql : String)
  | environmentQuery (sql : String)
  | fetch (table : String)

namespace Session

def slot? (s : Session) (slot : Nat) : Option Connection :=
  (s.slots.find? (·.1 = slot)).map Prod.snd

def emptySlot (slot : Nat) (s : Session) : Session :=
  { s with slots := s.slots.filter (·.1 ≠ slot) }

def releaseSlot (slot : Nat) (s : Session) : Session :=
  match s.slot? slot with
  | some c => (s.emptySlot slot).release c
  | none => s

/-- Puts a connection into a slot; the one that stood there is given back. -/
def keep (slot : Nat) (c : Connection) (s : Session) : Session :=
  let s := s.releaseSlot slot
  { s with slots := s.slots ++ [(slot, c)] }

def setSlot (slot : Nat) (c : Connection) (s : Session) : Session :=
  { s with slots := s.slots.map fun e ↦ if e.1 = slot then (slot, c) else e }

def releaseAll (s : Session) : Session :=
  s.slots.foldl (fun s e ↦ s.releaseSlot e.1) s

end Session

namespace Step

/-- The connection in a slot; without one the step breaks down. -/
def held {ε : Type} (slot : Nat) : Action ε Connection := do
  match (← get).slot? slot with
  | some c => pure c
  | none => throw .panic

def statement {α : Type} (slot : Nat) (sql : String)
    (answer : Connection → Outcome → Except (Halt Failure) α) : Action Failure α := do
  let c ← held slot
  let outcome := c.outcome (← get).peer sql
  modify (Session.setSlot slot (c.after outcome))
  Action.ofExcept (answer c outcome)

def printed (a : Action Raised Unit) : Action Raised String := do
  let before := (← get).output
  modify fun s ↦ { s with output := "" }
  let ended ← ExceptT.lift a.run
  let text := (← get).output
  modify fun s ↦ { s with output := before }
  match ended with
  | .ok () => pure text
  | .error h => throw h

def insertion (e : Environment) (name : String) (policy : OnDuplicate) :
    EntityKind → Except Failure Unit
  | .script => ((e.scripts.insert name policy).1).map fun _ ↦ ()
  | .query => ((e.queries.insert name policy).1).map fun _ ↦ ()
  | .table => ((e.tables.insert name policy).1).map fun _ ↦ ()

def inspection (e : Environment) (s : Session) : Inspection :=
  { scriptName := e.scriptName
    display := e.target.display
    url := e.target.connectionUrl
    scripts := e.scripts.scripts.size
    queries := e.queries.size
    tables := e.tables.size
    me := e.scripts.me?.map (·.name)
    current := e.scripts.current
    description := e.describe
    hasEngine := s.hasEngine }

def run (e : Environment) : Step → Action Raised Answer
  | inspect => do pure (.inspection (inspection e (← get)))
  | hasEngine => do pure (.truth (← get).hasEngine)
  | engine => do
    modify (Session.ensureEngine e.target)
    pure (.truth (← get).hasEngine)
  | insert kind name policy => do
    Action.ofExcept ((insertion e name policy kind).mapError fun f ↦ .error (.failure f))
    pure .nothing
  | builtin b format => do pure (.word (← printed (b.handler format e)))
  | raise r => throw (.error r)
  | close => do
    modify Session.close
    pure (.word "closed")
  | connect slot => do
    let c ← e.connect.raising
    modify (Session.keep slot c)
    pure (.word "connected")
  | release slot => do
    modify (Session.releaseSlot slot)
    pure (.word "released")
  | describe slot => do
    match (← get).slot? slot with
    | some c => pure (.word c.describe)
    | none => pure .nothing
  | touch slot => do
    let _ ← held slot
    pure (.word "raw")
  | query slot sql => do
    pure (.frame (← (statement slot sql Connection.queried).raising))
  | execute slot sql => do
    pure (.count (← (statement slot sql Connection.executed).raising))
  | environmentQuery sql => do pure (.frame (← (e.query sql).raising))
  | fetch table => do pure (.frame (← (e.fetch ⟨table⟩).raising))

end Step

structure Stage where
  step : Step
  propagate : Bool

namespace Stage

def runAll (e : Environment) : List Stage → Action Raised Unit
  | [] => pure ()
  | stage :: stages => do
    let answered ← ExceptT.lift (stage.step.run e).run
    modify fun s ↦ { s with answers := s.answers ++ [answered] }
    match answered with
    | .error (.error r) => if stage.propagate then throw (.error r) else runAll e stages
    | _ => runAll e stages

/-- The script of some stages; what it still holds at its end is given back. -/
def handler (stages : List Stage) : Handler := fun e ↦ do
  let ended ← ExceptT.lift (runAll e stages).run
  modify Session.releaseAll
  Action.ofExcept ended

end Stage

end ScriptEnv
