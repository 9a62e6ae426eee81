import ScriptEnv.Catalog
import ScriptEnv.Engine.Statement
import ScriptEnv.Payload

namespace ScriptEnv

structure Environment where
  target : Target
  scriptName : String

def Action.ofExcept {ε α : Type} : Except (Halt ε) α → Action ε α
  | .ok a => pure a
  | .error h => throw h

namespace Environment

def ofPayload (p : Payload) : Except Failure Environment := do
  p.validate
  .ok ⟨← p.target, p.scriptName⟩

def scripts (e : Environment) : ScriptCatalog := ⟨.empty, e.scriptName⟩

def queries (_ : Environment) : Catalog .query := .empty

def tables (_ : Environment) : Catalog .table := .empty

def describe (e : Environment) : String :=
  "Environment \x7b " ++ s!"database_info: {e.target.describe}, script_name: {Text.quote e.scriptName}"
    ++ " \x7d"

def connect (e : Environment) : Action Failure Connection := e.target.connect

/-- Runs a query on a connection of its own, which goes back whatever comes of it. -/
def query (e : Environment) (sql : String) : Action Failure Frame := do
  let c ← e.connect
  let outcome := c.outcome (← get).peer sql
  modify (Session.release (c.after outcome))
  Action.ofExcept (c.queried outcome)

def fetch (e : Environment) (t : Table) : Action Failure Frame := e.query t.select

end Environment

end ScriptEnv
