import ScriptEnv.Report
import ScriptEnv.Script.Environment

namespace ScriptEnv

abbrev Handler := Environment → Action Raised Unit

def Action.raising {α : Type} (a : Action Failure α) : Action Raised α :=
  ExceptT.mk do
    match (← a.run) with
    | .ok x => pure (.ok x)
    | .error (.error f) => pure (.error (.error (.failure f)))
    | .error .panic => pure (.error .panic)

def printLine {ε : Type} (line : String) : Action ε Unit :=
  modify fun s ↦ { s with output := s.output ++ line ++ "\n" }

inductive Builtin
  | list (kind : EntityKind)
  | query (sql : String)
  | dump (table : String)
  deriving DecidableEq, Repr

namespace Builtin

def entityNames (e : Environment) : EntityKind → List String
  | .script => e.scripts.scripts.names
  | .query => e.queries.names
  | .table => e.tables.names

def handler (b : Builtin) (format : Format) : Handler := fun e ↦ do
  match b with
  | list kind => printLine (Report.names (entityNames e kind) format)
  | query sql =>
    let f ← (e.query sql).raising
    printLine (Report.frame f format)
  | dump table =>
    let f ← (e.fetch ⟨table⟩).raising
    printLine (Report.frame f format)

end Builtin

end ScriptEnv
