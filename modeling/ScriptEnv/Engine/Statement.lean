import ScriptEnv.Engine.Session

namespace ScriptEnv

def Refusal.text (r : Refusal) : String :=
  let line (label : String) : Option String → String
    | none => ""
    | some t => s!"\n  {label}: {t}"
  s!"ERROR: {r.message}" ++ line "DETAIL" r.detail ++ line "HINT" r.hint ++ line "TABLE" r.table
    ++ line "COLUMN" r.column ++ line "CONSTRAINT" r.constraint

/-- The number of rows in the last word of a command's tag. -/
def affected (tag : String) : Nat :=
  match (Text.splitOn ' ' tag.toList).getLast? with
  | some w => (Number.natural? (Number.twoTo 64 - 1) w).getD 0
  | none => 0

namespace Connection

def describe (c : Connection) : String :=
  let timeout := if c.queryTimeout = 0 then "0ns" else s!"{c.queryTimeout}s"
  "Connection \x7b " ++ s!"query_timeout: {timeout}, .." ++ " \x7d"

def outcome (c : Connection) (peer : Peer) (sql : String) : Outcome :=
  if ¬c.alive then .hangsUp
  else if c.queryTimeout = 0 then .hangs
  else
    match peer with
    | .server s => s.outcome sql
    | _ => .hangsUp

def queried (c : Connection) : Outcome → Except (Halt Failure) Frame
  | .rows columns rows _ =>
    match Wire.rows? columns rows with
    | some cells => .ok ⟨columns, cells, 0⟩
    | none => .error .panic
  | .command _ | .commands _ | .nothing => .ok .empty
  | .refused r | .fails _ r => .error (.error (.query r.text))
  | .hangs => .error (.error (.query s!"Query timed out after {c.queryTimeout} seconds"))
  | .hangsUp => .error (.error (.query lostConnection))

def executed (c : Connection) : Outcome → Except (Halt Failure) Nat
  | .rows _ _ tag | .command tag => .ok (affected tag)
  | .commands tags => .ok (tags.foldl (fun n t ↦ n + affected t) 0)
  | .nothing => .ok 0
  | .refused r | .fails _ r => .error (.error (.query r.text))
  | .hangs => .error (.error (.query s!"Statement timed out after {c.queryTimeout} seconds"))
  | .hangsUp => .error (.error (.query lostConnection))

def after (c : Connection) : Outcome → Connection
  | .hangsUp => { c with alive := false }
  | _ => c

end Connection

end ScriptEnv
