import ScriptEnv.Wire.Row

namespace ScriptEnv

open Wire (Bytes)

structure Refusal where
  message : String
  detail : Option String
  hint : Option String
  table : Option String
  column : Option String
  constraint : Option String
  deriving DecidableEq, Repr

def Refusal.ofMessage (message : String) : Refusal := ⟨message, none, none, none, none, none⟩

inductive Welcome
  | accepts
  /-- The password that is sent decides whether the client is refused. -/
  | asksPassword (refusal? : String → Option Refusal)
  | hangsUp
  | refuses (r : Refusal)

def Welcome.asks : Welcome → Bool
  | asksPassword _ => true
  | _ => false

inductive Outcome
  | rows (columns : List Column) (rows : List (List (Option Bytes))) (tag : String)
  | command (tag : String)
  | nothing
  | refused (r : Refusal)
  /-- The statement is accepted and fails while it runs. -/
  | fails (columns : List Column) (r : Refusal)
  | commands (tags : List String)
  | hangs
  | hangsUp
  deriving Repr

structure Server where
  /-- What the next connections meet; the last entry stays. -/
  welcomes : List Welcome
  statements : List (String × Outcome)

namespace Server

def welcome (s : Server) : Welcome × Server :=
  match s.welcomes with
  | [] => (.accepts, s)
  | [w] => (w, s)
  | w :: ws => (w, { s with welcomes := ws })

def outcome (s : Server) (sql : String) : Outcome :=
  match s.statements.find? (·.1 = sql) with
  | some e => e.2
  | none => .refused (.ofMessage s!"unknown statement: {sql}")

end Server

inductive Peer
  | noRoute (reason : String)
  | silent
  | server (s : Server)

def networkUnreachable : String := "Network is unreachable (os error 101)"

structure Startup where
  user : String
  database : String
  password : Option String
  deriving DecidableEq, Repr

end ScriptEnv
