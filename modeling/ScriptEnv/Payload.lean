import ScriptEnv.Target

namespace ScriptEnv

structure Payload where
  username : String
  password : String
  host : String
  port : UInt16
  database : String
  scriptName : String
  driver : Driver
  tuning : Tuning
  deriving DecidableEq, Repr

namespace Payload

open Json (Reader Fault)
open Decode (required)

/-- A number of 16 bits, or the decimal text of one with blanks around it. -/
def readPort : Reader UInt16 := fun s ↦ do
  let (v, r) ← Json.any (Json.depthLimit - 1) s
  match v with
  | .integer n =>
    if 0 ≤ n ∧ n ≤ 65535 then .ok (.ofNat n.toNat, r) else .error (.loose .noPortForm r)
  | .string text =>
    match Number.port? (Text.trim text.toList) with
    | some p => .ok (p, r)
    | none => .error (.loose (.badPort text) r)
  | _ => .error (.loose .noPortForm r)

def readDriver : Reader Driver := fun s ↦ do
  let (name, r) ← Json.text s
  match Driver.parse? name with
  | some d => .ok (d, r)
  | none => .error (.loose (.badDriver name) r)

structure Partial where
  username : Option String
  password : Option String
  host : Option String
  port : Option UInt16
  database : Option String
  scriptName : Option String
  driver : Option Driver
  tuning : Option Tuning

def Partial.empty : Partial := ⟨none, none, none, none, none, none, none, none⟩

def Partial.complete (p : Partial) : Except Decode.Mismatch Payload := do
  let username ← required "username" p.username
  let password ← required "password" p.password
  let host ← required "host" p.host
  let port ← required "port" p.port
  let database ← required "database" p.database
  let scriptName ← required "script_name" p.scriptName
  .ok ⟨username, password, host, port, database, scriptName, p.driver.getD default,
    p.tuning.getD .standard⟩

def slot {α : Type} (name : String) (get : Partial → Option α) (put : Partial → α → Partial)
    (read : Reader α) (hasDefault : Bool) : Json.Field Partial where
  name := name
  isSet p := (get p).isSome
  read p s := (read s).map fun (a, r) ↦ (put p a, r)
  hasDefault := hasDefault

def record : Json.Record Partial Payload where
  name := "ScriptConfig"
  start := .empty
  finish := Partial.complete
  fields :=
    [slot "username" (·.username) (fun p a ↦ { p with username := some a }) Json.text false,
      slot "password" (·.password) (fun p a ↦ { p with password := some a }) Json.text false,
      slot "host" (·.host) (fun p a ↦ { p with host := some a }) Json.text false,
      slot "port" (·.port) (fun p a ↦ { p with port := some a }) readPort false,
      slot "database" (·.database) (fun p a ↦ { p with database := some a }) Json.text false,
      slot "script_name" (·.scriptName) (fun p a ↦ { p with scriptName := some a }) Json.text false,
      slot "driver" (·.driver) (fun p a ↦ { p with driver := some a }) readDriver true,
      slot "engine" (·.tuning) (fun p a ↦ { p with tuning := some a }) Tuning.record.read true]

def validate (p : Payload) : Except Failure Unit :=
  requireText
    [("username", p.username), ("host", p.host), ("database", p.database),
      ("script_name", p.scriptName)]

def ofJson (text : String) : Except Failure Payload := do
  match Json.decode record.read text with
  | .error e => .error (.config s!"Invalid script configuration: {e}")
  | .ok p =>
    p.validate
    .ok p

def toJson (p : Payload) : String :=
  Json.compact <| .object
    [("username", .string p.username), ("password", .string p.password), ("host", .string p.host),
      ("port", .natural p.port.toNat), ("database", .string p.database),
      ("script_name", .string p.scriptName), ("driver", .string p.driver.name),
      ("engine", p.tuning.toJson)]

def target (p : Payload) : Except Failure Target := do
  let t ← Target.build p.driver p.username p.password p.host p.port p.database
  .ok { t with tuning := p.tuning }

def describe (p : Payload) : String :=
  let quoted (name value : String) : String := s!"{name}: {Text.quote value}, "
  "ScriptConfig \x7b " ++ quoted "username" p.username ++ quoted "password" "***"
    ++ quoted "host" p.host ++ s!"port: {p.port}, " ++ quoted "database" p.database
    ++ quoted "script_name" p.scriptName ++ s!"driver: {p.driver.label}, "
    ++ "engine: " ++ p.tuning.describe ++ " \x7d"

end Payload

end ScriptEnv
