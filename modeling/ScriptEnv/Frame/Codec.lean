import ScriptEnv.Frame.Basic
import ScriptEnv.Json.Reader

namespace ScriptEnv.Frame

open Json (Reader Fault skipSpace before onNext)
open Decode (required)

def columnJson (c : Column) : Json :=
  .object [("name", .string c.name), ("data_type", .string c.type)]

def toJson (f : Frame) : String :=
  Json.compact <| .object
    [("columns", .array (f.columns.map columnJson)),
      ("rows", .array (f.rows.map fun r ↦ .array (r.map Cell.taggedJson))),
      ("execution_time", .natural f.elapsed)]

inductive Kind
  | null
  | bool
  | int
  | float
  | text
  | bytes
  deriving DecidableEq, Repr

def kinds : List (String × Kind) :=
  [("Null", .null), ("Bool", .bool), ("Int", .int), ("Float", .float), ("String", .text),
    ("Bytes", .bytes)]

def readKind : Reader Kind := fun s ↦ do
  let (name, r) ← Json.textNamed "variant identifier" s
  match kinds.find? (·.1 = name) with
  | some k => .ok (k.2, r)
  | none => .error (before (.mismatch (.unknownVariant name (kinds.map Prod.fst))) r)

def readContent : Kind → Reader Cell
  | .null, s => (Json.nothing s).map fun (_, r) ↦ (.null, r)
  | .bool, s => (Json.boolean s).map fun (b, r) ↦ (.bool b, r)
  | .int, s => (Json.wholeBetween "i64" (-Number.twoTo 63) (Number.twoTo 63 - 1) s).map fun (n, r) ↦ (.int (.ofInt n), r)
  | .float, s => (Json.binary64 s).map fun (x, r) ↦ (.float x, r)
  | .text, s => (Json.text s).map fun (t, r) ↦ (.text t, r)
  | .bytes, s =>
    (Json.list (Json.naturalUpTo "u8" 255) s).map fun (b, r) ↦ (.bytes (b.map UInt8.ofNat), r)

def readCell : Reader Cell := fun s ↦
  match skipSpace s with
  | [] => .error (before .endInValue [])
  | '"' :: r => do
    let (kind, r) ← readKind ('"' :: r)
    if kind = .null then .ok (.null, r)
    else .error (.loose (.wrongType .bareVariant "newtype variant") r)
  | '\x7b' :: r => do
    let (kind, r) ← readKind r
    let (cell, r) ← readContent kind (← Json.colon r)
    match skipSpace r with
    | [] => .error (before .endInObject [])
    | '\x7d' :: r => .ok (cell, r)
    | r => .error (before .expectedValue r)
  | s => .error (onNext .expectedValue s)

structure PartialColumn where
  name : Option String
  type : Option String

def columnRecord : Json.Record PartialColumn Column where
  name := "ColumnInfo"
  start := ⟨none, none⟩
  finish p := do .ok ⟨← required "name" p.name, ← required "data_type" p.type⟩
  fields :=
    [⟨"name", fun p ↦ p.name.isSome,
        fun p s ↦ (Json.text s).map fun (a, r) ↦ ({ p with name := some a }, r), false⟩,
      ⟨"data_type", fun p ↦ p.type.isSome,
        fun p s ↦ (Json.text s).map fun (a, r) ↦ ({ p with type := some a }, r), false⟩]

/-- A count of nanoseconds, of which the lower 64 bits are kept. -/
def readElapsed : Reader Nat := fun s ↦
  (Json.natural128 s).map fun (n, r) ↦ (n % Number.twoTo 64, r)

structure Partial where
  columns : Option (List Column)
  rows : Option (List (List Cell))
  elapsed : Option Nat

def codec : Json.Record Partial Frame where
  name := "DataFrame"
  start := ⟨none, none, none⟩
  finish p := do
    .ok ⟨← required "columns" p.columns, ← required "rows" p.rows,
      ← required "execution_time" p.elapsed⟩
  fields :=
    [⟨"columns", fun p ↦ p.columns.isSome,
        fun p s ↦ (Json.list columnRecord.read s).map fun (a, r) ↦ ({ p with columns := some a }, r),
        false⟩,
      ⟨"rows", fun p ↦ p.rows.isSome,
        fun p s ↦ (Json.list (Json.list readCell) s).map fun (a, r) ↦ ({ p with rows := some a }, r),
        false⟩,
      ⟨"execution_time", fun p ↦ p.elapsed.isSome,
        fun p s ↦ (readElapsed s).map fun (a, r) ↦ ({ p with elapsed := some a }, r), false⟩]

def ofJson (text : String) : Except String Frame := Json.decode codec.read text

end ScriptEnv.Frame
