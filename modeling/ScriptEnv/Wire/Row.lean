import ScriptEnv.Frame.Basic
import ScriptEnv.Text.Blank
import ScriptEnv.Text.Upper
import ScriptEnv.Wire.Value

namespace ScriptEnv.Wire

/-- Text if the bytes are text without controls, and the bytes themselves otherwise. -/
def rawCell (b : Bytes) : Cell :=
  match Text.ofBytes? b with
  | some s => if s.toList.any Text.isControl then .bytes b else .text s
  | none => .bytes b

inductive Reading
  | boolean
  | int16
  | int32
  | int64
  | binary32
  | binary64
  | bytes
  | numeric
  | date
  | time
  | timestamp
  | timestampZone
  | uuid
  | document
  | text
  deriving DecidableEq, Repr

namespace Reading

/-- The reading of a type, by its name in any case; one that has none of its own is read as text. -/
def ofType (type : String) : Reading :=
  match String.ofList (Text.upper type) with
  | "BOOL" | "BOOLEAN" => .boolean
  | "INT2" | "SMALLINT" => .int16
  | "INT4" | "INT" | "INTEGER" => .int32
  | "INT8" | "BIGINT" => .int64
  | "FLOAT4" | "REAL" => .binary32
  | "FLOAT8" | "DOUBLE PRECISION" => .binary64
  | "BYTEA" => .bytes
  | "NUMERIC" => .numeric
  | "DATE" => .date
  | "TIME" => .time
  | "TIMESTAMP" => .timestamp
  | "TIMESTAMPTZ" => .timestampZone
  | "UUID" => .uuid
  | "JSON" | "JSONB" => .document
  | _ => .text

/-- The types whose values fit a reading, by their names as the server writes them. In another case
a name stands for a type of the application's own. -/
def types : Reading → List String
  | boolean => ["BOOL"]
  | int16 => ["INT2"]
  | int32 => ["INT4"]
  | int64 => ["INT8"]
  | binary32 => ["FLOAT4"]
  | binary64 => ["FLOAT8"]
  | bytes => ["BYTEA"]
  | numeric => ["NUMERIC"]
  | date => ["DATE"]
  | time => ["TIME"]
  | timestamp => ["TIMESTAMP"]
  | timestampZone => ["TIMESTAMPTZ"]
  | uuid => ["UUID"]
  | document => ["JSON", "JSONB"]
  | text => ["TEXT", "NAME", "CHAR", "VARCHAR", "UNKNOWN", "citext"]

def decode (type : String) (b : Bytes) : Reading → Decoded Cell
  | boolean => (Wire.boolean b).map .bool
  | int16 => (integer 16 b).map fun n ↦ .int (.ofInt n)
  | int32 => (integer 32 b).map fun n ↦ .int (.ofInt n)
  | int64 => (integer 64 b).map fun n ↦ .int (.ofInt n)
  | binary32 => (Wire.binary32 b).map .float
  | binary64 => (Wire.binary64 b).map .float
  | bytes => .value (.bytes b)
  | numeric => (Wire.numeric b).map .text
  | date => (Wire.date b).map .text
  | time => (Wire.time b).map .text
  | timestamp => (Wire.timestamp b).map .text
  | timestampZone => (Wire.timestampZone b).map .text
  | uuid => (Wire.uuid b).map .text
  | document => (if type = "JSONB" then binaryDocument b else Wire.document b).map .text
  | text => (Wire.text b).map .text

end Reading

def decoder (type : String) (b : Bytes) : Decoded Cell :=
  let r := Reading.ofType type
  if type ∈ r.types then r.decode type b else .refused

/-- A cell, or nothing where decoding breaks down. -/
def cell? (type : String) : Option Bytes → Option Cell
  | none => some .null
  | some b =>
    match decoder type b with
    | .value c => some c
    | .refused => some (rawCell b)
    | .panic => none

def row? (columns : List Column) (cells : List (Option Bytes)) : Option (List Cell) :=
  (columns.zip cells).mapM fun (c, b) ↦ cell? c.type b

def rows? (columns : List Column) (rows : List (List (Option Bytes))) : Option (List (List Cell)) :=
  rows.mapM (row? columns)

end ScriptEnv.Wire
