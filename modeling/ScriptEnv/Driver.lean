import ScriptEnv.Text.Lower
import ScriptEnv.Decode.Mismatch

namespace ScriptEnv

inductive Driver
  | postgresql
  deriving DecidableEq, Repr, Inhabited

namespace Driver

def name : Driver → String
  | postgresql => "postgresql"

def label : Driver → String
  | postgresql => "Postgresql"

def urlScheme : Driver → String
  | postgresql => "postgresql"

def defaultPort : Driver → UInt16
  | postgresql => 5432

def parse? (s : String) : Option Driver :=
  let word := Text.lower s
  if word = "postgres".toList ∨ word = "postgresql".toList then some postgresql else none

def parse (s : String) : Except String Driver :=
  match parse? s with
  | some d => .ok d
  | none => .error (Decode.unsupportedDriver s)

end Driver

end ScriptEnv
