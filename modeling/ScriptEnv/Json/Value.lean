import ScriptEnv.Keyed
import ScriptEnv.Number.Binary64

namespace ScriptEnv

/-- A whole number is kept exactly, any other number as binary64. -/
inductive Json
  | null
  | bool (b : Bool)
  | integer (n : Int)
  | number (x : Number.Binary64)
  | string (s : String)
  | array (items : List Json)
  | object (members : List (String × Json))
  deriving Inhabited, Repr

namespace Json

def natural (n : Nat) : Json := integer n

/-- Numbers without a JSON form become null. -/
def ofBinary64 (x : Number.Binary64) : Json := if x.isFinite then number x else null

end Json

end ScriptEnv
