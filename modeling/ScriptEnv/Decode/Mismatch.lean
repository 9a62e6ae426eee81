import ScriptEnv.Text.Quoted
import ScriptEnv.Number.Layout

namespace ScriptEnv.Decode

inductive Found
  | null
  | bool (b : Bool)
  | integer (n : Int)
  | float (x : Number.Binary64)
  | text (s : String)
  | sequence
  | map
  | bareVariant
  deriving DecidableEq, Repr

inductive Mismatch
  | wrongType (found : Found) (expected : String)
  | wrongValue (found : Found) (expected : String)
  | wrongLength (length : Nat) (expected : String)
  | missingField (name : String)
  | duplicateField (name : String)
  | unknownVariant (name : String) (known : List String)
  | noPortForm
  | badPort (text : String)
  | badDriver (text : String)
  deriving DecidableEq, Repr

/-- `numbers` lays out a floating-point number in the format that was read. -/
def Found.describe (numbers : Number.Layout) : Found → String
  | null => "null"
  | bool b => s!"boolean `{b}`"
  | integer n => s!"integer `{n}`"
  | float x => s!"floating point `{numbers.render x}`"
  | text s => s!"string {Text.quote s}"
  | sequence => "sequence"
  | map => "map"
  | bareVariant => "unit variant"

def unsupportedDriver (name : String) : String :=
  s!"Unsupported driver '{name}'. Expected 'postgresql'"

def Mismatch.message (numbers : Number.Layout) : Mismatch → String
  | wrongType found expected => s!"invalid type: {found.describe numbers}, expected {expected}"
  | wrongValue found expected => s!"invalid value: {found.describe numbers}, expected {expected}"
  | wrongLength n expected => s!"invalid length {n}, expected {expected}"
  | missingField name => s!"missing field `{name}`"
  | duplicateField name => s!"duplicate field `{name}`"
  | unknownVariant name known =>
    let names := String.intercalate ", " (known.map fun k ↦ s!"`{k}`")
    s!"unknown variant `{name}`, expected one of {names}"
  | noPortForm => "data did not match any variant of untagged enum Port"
  | badPort text => s!"invalid port '{text}'"
  | badDriver text => unsupportedDriver text

def recordName (name : String) : String := s!"struct {name}"

def recordLength (name : String) (fields : Nat) : String :=
  s!"struct {name} with {fields} element" ++ if fields = 1 then "" else "s"

def required {α : Type} (name : String) : Option α → Except Mismatch α
  | some a => .ok a
  | none => .error (.missingField name)

theorem required_eq_ok {α : Type} {name : String} {o : Option α} {a : α} :
    required name o = .ok a ↔ o = some a := by
  cases o with
  | none => exact iff_of_false (fun h ↦ by cases h) fun h ↦ by cases h
  | some b => rw [required, Except.ok.injEq, Option.some.injEq]

end ScriptEnv.Decode
