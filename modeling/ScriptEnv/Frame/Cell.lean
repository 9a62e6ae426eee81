import ScriptEnv.Json.Writer
import ScriptEnv.Text.Quoted

namespace ScriptEnv

open Number (Binary64)

inductive Cell
  | null
  | bool (b : Bool)
  | int (n : Int64)
  | float (x : Binary64)
  | text (s : String)
  | bytes (b : List UInt8)
  deriving DecidableEq, Repr, Inhabited

namespace Cell

def isNull : Cell → Bool
  | null => true
  | _ => false

def display : Cell → String
  | null => "NULL"
  | bool b => s!"{b}"
  | int n => s!"{n.toInt}"
  | float x => Number.Layout.plain.render x
  | text s => s
  | bytes b => s!"<{b.length} bytes>"

def byteItems (b : List UInt8) : Json := .array (b.map fun x ↦ .natural x.toNat)

/-- The value alone, as it stands in a record. -/
def plainJson : Cell → Json
  | null => .null
  | bool b => .bool b
  | int n => .integer n.toInt
  | float x => .ofBinary64 x
  | text s => .string s
  | bytes b => byteItems b

@[simp]
theorem plainJson_null : plainJson null = .null := rfl

@[simp]
theorem plainJson_bool (b : Bool) : plainJson (bool b) = .bool b := rfl

@[simp]
theorem plainJson_int (n : Int64) : plainJson (int n) = .integer n.toInt := rfl

@[simp]
theorem plainJson_text (s : String) : plainJson (text s) = .string s := rfl

@[simp]
theorem plainJson_bytes (b : List UInt8) :
    plainJson (bytes b) = .array (b.map fun x ↦ .natural x.toNat) := rfl

theorem plainJson_float_of_isFinite {x : Binary64} (h : x.isFinite = true) :
    plainJson (float x) = .number x := if_pos h

theorem plainJson_float_of_not_isFinite {x : Binary64} (h : x.isFinite ≠ true) :
    plainJson (float x) = .null := if_neg h

theorem plainJson_eq_null_iff {c : Cell} :
    c.plainJson = .null ↔ c = null ∨ ∃ x, c = float x ∧ x.isFinite ≠ true := by
  cases c with
  | float x =>
    by_cases h : x.isFinite = true
    · simp [plainJson_float_of_isFinite h, h]
    · simp [plainJson_float_of_not_isFinite h, h]
  | _ => simp [Json.natural]

/-- The value with its kind, as it stands in a stored frame. -/
def taggedJson : Cell → Json
  | null => .string "Null"
  | bool b => .object [("Bool", .bool b)]
  | int n => .object [("Int", .integer n.toInt)]
  | float x => .object [("Float", .ofBinary64 x)]
  | text s => .object [("String", .string s)]
  | bytes b => .object [("Bytes", byteItems b)]

def describe : Cell → String
  | null => "Null"
  | bool b => s!"Bool({b})"
  | int n => s!"Int({n.toInt})"
  | float x => s!"Float({Number.Layout.tagged.render x})"
  | text s => s!"String({Text.quote s})"
  | bytes b =>
    let items := String.intercalate ", " (b.map fun x ↦ s!"{x.toNat}")
    s!"Bytes([{items}])"

end Cell

end ScriptEnv
