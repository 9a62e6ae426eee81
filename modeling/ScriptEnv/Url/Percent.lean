import ScriptEnv.Text.Bytes
import ScriptEnv.Number.Numeral

namespace ScriptEnv.Url

/-- The ASCII characters that are encoded. -/
abbrev EncodeSet := Char → Bool

def controls : EncodeSet := fun c ↦ c.toNat < 0x20 || c.toNat == 0x7F

def fragmentSet : EncodeSet := fun c ↦ controls c || [' ', '"', '<', '>', '\x60'].contains c

def querySet : EncodeSet := fun c ↦ controls c || [' ', '"', '#', '<', '>'].contains c

def specialQuerySet : EncodeSet := fun c ↦ querySet c || c == '\''

def pathSet : EncodeSet := fun c ↦ fragmentSet c || ['#', '?', '\x7b', '\x7d'].contains c

def userinfoSet : EncodeSet := fun c ↦
  pathSet c || ['/', ':', ';', '=', '@', '[', '\\', ']', '^', '|'].contains c

def capitalHex (n : Nat) : Char := (Nat.digitChar n).toUpper

def percentByte (b : UInt8) : List Char := ['%', capitalHex (b.toNat / 16), capitalHex (b.toNat % 16)]

def percentChar (c : Char) : List Char := (String.utf8EncodeChar c).flatMap percentByte

def encodes (set : EncodeSet) (c : Char) : Bool := 0x80 ≤ c.toNat || set c

def percentEncode (set : EncodeSet) (s : List Char) : List Char :=
  s.flatMap fun c ↦ if encodes set c then percentChar c else [c]

def percentDecode : List Char → List UInt8
  | '%' :: h :: l :: r =>
    match Number.hexValue? h, Number.hexValue? l with
    | some a, some b => UInt8.ofNat (a * 16 + b) :: percentDecode r
    | _, _ => String.utf8EncodeChar '%' ++ percentDecode (h :: l :: r)
  | c :: r => String.utf8EncodeChar c ++ percentDecode r
  | [] => []

def percentText? (s : List Char) : Option String := Text.ofBytes? (percentDecode s)

end ScriptEnv.Url
