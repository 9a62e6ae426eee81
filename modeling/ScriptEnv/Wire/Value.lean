import ScriptEnv.Calendar
import ScriptEnv.Json.Reader

namespace ScriptEnv.Wire

open Number (Binary64)

abbrev Bytes := List UInt8

/-- Bytes that are cut short, and dates out of range, break decoding down. -/
inductive Decoded (α : Type)
  | value (a : α)
  | refused
  | panic
  deriving DecidableEq, Repr

namespace Decoded

variable {α β : Type}

def map (f : α → β) : Decoded α → Decoded β
  | value a => value (f a)
  | refused => refused
  | panic => panic

def ofOption : Option α → Decoded α
  | some a => value a
  | none => refused

end Decoded

def natural (b : Bytes) : Nat := b.foldl (fun n x ↦ n * 256 + x.toNat) 0

def signed (b : Bytes) : Int :=
  let n : Int := natural b
  if (b.headD 0).toNat < 128 then n else n - Number.twoTo (8 * b.length)

def integer (bits : Nat) (b : Bytes) : Decoded Int :=
  let n := signed b
  if b = [] ∨ 8 < b.length then .refused
  else if -Number.twoTo (bits - 1) ≤ n ∧ n < Number.twoTo (bits - 1) then .value n
  else .refused

def boolean : Bytes → Decoded Bool
  | [] => .panic
  | b :: _ => .value (b ≠ 0)

def binary32 (b : Bytes) : Decoded Binary64 :=
  if b.length < 4 then .panic else .value (.ofBinary32 (natural (b.take 4)))

def binary64 (b : Bytes) : Decoded Binary64 :=
  if b.length < 8 then .panic else .value (.ofBits (natural (b.take 8)))

def text (b : Bytes) : Decoded String := .ofOption (Text.ofBytes? b)

def orPanic {α : Type} : Option α → Decoded α
  | some a => .value a
  | none => .panic

def bind {α β : Type} (d : Decoded α) (f : α → Decoded β) : Decoded β :=
  match d with
  | .value a => f a
  | .refused => .refused
  | .panic => .panic

def date (b : Bytes) : Decoded String :=
  bind (integer 32 b) fun n ↦ orPanic ((Calendar.date? n).map fun d ↦ String.ofList d.text)

def time (b : Bytes) : Decoded String :=
  (integer 64 b).map fun n ↦
    String.ofList (Calendar.timeText (n.fmod Calendar.microsOfDay).toNat)

def timestamp (b : Bytes) : Decoded String :=
  bind (integer 64 b) fun n ↦ orPanic ((Calendar.timestamp? ' ' n).map String.ofList)

/-- The time zone is always universal time. -/
def timestampZone (b : Bytes) : Decoded String :=
  bind (integer 64 b) fun n ↦
    orPanic ((Calendar.timestamp? 'T' n).map fun s ↦ String.ofList (s ++ "+00:00".toList))

def hexByte (b : UInt8) : List Char := [Nat.digitChar (b.toNat / 16), Nat.digitChar (b.toNat % 16)]

def uuid (b : Bytes) : Decoded String :=
  if b.length = 16 then
    let group (i n : Nat) : List Char := ((b.drop i).take n).flatMap hexByte
    .value (String.ofList (Text.join ['-'] [group 0 4, group 4 2, group 6 2, group 8 2, group 10 6]))
  else .refused

def document (b : Bytes) : Decoded String :=
  match Text.ofBytes? b with
  | none => .refused
  | some s =>
    match Json.parse s with
    | .ok v => .value v.compact
    | .error _ => .refused

/-- A JSON text after a byte for the version of its format. -/
def binaryDocument : Bytes → Decoded String
  | 1 :: b => document b
  | _ => .panic

def decimalText (negative : Bool) (n scale : Nat) : List Char :=
  let ds := Calendar.digits (scale + 1) n
  let whole := ds.take (ds.length - scale)
  (if negative then ['-'] else []) ++ whole ++
    if scale = 0 then [] else '.' :: ds.drop (ds.length - scale)

/-- Base-10000 digits, the first one of the given weight, as a multiple of `10 ^ (-scale)`. -/
def scaled (weight : Int) (scale : Nat) : List Nat → Nat × Nat
  | [] => (0, 1)
  | ds =>
    let n := ds.foldl (fun n d ↦ n * 10000 + d) 0
    let e := 4 * (weight + 1 - ds.length) + scale
    (n * Number.tenTo e.toNat, Number.tenTo (-e).toNat)

def roundHalfUp (num den : Nat) : Nat := (2 * num + den) / (2 * den)

/-- An exact number: four fields of two bytes, then the digits. It fits if it is a whole number of 96
bits with a point among its last 28 digits. -/
def numeric (b : Bytes) : Decoded String :=
  let field (i : Nat) : Bytes := (b.drop (2 * i)).take 2
  let count := natural (field 0)
  let weight := signed (field 1)
  let sign := natural (field 2)
  let scale := signed (field 3)
  if b.length < 8 then .panic
  else if sign ≠ 0 ∧ sign ≠ 0x4000 then .refused
  else if b.length < 8 + 2 * count then .panic
  else if count = 0 then .value "0"
  else if scale < 0 ∨ 28 < scale then .refused
  else
    let digits := (List.range count).map fun i ↦ natural (field (4 + i))
    let (num, den) := scaled weight scale.toNat digits
    let n := roundHalfUp num den
    if n < Number.twoTo 96 then .value (String.ofList (decimalText (sign = 0x4000) n scale.toNat))
    else .refused

end ScriptEnv.Wire
