import Mathlib.Algebra.Order.Ring.Nat
import Mathlib.Data.List.Induction
import Mathlib.Tactic.Ring
import Mathlib.Tactic.SplitIfs
import ScriptEnv.Proofs.Calendar.Years
import ScriptEnv.Proofs.Wire.Cells

namespace ScriptEnv.Wire

variable {b : Bytes} {bits w : Nat}

def bigEndian : Nat → Nat → Bytes
  | 0, _ => []
  | w + 1, n => bigEndian w (n / 256) ++ [UInt8.ofNat n]

theorem length_bigEndian (w n : Nat) : (bigEndian w n).length = w := by
  induction w generalizing n with
  | zero => rfl
  | succ w ih => simp [bigEndian, ih]

theorem bigEndian_ne_nil (hw : 0 < w) (n : Nat) : bigEndian w n ≠ [] := by
  apply List.ne_nil_of_length_pos
  rwa [length_bigEndian]

theorem natural_concat (b : Bytes) (x : UInt8) : natural (b ++ [x]) = natural b * 256 + x.toNat := by
  simp [natural]

theorem natural_bigEndian (w n : Nat) : natural (bigEndian w n) = n % 256 ^ w := by
  induction w generalizing n with
  | zero => simp [bigEndian, natural, Nat.mod_one]
  | succ w ih =>
    rw [bigEndian, natural_concat, ih, pow_succ', Nat.mod_mul, UInt8.toNat_ofNat']
    omega

theorem natural_cons (x : UInt8) (b : Bytes) :
    natural (x :: b) = x.toNat * 256 ^ b.length + natural b := by
  induction b using List.reverseRecOn with
  | nil => simp [natural]
  | append_singleton b y ih =>
    rw [← List.cons_append, natural_concat, ih, natural_concat, List.length_append,
      List.length_singleton, pow_succ]
    ring

theorem natural_lt (b : Bytes) : natural b < 256 ^ b.length := by
  induction b using List.reverseRecOn with
  | nil => simp [natural]
  | append_singleton b y ih =>
    have hy := y.toNat_lt
    rw [natural_concat, List.length_append, List.length_singleton, pow_succ]
    omega

theorem head_lt_iff (x : UInt8) (b : Bytes) :
    x.toNat < 128 ↔ natural (x :: b) < 128 * 256 ^ b.length := by
  have hb := natural_lt b
  rw [natural_cons]
  constructor
  · intro hx
    have hmul := Nat.mul_le_mul_right (256 ^ b.length) (Nat.le_of_lt_succ hx)
    omega
  · intro h
    by_contra! hx
    have hmul := Nat.mul_le_mul_right (256 ^ b.length) hx
    omega

/-- Of the numbers that agree with the bytes, two's complement means the one nearest to zero. -/
theorem signed_eq_bmod (hb : b ≠ []) : signed b = (natural b : Int).bmod (256 ^ b.length) := by
  obtain ⟨x, b, rfl⟩ := List.exists_cons_of_ne_nil hb
  have hlt : (natural (x :: b) : Int) < (256 ^ (x :: b).length : Nat) :=
    Int.ofNat_lt.2 (natural_lt (x :: b))
  have htotal : Number.twoTo (8 * (x :: b).length) = 256 ^ (x :: b).length := by
    rw [Number.twoTo, Nat.pow_eq, pow_mul]
    rfl
  have hhalf : 256 ^ (x :: b).length = 2 * (128 * 256 ^ b.length) := by
    rw [List.length_cons, pow_succ]
    ring
  rw [signed, htotal, Int.bmod_def, Int.emod_eq_of_lt (Int.natCast_nonneg _) hlt]
  simp only [List.headD_cons, head_lt_iff x b, hhalf]
  generalize 128 * 256 ^ b.length = half
  split_ifs <;> omega

theorem signed_bigEndian (hw : 0 < w) (n : Nat) :
    signed (bigEndian w n) = (n : Int).bmod (256 ^ w) := by
  rw [signed_eq_bmod (bigEndian_ne_nil hw n), length_bigEndian, natural_bigEndian, Int.natCast_emod,
    Int.emod_bmod]

theorem integer_eq_value (hb : b ≠ []) (hlength : b.length ≤ 8) (hlow : -2 ^ (bits - 1) ≤ signed b)
    (hhigh : signed b < 2 ^ (bits - 1)) : integer bits b = .value (signed b) := by
  have htwo : ((Number.twoTo (bits - 1) : Nat) : Int) = 2 ^ (bits - 1) := by simp [Number.twoTo]
  have hfits : ¬(b = [] ∨ 8 < b.length) := by simp [hb, hlength]
  rw [integer, if_neg hfits, htwo, if_pos ⟨hlow, hhigh⟩]

theorem integer_bigEndian (hw : 0 < w) (hwidth : w ≤ 8) (n : BitVec (8 * w)) :
    integer (8 * w) (bigEndian w n.toNat) = .value n.toInt := by
  have hsigned : signed (bigEndian w n.toNat) = n.toInt := by
    rw [signed_bigEndian hw, BitVec.toInt_eq_toNat_bmod, pow_mul]
    rfl
  rw [← hsigned]
  apply integer_eq_value (bigEndian_ne_nil hw _)
  · rwa [length_bigEndian]
  · rw [hsigned]
    exact n.le_toInt
  · rw [hsigned]
    exact n.toInt_lt

/-- What the types of dates and times count from the start of the year 2000: days, or microseconds. -/
inductive Moment
  | date (days : Int32)
  | timestamp (micros : Int64)
  | timestampZone (micros : Int64)

namespace Moment

def type : Moment → String
  | date _ => "DATE"
  | timestamp _ => "TIMESTAMP"
  | timestampZone _ => "TIMESTAMPTZ"

def bytes : Moment → Bytes
  | date n => bigEndian 4 n.toBitVec.toNat
  | timestamp n | timestampZone n => bigEndian 8 n.toBitVec.toNat

def day : Moment → Int
  | date n => n.toInt
  | timestamp n | timestampZone n => n.toInt.fdiv Calendar.microsOfDay

def Dated (m : Moment) : Prop := Calendar.firstDay ≤ m.day ∧ m.day ≤ Calendar.lastDay

def text? : Moment → Option String
  | date n => (Calendar.date? n.toInt).map fun d ↦ String.ofList d.text
  | timestamp n => (Calendar.timestamp? ' ' n.toInt).map String.ofList
  | timestampZone n =>
    (Calendar.timestamp? 'T' n.toInt).map fun s ↦ String.ofList (s ++ "+00:00".toList)

variable {m : Moment}

theorem text?_isSome_iff : m.text?.isSome = true ↔ m.Dated := by
  cases m <;> simp only [text?, Calendar.timestamp?, Option.isSome_map] <;>
    exact Calendar.date?_isSome_iff

theorem integer_days (n : Int32) : integer 32 (date n).bytes = .value n.toInt :=
  integer_bigEndian (w := 4) (by decide) (by decide) n.toBitVec

theorem integer_micros (n : Int64) : integer 64 (timestamp n).bytes = .value n.toInt :=
  integer_bigEndian (w := 8) (by decide) (by decide) n.toBitVec

def reading : Moment → Reading
  | date _ => .date
  | timestamp _ => .timestamp
  | timestampZone _ => .timestampZone

theorem ofType_type (m : Moment) : Reading.ofType m.type = m.reading := by
  cases m with
  | date n => exact (by decide : Reading.ofType "DATE" = .date)
  | timestamp n => exact (by decide : Reading.ofType "TIMESTAMP" = .timestamp)
  | timestampZone n => exact (by decide : Reading.ofType "TIMESTAMPTZ" = .timestampZone)

theorem decoder_type (m : Moment) (b : Bytes) : decoder m.type b = m.reading.decode m.type b := by
  have hfits : m.type ∈ m.reading.types := by cases m <;> exact List.mem_cons_self
  rw [decoder, ofType_type]
  exact if_pos hfits

theorem decoder_bytes (m : Moment) : decoder m.type m.bytes = (orPanic m.text?).map .text := by
  rw [decoder_type]
  cases m with
  | date n =>
    change (Wire.date (date n).bytes).map Cell.text = _
    rw [Wire.date, integer_days]
    rfl
  | timestamp n =>
    change (Wire.timestamp (timestamp n).bytes).map Cell.text = _
    rw [Wire.timestamp, integer_micros]
    rfl
  | timestampZone n =>
    change (Wire.timestampZone (timestamp n).bytes).map Cell.text = _
    rw [Wire.timestampZone, integer_micros]
    rfl

theorem cell?_bytes (m : Moment) : cell? m.type (some m.bytes) = m.text?.map .text := by
  simp only [cell?, decoder_bytes]
  cases m.text? <;> rfl

end Moment

end ScriptEnv.Wire
