import ScriptEnv.Number.Power

namespace ScriptEnv.Number

/-- Sign, 11 bits of exponent, 52 bits of fraction. A finite number is `± significand * 2 ^ exponent`. -/
structure Binary64 where
  bits : UInt64
  deriving DecidableEq, Repr, Inhabited

namespace Binary64

def ofBits (n : Nat) : Binary64 := ⟨UInt64.ofNat n⟩

def isNegative (x : Binary64) : Bool := twoTo 63 ≤ x.bits.toNat

def exponentBits (x : Binary64) : Nat := x.bits.toNat / twoTo 52 % twoTo 11

def fractionBits (x : Binary64) : Nat := x.bits.toNat % twoTo 52

def isFinite (x : Binary64) : Bool := x.exponentBits != 2047

def isNaN (x : Binary64) : Bool := x.exponentBits == 2047 && x.fractionBits != 0

def significand (x : Binary64) : Nat :=
  if x.exponentBits = 0 then x.fractionBits else twoTo 52 + x.fractionBits

def exponent (x : Binary64) : Int :=
  if x.exponentBits = 0 then -1074 else (x.exponentBits : Int) - 1075

def ratio (x : Binary64) : Nat × Nat :=
  (x.significand * twoTo x.exponent.toNat, twoTo (-x.exponent).toNat)

def signBit (negative : Bool) : Nat := if negative then twoTo 63 else 0

def zero (negative : Bool) : Binary64 := ofBits (signBit negative)

def infinity (negative : Bool) : Binary64 := ofBits (signBit negative + 2047 * twoTo 52)

def nan : Binary64 := ofBits (2047 * twoTo 52 + twoTo 51)

def neg (x : Binary64) : Binary64 :=
  ofBits (if x.isNegative then x.bits.toNat - twoTo 63 else x.bits.toNat + twoTo 63)

end Binary64

/-- The quotient rounded to the nearest natural, a half to the even one. -/
def roundDiv (num den : Nat) : Nat :=
  let q := num / den
  let r := num % den
  if den < 2 * r ∨ (2 * r = den ∧ q % 2 = 1) then q + 1 else q

namespace Binary64

/-- The number nearest to `num / den`; past the largest finite number, infinity. -/
def ofRatio (negative : Bool) (num den : Nat) : Binary64 :=
  if num = 0 then zero negative
  else
    let scaled (e : Int) : Nat × Nat := (num * twoTo (-e).toNat, den * twoTo e.toNat)
    let e := max (-1074) ((Nat.log2 num : Int) - Nat.log2 den - 53)
    let e := if twoTo 53 ≤ (scaled e).1 / (scaled e).2 then e + 1 else e
    let m := roundDiv (scaled e).1 (scaled e).2
    let magnitude := (e + 1074).toNat * twoTo 52 + m
    if 2047 * twoTo 52 ≤ magnitude then infinity negative
    else ofBits (signBit negative + magnitude)

def ofNat (n : Nat) : Binary64 := ofRatio false n 1

def ofDecimal (negative : Bool) (digits : Nat) (exponent : Int) : Binary64 :=
  let size := (Nat.log2 digits : Int) * 30103 / 100000 + exponent
  if digits = 0 then zero negative
  else if 400 < size then infinity negative
  else if size < -400 then zero negative
  else ofRatio negative (digits * tenTo exponent.toNat) (tenTo (-exponent).toNat)

/-- The product of two numbers that are neither negative nor infinite. -/
def mul (x y : Binary64) : Binary64 :=
  ofRatio false (x.ratio.1 * y.ratio.1) (x.ratio.2 * y.ratio.2)

def div (x y : Binary64) : Binary64 :=
  ofRatio false (x.ratio.1 * y.ratio.2) (x.ratio.2 * y.ratio.1)

/-- The number with the value of the binary32 number of these 32 bits. -/
def ofBinary32 (bits : Nat) : Binary64 :=
  let negative : Bool := twoTo 31 ≤ bits
  let e := bits / twoTo 23 % twoTo 8
  let f := bits % twoTo 23
  if e = 255 then ofBits ((infinity negative).bits.toNat + f * twoTo 29)
  else if e = 0 then ofRatio negative f (twoTo 149)
  else ofRatio negative ((twoTo 23 + f) * twoTo (e - 150)) (twoTo (150 - e))

end Binary64

end ScriptEnv.Number
