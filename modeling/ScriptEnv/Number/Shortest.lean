import ScriptEnv.Number.Binary64

namespace ScriptEnv.Number

inductive Tie
  | toEven
  | up
  deriving DecidableEq, Repr

structure Decimal where
  digits : Nat
  exponent : Int
  deriving DecidableEq, Repr

namespace Decimal

def trimmed : Nat → Decimal → Decimal
  | 0, d => d
  | fuel + 1, d =>
    if d.digits ≠ 0 ∧ d.digits % 10 = 0 then trimmed fuel ⟨d.digits / 10, d.exponent + 1⟩ else d

end Decimal

/-- The position of the first digit of `num / den`: the `k` with `10 ^ k ≤ num / den < 10 ^ (k+1)`. -/
def leadingPlace (num den : Nat) : Int :=
  if den ≤ num then ((Nat.toDigits 10 (num / den)).length : Int) - 1
  else -((Nat.toDigits 10 ((den - 1) / num)).length : Int)

/-- The reals that round to a number, as quarters of its last place `2 ^ exponent`. -/
structure Interval where
  low : Nat
  high : Nat
  closed : Bool
  exponent : Int

namespace Binary64

def interval (x : Binary64) : Interval :=
  let m := x.significand
  let narrow : Bool := m = twoTo 52 ∧ 1 < x.exponentBits
  ⟨4 * m - (if narrow then 1 else 2), 4 * m + 2, m % 2 = 0, x.exponent⟩

end Binary64

namespace Interval

def contains (i : Interval) (c : Nat) (p : Int) : Bool :=
  let v := 4 * c * tenTo p.toNat * twoTo (-i.exponent).toNat
  let unit := twoTo i.exponent.toNat * tenTo (-p).toNat
  if i.closed then i.low * unit ≤ v && v ≤ i.high * unit else i.low * unit < v && v < i.high * unit

end Interval

namespace Binary64

def decimalOf? (tie : Tie) (x : Binary64) (n : Nat) : Option Decimal :=
  let (a, b) := x.ratio
  let p := leadingPlace a b + 1 - n
  let num := a * tenTo (-p).toNat
  let den := b * tenTo p.toNat
  let c := num / den
  let below := x.interval.contains c p
  let above := x.interval.contains (c + 1) p
  let twice := 2 * (num % den)
  let takesAbove := den < twice ∨ (den = twice ∧ (tie = .up ∨ c % 2 = 1))
  if below ∧ above then some ⟨if takesAbove then c + 1 else c, p⟩
  else if below then some ⟨c, p⟩
  else if above then some ⟨c + 1, p⟩
  else none

/-- The shortest decimal that reads back as the magnitude of a finite number other than zero: for
`n = 1, 2, …` the two decimals of `n` digits next to the number are tried. -/
def shortest (tie : Tie) (x : Binary64) : Decimal :=
  let d := ((List.range 17).findSome? fun n ↦ x.decimalOf? tie (n + 1)).getD ⟨0, 0⟩
  d.trimmed 20

end Binary64

end ScriptEnv.Number
