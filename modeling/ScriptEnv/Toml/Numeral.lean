import ScriptEnv.Number.Binary64
import ScriptEnv.Number.Numeral
import ScriptEnv.Toml.Lexical

namespace ScriptEnv.Toml

open ScriptEnv.Toml.Parser
open Number (Binary64 isDigit isHexDigit)

def moreDigits (p : Char → Bool) : Parser (List Char) :=
  many (either (satisfy p) (char '_' *> commit (expecting ["digit"] (satisfy p))))

def digits (p : Char → Bool) : Parser (List Char) := do
  let d ← satisfy p
  (d :: ·) <$> moreDigits p

def minus : Parser Bool := (· == some '-') <$> opt (satisfy fun c ↦ c == '+' || c == '-')

/-- A sign or none, and digits, of which zero is the first only if it is the only one. -/
def decimal : Parser (Bool × List Char) :=
  labelled "integer" do
    let negative ← minus
    let ds ← either
      (do
        let d ← satisfy fun c ↦ isDigit c && c != '0'
        (d :: ·) <$> moreDigits isDigit)
      ((fun d ↦ [d]) <$> satisfy isDigit)
    pure (negative, ds)

def inRange (n : Int) : Except Cause Int :=
  if n < -Number.twoTo 63 then .error .numberTooSmall
  else if Number.twoTo 63 ≤ n then .error .numberTooLarge
  else .ok n

structure Base where
  sign : Char
  size : Nat
  name : String

def bases : List Base := [⟨'x', 16, "hexadecimal"⟩, ⟨'o', 8, "octal"⟩, ⟨'b', 2, "binary"⟩]

def Base.isDigit (b : Base) (c : Char) : Bool :=
  match Number.hexValue? c with
  | some n => n < b.size
  | none => false

def Base.number (b : Base) : Parser Int :=
  commit <| checked (fun ds ↦ inRange (Number.valueOf b.size Number.hexValue? 0 ds)) <|
    labelled s!"{b.name} integer" do
      exactly ['0', b.sign]
      commit (digits b.isDigit)

def integer : Parser Int := do
  let start ← place
  let base? ← fun c ↦ .ok (bases.find? fun b ↦ ['0', b.sign].isPrefixOf c.rest, c)
  match base? with
  | some b => b.number
  | none =>
    let (negative, ds) ← decimal
    let n : Int := Number.decimalValue ds
    match inRange (if negative then -n else n) with
    | .ok n => pure n
    | .error cause => commit (failAt start (some cause))

def exponent : Parser Int := do
  discard (satisfy fun c ↦ c == 'e' || c == 'E')
  let negative ← minus
  let n : Int := Number.decimalValue (← commit (digits isDigit))
  pure (if negative then -n else n)

def fraction : Parser (List Char) := do
  char '.'
  commit (expecting ["digit"] (digits isDigit))

/-- A number with a fraction, an exponent, or both; it must not be too large for the format, while
one too far below zero is negative infinity. -/
def finite : Parser Binary64 := do
  let start ← place
  let (negative, whole) ← decimal
  let (frac, exp) ← either ((fun e ↦ ([], e)) <$> exponent)
    (do
      let frac ← fraction
      pure (frac, (← opt exponent).getD 0))
  let x := Binary64.ofDecimal negative (Number.decimalValue (whole ++ frac)) (exp - frac.length)
  if x = Binary64.infinity false then commit (failAt start none) else pure x

def nonFinite : Parser Binary64 := do
  let negative ← minus
  either (giving (Binary64.infinity negative) (exactly "inf".toList))
    (giving (Binary64.ofBits (Binary64.nan.bits.toNat + Binary64.signBit negative)) (exactly "nan".toList))

def float : Parser Binary64 := labelled "floating-point number" (either finite nonFinite)

end ScriptEnv.Toml
