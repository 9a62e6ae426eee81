import ScriptEnv.Number.Shortest

namespace ScriptEnv.Number

structure Layout where
  tie : Tie
  /-- The places of the first digit that are written positionally; `none` for every place. -/
  positional : Option (Int × Int)
  whole : String
  plus : String
  nan : String
  infinite : String

def Layout.plain : Layout := ⟨.up, none, "", "", "NaN", "inf"⟩

/-- First digits from the place of `0.0001` to that of `10 ^ 15` are positional. -/
def Layout.tagged : Layout := ⟨.up, some (-4, 15), ".0", "", "NaN", "inf"⟩

def decimalDigits (n : Nat) : List Char := Nat.toDigits 10 n

def zeros (n : Nat) : List Char := List.replicate n '0'

namespace Layout

def positionalForm (l : Layout) (ds : List Char) (k : Int) : List Char :=
  if k < 0 then ['0', '.'] ++ zeros (-k - 1).toNat ++ ds
  else
    let n := k.toNat + 1
    if ds.length ≤ n then ds ++ zeros (n - ds.length) ++ l.whole.toList
    else ds.take n ++ '.' :: ds.drop n

def exponentForm (l : Layout) (ds : List Char) (k : Int) : List Char :=
  let mantissa := match ds with
    | [d] => [d]
    | d :: r => d :: '.' :: r
    | [] => []
  let sign := if k < 0 then ['-'] else l.plus.toList
  mantissa ++ 'e' :: sign ++ decimalDigits k.natAbs

def magnitude (l : Layout) (x : Binary64) : List Char :=
  if x.significand = 0 then '0' :: l.whole.toList
  else
    let d := x.shortest l.tie
    let ds := decimalDigits d.digits
    let k := d.exponent + ds.length - 1
    let inPlace : Bool := match l.positional with
      | none => true
      | some (a, b) => a ≤ k && k ≤ b
    if inPlace then l.positionalForm ds k else l.exponentForm ds k

def render (l : Layout) (x : Binary64) : String :=
  if x.isNaN then l.nan
  else
    let sign := if x.isNegative then ['-'] else []
    String.ofList (sign ++ if x.isFinite then l.magnitude x else l.infinite.toList)

end Layout

end ScriptEnv.Number
