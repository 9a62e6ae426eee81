import ScriptEnv.Number.Numeral
import ScriptEnv.Text.Split

namespace ScriptEnv.Url.Ipv6

open Number (hexValue? isDigit isHexDigit)

def octet? (s : List Char) : Option Nat :=
  let n := Number.decimalValue s
  if s ≠ [] ∧ s.all isDigit ∧ (s.head? = some '0' → s = ['0']) ∧ n ≤ 255 then some n else none

def dotted? (s : List Char) : Option (List Nat) :=
  match Text.splitOn '.' s with
  | [a, b, c, d] => do
    some [(← octet? a) * 256 + (← octet? b), (← octet? c) * 256 + (← octet? d)]
  | _ => none

/-- The pieces of a text after those read before, and how many stand before the run of zeros;
the fuel covers one character a step. -/
def readPieces : Nat → List Nat → Option Nat → List Char → Option (List Nat × Option Nat)
  | 0, _, _, _ => none
  | _ + 1, ps, gap, [] => some (ps, gap)
  | n + 1, ps, gap, c :: r =>
    if ps.length = 8 then none
    else if c = ':' then
      if gap.isSome then none else readPieces n (ps ++ [0]) (some (ps.length + 1)) r
    else
      let digits := ((c :: r).take 4).takeWhile isHexDigit
      let piece := Number.valueOf 16 hexValue? 0 digits
      match (c :: r).drop digits.length with
      | [] => some (ps ++ [piece], gap)
      | ':' :: r => if r = [] then none else readPieces n (ps ++ [piece]) gap r
      | '.' :: _ =>
        if digits = [] ∨ 6 < ps.length then none
        else (dotted? (c :: r)).map fun qs ↦ (ps ++ qs, gap)
      | _ => none

def parse? (s : List Char) : Option (List Nat) := do
  let (ps, gap) ← match s with
    | ':' :: ':' :: r => readPieces (r.length + 1) [0] (some 1) r
    | ':' :: _ => none
    | _ => readPieces (s.length + 1) [] none s
  match gap with
  | none => if ps.length = 8 then some ps else none
  | some k => some (ps.take k ++ List.replicate (8 - ps.length) 0 ++ ps.drop k)

/-- Start and length of the first of the longest runs of zeros. -/
def longestRun (ps : List Nat) : Nat × Nat :=
  (List.range ps.length).foldl
    (fun best i ↦
      let n := ((ps.drop i).takeWhile (· = 0)).length
      if best.2 < n then (i, n) else best)
    (0, 0)

def joined (ps : List Nat) : List Char :=
  Text.join [':'] (ps.map (Nat.toDigits 16))

def render (ps : List Nat) : List Char :=
  let (i, n) := longestRun ps
  if n < 2 then joined ps
  else joined (ps.take i) ++ [':', ':'] ++ joined (ps.drop (i + n))

end ScriptEnv.Url.Ipv6
