import ScriptEnv.Number.Power
import ScriptEnv.Number.Numeral
import ScriptEnv.Text.Split

namespace ScriptEnv.Url.Ipv4

open Number (digitValue? hexValue? isDigit isHexDigit)

inductive Part
  | number (n : Nat)
  | tooLarge
  | notANumber
  deriving DecidableEq, Repr

def Part.ofDigits (base : Nat) (isDigit : Char → Bool) (s : List Char) : Part :=
  let n := Number.valueOf base hexValue? 0 s
  if ¬s.all isDigit then notANumber
  else if n < Number.twoTo 32 then number n
  else tooLarge

def Part.parse : List Char → Part
  | [] => notANumber
  | '0' :: 'x' :: r => ofDigits 16 isHexDigit r
  | '0' :: 'X' :: r => ofDigits 16 isHexDigit r
  | '0' :: c :: r => ofDigits 8 (fun d ↦ '0' ≤ d && d ≤ '7') (c :: r)
  | s => ofDigits 10 isDigit s

def parts (s : List Char) : List (List Char) :=
  let ps := Text.splitOn '.' s
  if ps.getLast? = some [] ∧ 1 < ps.length then ps.dropLast else ps

def endsInNumber (s : List Char) : Bool :=
  match (parts s).getLast? with
  | none => false
  | some last => (last ≠ [] && last.all isDigit) || Part.parse last ≠ .notANumber

def parse? (s : List Char) : Option Nat := do
  let ps := parts s
  if 4 < ps.length then none
  else
    let numbers ← ps.mapM fun p ↦
      match Part.parse p with
      | .number n => some n
      | _ => none
    let last ← numbers.getLast?
    let front := numbers.dropLast
    if front.all (· ≤ 255) ∧ last < Number.twoTo (8 * (4 - front.length)) then
      some ((List.range front.length).foldl (fun n i ↦ n + front[i]?.getD 0 * Number.twoTo (8 * (3 - i))) last)
    else none

def render (n : Nat) : List Char :=
  Text.join ['.']
    ([n / Number.twoTo 24 % 256, n / Number.twoTo 16 % 256, n / 256 % 256, n % 256].map (Nat.toDigits 10))

end ScriptEnv.Url.Ipv4
