import ScriptEnv.Number.Layout
import ScriptEnv.Number.Numeral
import ScriptEnv.Toml.Lexical

namespace ScriptEnv.Toml

open ScriptEnv.Toml.Parser
open Number (isDigit)

structure Date where
  year : Nat
  month : Nat
  day : Nat
  deriving DecidableEq, Repr

structure Clock where
  hour : Nat
  minute : Nat
  second : Nat
  nanosecond : Nat
  deriving DecidableEq, Repr

inductive Offset
  | universal
  | minutes (n : Int)
  deriving DecidableEq, Repr

structure Moment where
  date : Option Date
  clock : Option Clock
  offset : Option Offset
  deriving DecidableEq, Repr

def padded (width n : Nat) : List Char :=
  let ds := Number.decimalDigits n
  Number.zeros (width - ds.length) ++ ds

def Date.render (d : Date) : List Char :=
  padded 4 d.year ++ '-' :: padded 2 d.month ++ '-' :: padded 2 d.day

def Clock.render (c : Clock) : List Char :=
  let frac := ((padded 9 c.nanosecond).reverse.dropWhile (· == '0')).reverse
  padded 2 c.hour ++ ':' :: padded 2 c.minute ++ ':' :: padded 2 c.second
    ++ if frac = [] then [] else '.' :: frac

def Offset.render : Offset → List Char
  | universal => ['Z']
  | minutes n =>
    (if n < 0 then '-' else '+') :: padded 2 (n.natAbs / 60) ++ ':' :: padded 2 (n.natAbs % 60)

def Moment.render (m : Moment) : String :=
  let date := (m.date.map Date.render).getD []
  let clock := (m.clock.map Clock.render).getD []
  let between := if m.date.isSome && m.clock.isSome then ['T'] else []
  String.ofList (date ++ between ++ clock ++ (m.offset.map Offset.render).getD [])

/-- Exactly so many digits; what there is of them is not taken if there are fewer. -/
def exactDigits (n : Nat) : Parser Nat := fun c ↦
  let ds := (c.rest.take n).takeWhile isDigit
  if ds.length = n then .ok (Number.decimalValue ds, ⟨c.rest.drop n, c.offset + n⟩) else fail c

def twoDigits (low high : Nat) : Parser Nat :=
  checked (fun n ↦ if low ≤ n ∧ n ≤ high then .ok n else .error .outOfRange) (exactDigits 2)

def isLeapYear (y : Nat) : Bool := y % 4 == 0 && (y % 100 != 0 || y % 400 == 0)

def daysIn (year month : Nat) : Nat :=
  if month = 2 then if isLeapYear year then 29 else 28
  else if month ∈ [4, 6, 9, 11] then 30
  else 31

def date : Parser Date := do
  let year ← exactDigits 4
  char '-'
  let month ← commit (twoDigits 1 12)
  commit (char '-')
  let start ← place
  let day ← commit (twoDigits 1 31)
  if daysIn year month < day then commit (failAt start (some .outOfRange))
  else pure ⟨year, month, day⟩

/-- A fraction of a second in nanoseconds; digits after the ninth are dropped. -/
def nanoseconds : Parser Nat := do
  char '.'
  let ds := (← spanOf1 isDigit).take 9
  pure (Number.decimalValue ds * Number.tenTo (9 - ds.length))

def clock : Parser Clock := do
  let hour ← twoDigits 0 23
  char ':'
  commit do
    let minute ← twoDigits 0 59
    char ':'
    let second ← twoDigits 0 60
    pure ⟨hour, minute, second, (← opt nanoseconds).getD 0⟩

def offset : Parser Offset :=
  labelled "time offset" <| either
    (giving .universal (satisfy fun c ↦ c == 'Z' || c == 'z'))
    (do
      let sign ← satisfy fun c ↦ c == '+' || c == '-'
      commit do
        let hour ← twoDigits 0 23
        char ':'
        let n : Int := hour * 60 + (← twoDigits 0 59)
        pure (.minutes (if sign == '-' then -n else n)))

def moment : Parser Moment :=
  either
    (labelled "date-time" do
      let d ← date
      let more ← opt do
        discard (satisfy fun c ↦ c == 'T' || c == 't' || c == ' ')
        let t ← clock
        pure (t, ← opt offset)
      pure ⟨some d, more.map Prod.fst, more.bind Prod.snd⟩)
    (labelled "time" do pure ⟨none, some (← clock), none⟩)

end ScriptEnv.Toml
