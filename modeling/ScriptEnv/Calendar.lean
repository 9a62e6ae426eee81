import ScriptEnv.Number.Layout

namespace ScriptEnv.Calendar

structure Date where
  year : Int
  month : Nat
  day : Nat
  deriving DecidableEq, Repr

def minYear : Int := -262143

def maxYear : Int := 262142

/-- The date so many days after 2000-01-01. Years are taken to begin in March, in eras of 400. -/
def dateOfDay (days : Int) : Date :=
  let z := days + 730425
  let era := z.fdiv 146097
  let dayOfEra := (z.fmod 146097).toNat
  let yearOfEra := (dayOfEra - dayOfEra / 1460 + dayOfEra / 36524 - dayOfEra / 146096) / 365
  let dayOfYear := dayOfEra - (365 * yearOfEra + yearOfEra / 4 - yearOfEra / 100)
  let m := (5 * dayOfYear + 2) / 153
  let day := dayOfYear - (153 * m + 2) / 5 + 1
  let month := if m < 10 then m + 3 else m - 9
  let year := (yearOfEra : Int) + era * 400
  ⟨if month ≤ 2 then year + 1 else year, month, day⟩

def date? (days : Int) : Option Date :=
  let d := dateOfDay days
  if minYear ≤ d.year ∧ d.year ≤ maxYear then some d else none

def padLeft (n : Nat) (s : List Char) : List Char := List.replicate (n - s.length) '0' ++ s

def digits (width n : Nat) : List Char := padLeft width (Nat.toDigits 10 n)

def yearText (y : Int) : List Char :=
  if 0 ≤ y ∧ y ≤ 9999 then digits 4 y.toNat
  else (if y < 0 then '-' else '+') :: digits 4 y.natAbs

def Date.text (d : Date) : List Char :=
  yearText d.year ++ '-' :: digits 2 d.month ++ '-' :: digits 2 d.day

def microsOfDay : Int := 86400000000

/-- A time of day in microseconds since midnight, with three or six decimals if it needs them. -/
def timeText (micros : Nat) : List Char :=
  let seconds := micros / 1000000
  let fraction := micros % 1000000
  let decimals :=
    if fraction = 0 then []
    else if fraction % 1000 = 0 then '.' :: digits 3 (fraction / 1000)
    else '.' :: digits 6 fraction
  digits 2 (seconds / 3600) ++ ':' :: digits 2 (seconds / 60 % 60) ++ ':' :: digits 2 (seconds % 60)
    ++ decimals

/-- Date and time so many microseconds after the start of the year 2000. -/
def timestamp? (sep : Char) (micros : Int) : Option (List Char) :=
  (date? (micros.fdiv microsOfDay)).map fun d ↦
    d.text ++ sep :: timeText (micros.fmod microsOfDay).toNat

end ScriptEnv.Calendar
