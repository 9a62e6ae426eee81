import Mathlib.Data.Int.SuccPred
import Mathlib.Order.SuccPred.Archimedean
import Mathlib.Tactic.IntervalCases
import Mathlib.Tactic.SplitIfs
import ScriptEnv.Calendar

namespace ScriptEnv.Calendar

variable {n c q s u : Nat}

/-- A day of an era: its century, the four years in that, the year in those, and the day in that year.
Years begin in March, so a leap day is the last of its year. -/
structure EraDay (n c q s u : Nat) : Prop where
  total : n = 36524 * c + (1461 * q + (365 * s + u))
  century : c ≤ 3
  quad : q ≤ 24
  year : s ≤ 3
  day : u ≤ 365
  leap : u = 365 → s = 3 ∧ (q = 24 → c = 3)

theorem EraDay.exists_of_lt (h : n < 146097) : ∃ c q s u, EraDay n c q s u := by
  obtain ⟨c, r, hn, hc, hr, hrc⟩ :
      ∃ c r, n = 36524 * c + r ∧ c ≤ 3 ∧ r ≤ 36524 ∧ (r = 36524 → c = 3) := by
    by_cases hlast : n = 146096
    · exact ⟨3, 36524, by omega⟩
    · exact ⟨n / 36524, n % 36524, by omega⟩
  obtain ⟨s, u, ht, hs, hu, hus⟩ :
      ∃ s u, r % 1461 = 365 * s + u ∧ s ≤ 3 ∧ u ≤ 365 ∧ (u = 365 → s = 3) := by
    by_cases hlast : r % 1461 = 1460
    · exact ⟨3, 365, by omega⟩
    · exact ⟨r % 1461 / 365, r % 1461 % 365, by omega⟩
  have hq : r / 1461 ≤ 24 := by omega
  exact ⟨c, r / 1461, s, u, by omega, hc, hq, hs, hu, by omega⟩

theorem century_eq {r : Nat} (hn : n = 36524 * c + r) (hc : c ≤ 3) (hr : r ≤ 36524)
    (hlast : r = 36524 → c = 3) : n / 36524 - n / 146096 = c := by
  interval_cases c <;> omega

theorem quad_eq {t : Nat} (hn : n = 36524 * c + (1461 * q + t)) :
    n / 1460 = 25 * c + q + (24 * c + q + t) / 1460 := by
  omega

theorem year_eq (hc : c ≤ 3) (hq : q ≤ 24) (hs : s ≤ 3) (hu : u ≤ 365) (hleap : u = 365 → s = 3) :
    (365 * s + u - (24 * c + q + (365 * s + u)) / 1460) / 365 = s := by
  interval_cases s
  all_goals omega

namespace EraDay

theorem yearOfEra (h : EraDay n c q s u) :
    (n - n / 1460 + n / 36524 - n / 146096) / 365 = 100 * c + 4 * q + s := by
  obtain ⟨hn, hc, hq, hs, hu, hleap⟩ := h
  have hr : 1461 * q + (365 * s + u) ≤ 36524 := by omega
  have hlast : 1461 * q + (365 * s + u) = 36524 → c = 3 := by omega
  have hcentury := century_eq hn hc hr hlast
  have hquad := quad_eq hn
  have hyear := year_eq hc hq hs hu fun h ↦ (hleap h).1
  have hover : (24 * c + q + (365 * s + u)) / 1460 ≤ 365 * s + u := by omega
  generalize (24 * c + q + (365 * s + u)) / 1460 = k at hquad hyear hover
  have htotal : n - n / 1460 + n / 36524 - n / 146096 =
      365 * (100 * c + 4 * q) + (365 * s + u - k) := by
    -- What bounds the parts is used up, and only slows the arithmetic down.
    clear hleap hlast hyear
    omega
  rw [htotal, Nat.mul_add_div (by decide), hyear]

theorem dayOfYear (h : EraDay n c q s u) :
    n - (365 * (100 * c + 4 * q + s) + (100 * c + 4 * q + s) / 4 - (100 * c + 4 * q + s) / 100) = u := by
  obtain ⟨hn, hc, hq, hs, hu, -⟩ := h
  have hfour : (100 * c + 4 * q + s) / 4 = 25 * c + q := by omega
  have hhundred : (100 * c + 4 * q + s) / 100 = c := by omega
  rw [hfour, hhundred]
  omega

/-- January and February belong to the next year. -/
theorem year_dateOfDay {days era : Int} (h : EraDay n c q s u) (hn : n < 146097)
    (hdays : days + 730425 = 146097 * era + n) :
    (dateOfDay days).year = 400 * era + (100 * c + 4 * q + s : Nat) + if 306 ≤ u then 1 else 0 := by
  have hera : (days + 730425).fdiv 146097 = era := by
    rw [Int.fdiv_eq_ediv_of_nonneg _ (by decide)]
    omega
  have hday : ((days + 730425).fmod 146097).toNat = n := by
    rw [Int.fmod_eq_emod_of_nonneg _ (by decide)]
    omega
  have hu := h.day
  simp only [dateOfDay, hera, hday, h.yearOfEra, h.dayOfYear]
  clear hera hday
  split_ifs <;> omega

end EraDay

def leapYears (y : Int) : Int := y / 4 - y / 100 + y / 400

def newYear (y : Int) : Int := 365 * (y - 2000) + leapYears (y - 1) - leapYears 1999

theorem leapYears_le_succ (y : Int) : leapYears y ≤ leapYears (y + 1) := by
  unfold leapYears
  omega

theorem newYear_add_le_succ (y : Int) : newYear y + 365 ≤ newYear (y + 1) := by
  have h := leapYears_le_succ (y - 1)
  rw [sub_add_cancel] at h
  simp only [newYear, add_sub_cancel_right]
  omega

theorem newYear_mono {y z : Int} (h : y ≤ z) : newYear y ≤ newYear z := by
  refine monotone_int_of_le_succ (fun y ↦ ?_) h
  have hnext := newYear_add_le_succ y
  omega

theorem EraDay.newYear_succ (h : EraDay n c q s u) (era : Int) :
    newYear (400 * era + (100 * c + 4 * q + s : Nat) + 1) + 730425 + u = 146097 * era + n + 306 := by
  obtain ⟨hn, hc, hq, hs, -, -⟩ := h
  have hfour : (400 * era + (100 * c + 4 * q + s : Nat)) / 4 = 100 * era + 25 * c + q := by omega
  have hhundred : (400 * era + (100 * c + 4 * q + s : Nat)) / 100 = 4 * era + c := by omega
  have hera : (400 * era + (100 * c + 4 * q + s : Nat)) / 400 = era := by omega
  have hstart : leapYears 1999 = 484 := by decide
  rw [newYear, add_sub_cancel_right, leapYears, hfour, hhundred, hera, hstart]
  omega

theorem newYear_year_le (days : Int) :
    newYear (dateOfDay days).year ≤ days ∧ days < newYear ((dateOfDay days).year + 1) := by
  obtain ⟨n, hn, era, hdays⟩ :
      ∃ n : Nat, n < 146097 ∧ ∃ era : Int, days + 730425 = 146097 * era + n :=
    ⟨((days + 730425) % 146097).toNat, by omega, (days + 730425) / 146097, by omega⟩
  obtain ⟨c, q, s, u, h⟩ := EraDay.exists_of_lt hn
  rw [h.year_dateOfDay hn hdays]
  have hu := h.day
  have hsucc := h.newYear_succ era
  generalize 400 * era + ((100 * c + 4 * q + s : Nat) : Int) = y at hsucc ⊢
  split_ifs
  · have hnext := newYear_add_le_succ (y + 1)
    omega
  · have hprev := newYear_add_le_succ y
    rw [add_zero]
    omega

theorem le_year_iff {y days : Int} : y ≤ (dateOfDay days).year ↔ newYear y ≤ days := by
  obtain ⟨hfrom, hto⟩ := newYear_year_le days
  constructor
  · intro h
    exact (newYear_mono h).trans hfrom
  · intro h
    by_contra! hlt
    exact absurd ((newYear_mono hlt).trans h) hto.not_ge

def firstDay : Int := newYear minYear

def lastDay : Int := newYear (maxYear + 1) - 1

theorem date?_isSome_iff {days : Int} :
    (date? days).isSome = true ↔ firstDay ≤ days ∧ days ≤ lastDay := by
  have hlast : (dateOfDay days).year ≤ maxYear ↔ days ≤ lastDay := by
    rw [← Int.lt_add_one_iff, ← not_le, le_year_iff, lastDay]
    omega
  rw [date?, firstDay, ← le_year_iff, ← hlast]
  simp

example : dateOfDay (-96476249) = ⟨minYear, 1, 1⟩ ∧ firstDay = -96476249 := by decide

example : dateOfDay 95015279 = ⟨maxYear, 12, 31⟩ ∧ lastDay = 95015279 := by decide

end ScriptEnv.Calendar
