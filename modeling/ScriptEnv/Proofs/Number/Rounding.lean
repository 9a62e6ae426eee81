import Mathlib.Algebra.Order.Field.Power
import Mathlib.Data.Rat.Cast.Order
import Mathlib.Tactic.FieldSimp
import Mathlib.Tactic.Linarith
import Mathlib.Tactic.NormNum
import Mathlib.Tactic.Positivity
import Mathlib.Tactic.Ring
import ScriptEnv.Number.Binary64

namespace ScriptEnv.Number

variable {num den : ℕ}

theorem cast_twoTo (n : ℕ) : ((twoTo n : ℕ) : ℚ) = 2 ^ n := by
  rw [twoTo, Nat.pow_eq, Nat.cast_pow, Nat.cast_two]

theorem cast_tenTo (n : ℕ) : ((tenTo n : ℕ) : ℚ) = 10 ^ n := by
  rw [tenTo, Nat.pow_eq, Nat.cast_pow, Nat.cast_ofNat]

theorem twoTo_pos (n : ℕ) : 0 < twoTo n := Nat.pow_pos (by decide)

theorem tenTo_pos (n : ℕ) : 0 < tenTo n := Nat.pow_pos (by decide)

theorem tenTo_mono {p q : ℕ} (h : p ≤ q) : tenTo p ≤ tenTo q := Nat.pow_le_pow_right (by decide) h

theorem tenTo_add (p q : ℕ) : tenTo (p + q) = tenTo p * 10 ^ q := Nat.pow_add 10 p q

theorem zpow_eq_div {b : ℚ} (hb : b ≠ 0) (z : ℤ) : b ^ z = b ^ z.toNat / b ^ (-z).toNat := by
  rw [← zpow_natCast, ← zpow_natCast, ← zpow_sub₀ hb]
  congr 1
  omega

theorem roundDiv_le (hden : 0 < den) : (roundDiv num den : ℚ) ≤ num / den + 1 / 2 := by
  have hpos : (0 : ℚ) < den := Nat.cast_pos.2 hden
  have hdiv : (num : ℚ) = den * (num / den : ℕ) + (num % den : ℕ) := by
    exact_mod_cast (Nat.div_add_mod num den).symm
  rw [← sub_le_iff_le_add, le_div_iff₀ hpos]
  unfold roundDiv
  dsimp only
  split
  · next hup =>
    have hhalf : (den : ℚ) ≤ 2 * (num % den : ℕ) := by
      exact_mod_cast hup.elim Nat.le_of_lt fun h ↦ h.1.symm.le
    push_cast
    linarith
  · have hrest : (0 : ℚ) ≤ (num % den : ℕ) := Nat.cast_nonneg _
    nlinarith

theorem le_roundDiv (hden : 0 < den) : (num : ℚ) / den ≤ roundDiv num den + 1 / 2 := by
  have hpos : (0 : ℚ) < den := Nat.cast_pos.2 hden
  have hdiv : (num : ℚ) = den * (num / den : ℕ) + (num % den : ℕ) := by
    exact_mod_cast (Nat.div_add_mod num den).symm
  rw [div_le_iff₀ hpos]
  unfold roundDiv
  dsimp only
  split
  · have hrest : ((num % den : ℕ) : ℚ) ≤ den := by exact_mod_cast (Nat.mod_lt num hden).le
    push_cast
    linarith
  · next hdown =>
    have hhalf : 2 * ((num % den : ℕ) : ℚ) ≤ den := by
      exact_mod_cast Nat.not_lt.1 fun h ↦ hdown (.inl h)
    linarith

namespace Binary64

/-- The unit of the last place, counted from that of the smallest numbers. -/
def unit (k : ℕ) : ℚ := 2 ^ ((k : ℤ) - 1074)

theorem unit_pos (k : ℕ) : 0 < unit k := zpow_pos (by norm_num) _

/-- The quotient in units of a place, rounded; of the places with room for it the finest. -/
structure Rounds (q : ℚ) (k m : ℕ) : Prop where
  le : (m : ℚ) ≤ q / unit k + 1 / 2
  ge : q / unit k ≤ m + 1 / 2
  room : q < 2 ^ 53 * unit k
  finest : k = 0 ∨ 2 ^ 52 * unit k ≤ q

def packed (k m : ℕ) : Binary64 :=
  if 2047 * twoTo 52 ≤ k * twoTo 52 + m then infinity false else ofBits (k * twoTo 52 + m)

theorem Rounds.le_two_pow {q : ℚ} {k m : ℕ} (h : Rounds q k m) : m ≤ 2 ^ 53 := by
  have hq : q / unit k < 2 ^ 53 := (div_lt_iff₀ (unit_pos k)).2 h.room
  have hm : (m : ℚ) < (2 ^ 53 + 1 : ℕ) := by
    have hle := h.le
    push_cast
    linarith
  exact Nat.lt_succ_iff.1 (Nat.cast_lt.1 hm)

theorem Rounds.two_pow_le {q : ℚ} {k m : ℕ} (h : Rounds q k m) : k = 0 ∨ 2 ^ 52 ≤ m := by
  refine h.finest.imp_right fun hq ↦ ?_
  have hq : 2 ^ 52 ≤ q / unit k := (le_div_iff₀ (unit_pos k)).2 hq
  have hm : ((2 ^ 52 : ℕ) : ℚ) < (m + 1 : ℕ) := by
    have hge := h.ge
    push_cast
    linarith
  exact Nat.lt_succ_iff.1 (Nat.cast_lt.1 hm)

theorem scaled_div (num den : ℕ) (e : ℤ) :
    ((num * twoTo (-e).toNat : ℕ) : ℚ) / (den * twoTo e.toNat : ℕ) = num / den / 2 ^ e := by
  rw [Nat.cast_mul, Nat.cast_mul, cast_twoTo, cast_twoTo, zpow_eq_div (by norm_num) e]
  field_simp

theorem log2_bounds (hnum : 0 < num) (hden : 0 < den) :
    2 ^ 52 * (2 : ℚ) ^ ((num.log2 : ℤ) - den.log2 - 53) ≤ num / den ∧
      (num / den : ℚ) < 2 ^ 54 * 2 ^ ((num.log2 : ℤ) - den.log2 - 53) := by
  have hpos : (0 : ℚ) < den := Nat.cast_pos.2 hden
  have hpos' : (0 : ℚ) < num := Nat.cast_pos.2 hnum
  have hnum_ge : (2 : ℚ) ^ num.log2 ≤ num := by exact_mod_cast Nat.log2_self_le hnum.ne'
  have hnum_lt : (num : ℚ) < 2 ^ (num.log2 + 1) := by exact_mod_cast Nat.lt_log2_self
  have hden_ge : (2 : ℚ) ^ den.log2 ≤ den := by exact_mod_cast Nat.log2_self_le hden.ne'
  have hden_lt : (den : ℚ) < 2 ^ (den.log2 + 1) := by exact_mod_cast Nat.lt_log2_self
  have hquotient : (2 : ℚ) ^ ((num.log2 : ℤ) - den.log2 - 53) = 2 ^ num.log2 / 2 ^ den.log2 / 2 ^ 53 := by
    rw [zpow_sub₀ (by norm_num), zpow_sub₀ (by norm_num), zpow_natCast, zpow_natCast, zpow_ofNat]
  rw [hquotient]
  constructor
  · calc (2 : ℚ) ^ 52 * (2 ^ num.log2 / 2 ^ den.log2 / 2 ^ 53) = 2 ^ num.log2 / 2 ^ (den.log2 + 1) := by
          field_simp
          ring
      _ ≤ num / den := div_le_div₀ hpos'.le hnum_ge hpos hden_lt.le
  · calc (num / den : ℚ) < 2 ^ (num.log2 + 1) / 2 ^ den.log2 :=
          div_lt_div₀ hnum_lt hden_ge (by positivity) (by positivity)
      _ = 2 ^ 54 * (2 ^ num.log2 / 2 ^ den.log2 / 2 ^ 53) := by
          field_simp
          ring

theorem two_pow_le_scaled_div (hden : 0 < den) (e : ℤ) :
    twoTo 53 ≤ num * twoTo (-e).toNat / (den * twoTo e.toNat) ↔ 2 ^ 53 * 2 ^ e ≤ (num / den : ℚ) := by
  have hpos : 0 < den * twoTo e.toNat := Nat.mul_pos hden (twoTo_pos _)
  have hunit : (0 : ℚ) < 2 ^ e := zpow_pos (by norm_num) e
  rw [Nat.le_div_iff_mul_le hpos, ← Nat.cast_le (α := ℚ), Nat.cast_mul,
    ← le_div_iff₀ (Nat.cast_pos.2 hpos), scaled_div, le_div_iff₀ hunit, cast_twoTo]

/-- The place that a quotient is rounded to: the one that its size suggests, or the next if that one
has no room. -/
def place (num den : ℕ) : ℤ :=
  let e : ℤ := max (-1074) ((num.log2 : ℤ) - den.log2 - 53)
  if twoTo 53 ≤ num * twoTo (-e).toNat / (den * twoTo e.toNat) then e + 1 else e

theorem place_bounds (hnum : 0 < num) (hden : 0 < den) :
    -1074 ≤ place num den ∧ (num / den : ℚ) < 2 ^ 53 * 2 ^ place num den ∧
      (place num den = -1074 ∨ 2 ^ 52 * 2 ^ place num den ≤ (num / den : ℚ)) := by
  obtain ⟨hlow, hhigh⟩ := log2_bounds hnum hden
  unfold place
  have hleast := le_max_left (-1074) ((num.log2 : ℤ) - den.log2 - 53)
  have hcoarse : (2 : ℚ) ^ ((num.log2 : ℤ) - den.log2 - 53) ≤
      2 ^ max (-1074) ((num.log2 : ℤ) - den.log2 - 53) :=
    zpow_le_zpow_right₀ (by norm_num) (le_max_right _ _)
  have hchoice := max_choice (-1074) ((num.log2 : ℤ) - den.log2 - 53)
  generalize max (-1074) ((num.log2 : ℤ) - den.log2 - 53) = e at hleast hcoarse hchoice ⊢
  have hsucc : (2 : ℚ) ^ (e + 1) = 2 ^ e * 2 := zpow_add_one₀ (by norm_num) e
  -- The logarithms are right or off by one; if they are off, the quotient has no room at that place.
  dsimp only
  split
  · next hbig =>
    rw [two_pow_le_scaled_div hden] at hbig
    rw [hsucc]
    exact ⟨by omega, by linarith, .inr (by linarith)⟩
  · next hroom =>
    rw [two_pow_le_scaled_div hden, not_le] at hroom
    refine ⟨hleast, hroom, hchoice.imp_right fun h ↦ ?_⟩
    rw [h]
    exact hlow

theorem ofRatio_rounds (hnum : 0 < num) (hden : 0 < den) :
    ∃ k m, Rounds (num / den) k m ∧ ofRatio false num den = packed k m := by
  obtain ⟨hleast, hroom, hfinest⟩ := place_bounds hnum hden
  have hratio : ofRatio false num den = packed (place num den + 1074).toNat
      (roundDiv (num * twoTo (-place num den).toNat) (den * twoTo (place num den).toNat)) := by
    rw [packed, ofRatio, if_neg hnum.ne']
    simp only [signBit, Bool.false_eq_true, if_false, zero_add]
    rfl
  obtain ⟨k, hk⟩ : ∃ k : ℕ, place num den = (k : ℤ) - 1074 := ⟨(place num den + 1074).toNat, by omega⟩
  have hplace : (place num den + 1074).toNat = k := by omega
  have hunit : (2 : ℚ) ^ place num den = unit k := by rw [hk, unit]
  have hden' : 0 < den * twoTo (place num den).toNat := Nat.mul_pos hden (twoTo_pos _)
  have hscaled := scaled_div num den (place num den)
  rw [hunit] at hroom hfinest hscaled
  rw [hplace] at hratio
  refine ⟨k, _, ⟨?_, ?_, hroom, hfinest.imp_left fun h ↦ by omega⟩, hratio⟩
  · rw [← hscaled]
    exact roundDiv_le hden'
  · rw [← hscaled]
    exact le_roundDiv hden'

def magnitude (x : Binary64) : ℚ := x.significand * 2 ^ x.exponent

theorem magnitude_nonneg (x : Binary64) : 0 ≤ x.magnitude :=
  mul_nonneg (Nat.cast_nonneg _) (zpow_pos (by norm_num) _).le

theorem ratio_snd_pos (x : Binary64) : 0 < x.ratio.2 := twoTo_pos _

theorem ratio_div (x : Binary64) : (x.ratio.1 : ℚ) / x.ratio.2 = x.magnitude := by
  rw [ratio, magnitude, Nat.cast_mul, cast_twoTo, cast_twoTo, mul_div_assoc,
    ← zpow_eq_div (by norm_num)]

theorem toNat_ofBits {n : ℕ} (h : n < 2 ^ 64) : (ofBits n).bits.toNat = n := by
  rw [ofBits, UInt64.toNat_ofNat', Nat.mod_eq_of_lt h]

theorem exponentBits_ofBits {n : ℕ} (h : n < 2047 * 2 ^ 52) :
    (ofBits n).exponentBits = n / 2 ^ 52 := by
  rw [exponentBits, toNat_ofBits (by omega)]
  simp only [twoTo, Nat.pow_eq]
  omega

theorem fractionBits_ofBits {n : ℕ} (h : n < 2047 * 2 ^ 52) : (ofBits n).fractionBits = n % 2 ^ 52 := by
  rw [fractionBits, toNat_ofBits (by omega)]
  rfl

variable {k m : ℕ}

theorem packed_of_lt (h : k * 2 ^ 52 + m < 2047 * 2 ^ 52) : packed k m = ofBits (k * 2 ^ 52 + m) :=
  if_neg (Nat.not_le.2 h)

theorem isFinite_packed (h : k * 2 ^ 52 + m < 2047 * 2 ^ 52) : (packed k m).isFinite = true := by
  rw [packed_of_lt h, isFinite, exponentBits_ofBits h, bne_iff_ne]
  omega

theorem lt_of_isFinite_packed (h : (packed k m).isFinite = true) : k * 2 ^ 52 + m < 2047 * 2 ^ 52 := by
  refine Nat.not_le.1 fun hle ↦ ?_
  have hinfinite : packed k m = infinity false := if_pos hle
  rw [hinfinite] at h
  exact absurd h (by decide)

theorem magnitude_packed (h : k * 2 ^ 52 + m < 2047 * 2 ^ 52) (hm : m ≤ 2 ^ 53)
    (hk : k = 0 ∨ 2 ^ 52 ≤ m) : (packed k m).magnitude = m * unit k := by
  rw [packed_of_lt h, magnitude, significand, exponent, exponentBits_ofBits h, fractionBits_ofBits h]
  simp only [twoTo, Nat.pow_eq, unit]
  by_cases hsubnormal : (k * 2 ^ 52 + m) / 2 ^ 52 = 0
  · have hk₀ : k = 0 := by omega
    have hrest : (k * 2 ^ 52 + m) % 2 ^ 52 = m := by omega
    rw [if_pos hsubnormal, if_pos hsubnormal, hrest, hk₀]
    rfl
  · rw [if_neg hsubnormal, if_neg hsubnormal]
    rcases Nat.lt_or_eq_of_le hm with hlt | rfl
    · have hquotient : (k * 2 ^ 52 + m) / 2 ^ 52 = k + 1 := by omega
      have hrest : 2 ^ 52 + (k * 2 ^ 52 + m) % 2 ^ 52 = m := by omega
      have hplace : ((k + 1 : ℕ) : ℤ) - 1075 = k - 1074 := by omega
      rw [hquotient, hrest, hplace]
    · -- Rounded up to the next power of two: the place goes up by one.
      have hquotient : (k * 2 ^ 52 + 2 ^ 53) / 2 ^ 52 = k + 2 := by omega
      have hrest : 2 ^ 52 + (k * 2 ^ 52 + 2 ^ 53) % 2 ^ 52 = 2 ^ 52 := by omega
      have hplace : ((k + 2 : ℕ) : ℤ) - 1075 = k - 1074 + 1 := by omega
      rw [hquotient, hrest, hplace, zpow_add_one₀ (by norm_num)]
      push_cast
      ring

theorem unit_mono {k l : ℕ} (h : k ≤ l) : unit k ≤ unit l :=
  zpow_le_zpow_right₀ (by norm_num) (by omega)

theorem unit_succ (k : ℕ) : unit (k + 1) = 2 * unit k := by
  rw [unit, unit, ← zpow_one_add₀ (by norm_num)]
  congr 1
  omega

/-- Half way between the largest number and the power of two after it. -/
def limit : ℚ := (2 ^ 54 - 1) * unit 2044

theorem ofRatio_zero (den : ℕ) : ofRatio false 0 den = zero false := rfl

theorem Rounds.lt_of_lt_limit {q : ℚ} (h : Rounds q k m) (hq : q < limit) :
    k * 2 ^ 52 + m < 2047 * 2 ^ 52 := by
  rw [limit] at hq
  have hm := h.le_two_pow
  have hpos := unit_pos 2044
  have hk : k ≤ 2045 := by
    refine Nat.not_lt.1 fun hlt ↦ ?_
    have hge : 2 ^ 52 * unit k ≤ q := h.finest.resolve_left (by omega)
    have hunit : 2 * (2 * unit 2044) ≤ unit k := by
      rw [← unit_succ, ← unit_succ]
      exact unit_mono hlt
    linarith
  rcases Nat.lt_or_eq_of_le hk with hlt | rfl
  · omega
  · have hlast : m < 2 ^ 53 := by
      have hle := h.le
      have hquotient : q / unit 2045 < 2 ^ 53 - 1 / 2 := by
        rw [div_lt_iff₀ (unit_pos 2045), unit_succ 2044]
        linarith
      have hcast : (m : ℚ) < (2 ^ 53 : ℕ) := by
        push_cast
        linarith
      exact Nat.cast_lt.1 hcast
    omega

/-- What lies below the limit is rounded to a finite number. -/
theorem isFinite_ofRatio (hden : 0 < den) (h : (num / den : ℚ) < limit) :
    (ofRatio false num den).isFinite = true := by
  rcases Nat.eq_zero_or_pos num with rfl | hnum
  · rw [ofRatio_zero]
    decide
  · obtain ⟨k, m, hrounds, heq⟩ := ofRatio_rounds hnum hden
    rw [heq]
    exact isFinite_packed (hrounds.lt_of_lt_limit h)

theorem magnitude_ofRatio_le (hden : 0 < den) (hone : (1 : ℚ) ≤ num / den)
    (hfinite : (ofRatio false num den).isFinite = true) :
    (ofRatio false num den).magnitude ≤ num / den * (1 + 1 / 2 ^ 53) := by
  have hnum : 0 < num := Nat.pos_of_ne_zero fun h ↦ by
    rw [h, Nat.cast_zero, zero_div] at hone
    linarith
  obtain ⟨k, m, hrounds, heq⟩ := ofRatio_rounds hnum hden
  rw [heq] at hfinite ⊢
  rw [magnitude_packed (lt_of_isFinite_packed hfinite) hrounds.le_two_pow hrounds.two_pow_le]
  have hunit := unit_pos k
  have hle : m * unit k ≤ num / den + unit k / 2 := by
    have hle := mul_le_mul_of_nonneg_right hrounds.le hunit.le
    rw [add_mul, div_mul_cancel₀ _ hunit.ne'] at hle
    linarith
  have hlast : 2 ^ 52 * unit k ≤ (num / den : ℚ) := by
    rcases hrounds.finest with rfl | h
    · have hsmall : unit 0 ≤ 1 / 2 ^ 52 := by
        rw [unit, one_div, ← zpow_natCast, ← zpow_neg]
        exact zpow_le_zpow_right₀ (by norm_num) (by norm_num)
      linarith
    · exact h
  linarith

theorem isFinite_mul {x y : Binary64} (h : x.magnitude * y.magnitude < limit) :
    (x.mul y).isFinite = true := by
  refine isFinite_ofRatio (Nat.mul_pos x.ratio_snd_pos y.ratio_snd_pos) ?_
  rwa [Nat.cast_mul, Nat.cast_mul, mul_div_mul_comm, ratio_div, ratio_div]

end Binary64

end ScriptEnv.Number
