import ScriptEnv.Number.Shortest
import ScriptEnv.Proofs.Number.Rounding

namespace ScriptEnv.Number

namespace Decimal

variable (d : Decimal)

def value : ℚ := d.digits * 10 ^ d.exponent

theorem value_trimmed (n : ℕ) : (d.trimmed n).value = d.value := by
  induction n generalizing d with
  | zero => rfl
  | succ n ih =>
    unfold trimmed
    split
    · next h =>
      have hten : (d.digits : ℚ) = (d.digits / 10 : ℕ) * 10 := by
        have hmul : d.digits / 10 * 10 = d.digits := by omega
        exact_mod_cast hmul.symm
      rw [ih, value, value, zpow_add_one₀ (by norm_num), hten]
      ring
    · rfl

theorem digits_trimmed_le (n : ℕ) : (d.trimmed n).digits ≤ d.digits := by
  induction n generalizing d with
  | zero => exact Nat.le_refl _
  | succ n ih =>
    unfold trimmed
    split
    · exact (ih _).trans (Nat.div_le_self _ _)
    · exact Nat.le_refl _

theorem exponent_le_trimmed (n : ℕ) : d.exponent ≤ (d.trimmed n).exponent := by
  induction n generalizing d with
  | zero => exact Int.le_refl _
  | succ n ih =>
    unfold trimmed
    split
    · exact (Int.le_of_lt (Int.lt_succ d.exponent)).trans (ih _)
    · exact Int.le_refl _

theorem digits_trimmed_pos {d : Decimal} (h : 0 < d.digits) (n : ℕ) : 0 < (d.trimmed n).digits := by
  induction n generalizing d with
  | zero => exact h
  | succ n ih =>
    unfold trimmed
    split
    · exact ih (show 0 < d.digits / 10 by omega)
    · exact h

end Decimal

theorem ten_pow_le_of_length {n : ℕ} (hn : 0 < n) : 10 ^ ((Nat.toDigits 10 n).length - 1) ≤ n := by
  rcases Nat.eq_zero_or_pos ((Nat.toDigits 10 n).length - 1) with h | h
  · rw [h]
    exact hn
  · refine Nat.not_lt.1 fun hlt ↦ ?_
    have hle := (Nat.length_toDigits_le_iff (by decide) h).2 hlt
    omega

theorem length_toDigits_pos (n : ℕ) : 0 < (Nat.toDigits 10 n).length :=
  List.length_pos_of_ne_nil Nat.toDigits_ne_nil

theorem lt_ten_pow_length (n : ℕ) : n < 10 ^ (Nat.toDigits 10 n).length :=
  (Nat.length_toDigits_le_iff (by decide) (length_toDigits_pos n)).1 (Nat.le_refl _)

theorem lt_leadingPlace {a b : ℕ} (ha : 0 < a) (hb : 0 < b) :
    (a / b : ℚ) < 10 ^ (leadingPlace a b + 1) := by
  have hpos : (0 : ℚ) < b := Nat.cast_pos.2 hb
  unfold leadingPlace
  split
  · rw [sub_add_cancel, zpow_natCast, div_lt_iff₀ hpos]
    have hlt := (Nat.div_lt_iff_lt_mul hb).1 (lt_ten_pow_length (a / b))
    exact_mod_cast hlt
  · next hlt =>
    have hquotient : 0 < (b - 1) / a := Nat.div_pos (by omega) ha
    obtain ⟨n, hn⟩ := Nat.exists_eq_add_one.2 (length_toDigits_pos ((b - 1) / a))
    have hle := ten_pow_le_of_length hquotient
    have hmul : 10 ^ n * a < b := by
      rw [hn, Nat.add_sub_cancel] at hle
      have hmul := (Nat.le_div_iff_mul_le ha).1 hle
      omega
    have hplace : -((Nat.toDigits 10 ((b - 1) / a)).length : ℤ) + 1 = -(n : ℤ) := by omega
    rw [hplace, zpow_neg, zpow_natCast, div_lt_iff₀ hpos, inv_mul_eq_div,
      lt_div_iff₀ (by positivity)]
    exact_mod_cast (Nat.mul_comm a _).trans_lt hmul

theorem Interval.contains_sound {i : Interval} {c : ℕ} {p : ℤ} (h : i.contains c p = true) :
    i.low * (2 : ℚ) ^ i.exponent ≤ 4 * (c * 10 ^ p) ∧
      4 * (c * 10 ^ p) ≤ i.high * (2 : ℚ) ^ i.exponent := by
  -- Both sides of each comparison are scaled by what clears their denominators.
  obtain ⟨scale, hscale, hend, hvalue⟩ : ∃ scale : ℚ, 0 < scale ∧
      (∀ l : ℕ, ((l * (twoTo i.exponent.toNat * tenTo (-p).toNat) : ℕ) : ℚ) =
        l * 2 ^ i.exponent * scale) ∧
      ((4 * c * tenTo p.toNat * twoTo (-i.exponent).toNat : ℕ) : ℚ) = 4 * (c * 10 ^ p) * scale := by
    refine ⟨2 ^ (-i.exponent).toNat * 10 ^ (-p).toNat, by positivity, fun l ↦ ?_, ?_⟩
    · rw [zpow_eq_div (by norm_num) i.exponent]
      simp only [Nat.cast_mul, cast_twoTo, cast_tenTo]
      field_simp
    · rw [zpow_eq_div (by norm_num) p]
      simp only [Nat.cast_mul, cast_twoTo, cast_tenTo, Nat.cast_ofNat]
      field_simp
  obtain ⟨hlow, hhigh⟩ : i.low * (twoTo i.exponent.toNat * tenTo (-p).toNat) ≤
        4 * c * tenTo p.toNat * twoTo (-i.exponent).toNat ∧
      4 * c * tenTo p.toNat * twoTo (-i.exponent).toNat ≤
        i.high * (twoTo i.exponent.toNat * tenTo (-p).toNat) := by
    unfold contains at h
    dsimp only at h
    split at h
    · rwa [Bool.and_eq_true, decide_eq_true_eq, decide_eq_true_eq] at h
    · rw [Bool.and_eq_true, decide_eq_true_eq, decide_eq_true_eq] at h
      exact ⟨h.1.le, h.2.le⟩
  constructor
  · refine le_of_mul_le_mul_right ?_ hscale
    rw [← hend, ← hvalue]
    exact Nat.cast_le.2 hlow
  · refine le_of_mul_le_mul_right ?_ hscale
    rw [← hend, ← hvalue]
    exact Nat.cast_le.2 hhigh

namespace Binary64

variable {x : Binary64}

theorem significand_lt (x : Binary64) : x.significand < 2 ^ 53 := by
  have hlt : x.fractionBits < 2 ^ 52 := Nat.mod_lt _ (by decide)
  unfold significand
  split
  · omega
  · simp only [twoTo, Nat.pow_eq]
    omega

theorem exponent_eq (x : Binary64) : ∃ k : ℕ, x.exponent = (k : ℤ) - 1074 ∧ k = x.exponentBits - 1 := by
  unfold exponent
  split
  · exact ⟨0, by omega, by omega⟩
  · exact ⟨x.exponentBits - 1, by omega, rfl⟩

theorem exponentBits_lt (hx : x.isFinite = true) : x.exponentBits < 2047 := by
  have hlt : x.exponentBits < 2048 := Nat.mod_lt _ (by decide)
  have hne : x.exponentBits ≠ 2047 := bne_iff_ne.1 hx
  omega

def IsLargest (x : Binary64) : Prop := x.exponentBits = 2046 ∧ x.fractionBits = 2 ^ 52 - 1

theorem high_le (hx : x.isFinite = true) (hlargest : ¬x.IsLargest) :
    x.interval.high * (2 : ℚ) ^ x.interval.exponent ≤ 4 * ((2 ^ 54 - 3) * unit 2044) := by
  have hbits := exponentBits_lt hx
  have hlt := x.significand_lt
  obtain ⟨k, hk, hk'⟩ := x.exponent_eq
  have hpos := unit_pos 2044
  change ((4 * x.significand + 2 : ℕ) : ℚ) * 2 ^ x.exponent ≤ _
  rw [hk]
  change _ * unit k ≤ _
  rcases Nat.lt_or_ge k 2045 with hsmall | hlarge
  · have hunit : unit k ≤ unit 2044 := unit_mono (by omega)
    have hhigh : ((4 * x.significand + 2 : ℕ) : ℚ) ≤ 2 ^ 55 - 2 := by
      have hle : ((4 * x.significand + 4 : ℕ) : ℚ) ≤ (2 ^ 55 : ℕ) := Nat.cast_le.2 (by omega)
      push_cast at hle ⊢
      linarith
    calc _ ≤ (2 ^ 55 - 2) * unit 2044 := mul_le_mul hhigh hunit (unit_pos k).le (by norm_num)
      _ ≤ 4 * ((2 ^ 54 - 3) * unit 2044) := by linarith
  · have hk₁ : k = 2045 := by omega
    have hfraction : x.fractionBits < 2 ^ 52 := Nat.mod_lt _ (by decide)
    have hsignificand : x.significand = 2 ^ 52 + x.fractionBits := if_neg (by omega)
    have hrest : x.fractionBits ≠ 2 ^ 52 - 1 := fun h ↦ hlargest ⟨by omega, h⟩
    have hhigh : ((4 * x.significand + 2 : ℕ) : ℚ) ≤ 2 ^ 55 - 6 := by
      have hle : ((4 * x.significand + 8 : ℕ) : ℚ) ≤ (2 ^ 55 : ℕ) := Nat.cast_le.2 (by omega)
      push_cast at hle ⊢
      linarith
    rw [hk₁, unit_succ 2044]
    calc _ ≤ (2 ^ 55 - 6) * (2 * unit 2044) := mul_le_mul_of_nonneg_right hhigh (by positivity)
      _ = 4 * ((2 ^ 54 - 3) * unit 2044) := by ring

theorem low_ge (hx : x.significand ≠ 0) :
    2 * unit 0 ≤ x.interval.low * (2 : ℚ) ^ x.interval.exponent := by
  obtain ⟨k, hk, -⟩ := x.exponent_eq
  have hlow : 2 ≤ x.interval.low := by
    unfold interval
    dsimp only
    split <;> omega
  change _ ≤ (x.interval.low : ℚ) * 2 ^ x.exponent
  rw [hk]
  exact mul_le_mul (by exact_mod_cast hlow) (unit_mono (Nat.zero_le k)) (unit_pos 0).le (by positivity)

structure Approximates (x : Binary64) (n : ℕ) (d : Decimal) : Prop where
  digits_le : d.digits ≤ 10 ^ n
  contains : x.interval.contains d.digits d.exponent = true

theorem digits_lt {a b n : ℕ} (ha : 0 < a) (hb : 0 < b) {p : ℤ} (hp : leadingPlace a b + 1 = p + n) :
    a * tenTo (-p).toNat / (b * tenTo p.toNat) < 10 ^ n := by
  have hlt := lt_leadingPlace ha hb
  rw [hp, zpow_add₀ (by norm_num), zpow_natCast, zpow_eq_div (by norm_num) p,
    div_lt_iff₀ (Nat.cast_pos.2 hb), div_mul_eq_mul_div, div_mul_eq_mul_div,
    lt_div_iff₀ (by positivity)] at hlt
  refine Nat.div_lt_of_lt_mul ?_
  rw [← Nat.cast_lt (α := ℚ)]
  simp only [Nat.cast_mul, Nat.cast_pow, cast_tenTo, Nat.cast_ofNat]
  linarith

theorem ratio_fst_pos (hx : x.significand ≠ 0) : 0 < x.ratio.1 :=
  Nat.mul_pos (Nat.pos_of_ne_zero hx) (twoTo_pos _)

theorem decimalOf?_approximates {tie : Tie} {n : ℕ} {d : Decimal} (hx : x.significand ≠ 0)
    (h : x.decimalOf? tie n = some d) : x.Approximates n d := by
  obtain ⟨a, b, hab⟩ : ∃ a b, x.ratio = (a, b) := ⟨_, _, rfl⟩
  have ha := ratio_fst_pos hx
  have hb := x.ratio_snd_pos
  rw [hab] at ha hb
  dsimp only at ha hb
  obtain ⟨p, hp⟩ : ∃ p : ℤ, p = leadingPlace a b + 1 - n := ⟨_, rfl⟩
  have hfloor : a * tenTo (-p).toNat / (b * tenTo p.toNat) < 10 ^ n := digits_lt ha hb (by omega)
  unfold decimalOf? at h
  rw [hab] at h
  dsimp only at h
  rw [← hp] at h
  split at h
  · next hboth =>
    cases h
    split
    · exact ⟨hfloor, hboth.2⟩
    · exact ⟨hfloor.le, hboth.1⟩
  · split at h
    · next hbelow =>
      cases h
      exact ⟨hfloor.le, hbelow⟩
    · split at h
      · next habove =>
        cases h
        exact ⟨hfloor, habove⟩
      · cases h

/-- What is found: a decimal that reads back or, with none on any grid, zero. -/
theorem shortest_cases {tie : Tie} (hx : x.significand ≠ 0) :
    x.shortest tie = ⟨0, 0⟩ ∨ ∃ d : Decimal, x.shortest tie = d.trimmed 20 ∧ x.Approximates 17 d := by
  unfold shortest
  cases h : (List.range 17).findSome? fun n ↦ x.decimalOf? tie (n + 1) with
  | none => exact .inl rfl
  | some d =>
    obtain ⟨n, hn, hd⟩ := List.exists_of_findSome?_eq_some h
    obtain ⟨hle, hcontains⟩ := decimalOf?_approximates hx hd
    have hn := List.mem_range.1 hn
    exact .inr ⟨d, rfl, hle.trans (Nat.pow_le_pow_right (by decide) hn), hcontains⟩

theorem shortest_congr {tie : Tie} {y : Binary64} (hexponent : x.exponentBits = y.exponentBits)
    (hfraction : x.fractionBits = y.fractionBits) : x.shortest tie = y.shortest tie := by
  have hsignificand : x.significand = y.significand := by rw [significand, significand, hexponent, hfraction]
  have hplace : x.exponent = y.exponent := by rw [exponent, exponent, hexponent]
  have hratio : x.ratio = y.ratio := by rw [ratio, ratio, hsignificand, hplace]
  have hinterval : x.interval = y.interval := by
    rw [interval, interval, hsignificand, hplace, hexponent]
  have hdecimal : x.decimalOf? tie = y.decimalOf? tie := by
    funext n
    rw [decimalOf?, decimalOf?, hratio, hinterval]
  rw [shortest, shortest, hdecimal]

theorem IsLargest.shortest_eq (h : x.IsLargest) : x.shortest .toEven = ⟨17976931348623157, 292⟩ := by
  rw [shortest_congr (y := ofBits (2047 * 2 ^ 52 - 1)) (by rw [h.1]; decide) (by rw [h.2]; decide)]
  decide +kernel

end Binary64

open Binary64 (unit)

/-- A decimal of a size in which only the largest number is not found. -/
structure Decimal.Moderate (d : Decimal) : Prop where
  digits_pos : 0 < d.digits
  digits_le : d.digits ≤ 10 ^ 17
  exponent_gt : -342 < d.exponent
  value_le : d.value ≤ (2 ^ 54 - 3) * unit 2044

theorem Decimal.Moderate.trimmed {d : Decimal} (h : d.Moderate) (n : ℕ) : (d.trimmed n).Moderate where
  digits_pos := digits_trimmed_pos h.digits_pos n
  digits_le := (d.digits_trimmed_le n).trans h.digits_le
  exponent_gt := h.exponent_gt.trans_le (d.exponent_le_trimmed n)
  value_le := (d.value_trimmed n).trans_le h.value_le

namespace Binary64

theorem unit_eq_twoTo (k : ℕ) : unit (k + 1074) = (twoTo k : ℕ) := by
  have hplace : ((k + 1074 : ℕ) : ℤ) - 1074 = k := by omega
  rw [cast_twoTo, unit, hplace, zpow_natCast]

theorem unit_zero_mul : unit 0 * (twoTo 1074 : ℕ) = 1 := by
  have hplace : ((0 : ℕ) : ℤ) - 1074 + (1074 : ℕ) = 0 := by norm_num
  rw [cast_twoTo, unit, ← zpow_natCast, ← zpow_add₀ (by norm_num), hplace, zpow_zero]

theorem lt_exponent {D : ℕ} {e : ℤ} (hD : D ≤ 10 ^ 17) (h : unit 0 ≤ 2 * (D * 10 ^ e : ℚ)) : -342 < e := by
  refine (zpow_lt_zpow_iff_right₀ (by norm_num : (1 : ℚ) < 10)).1 (lt_of_not_ge fun hle ↦ ?_)
  have hsmall : unit 0 ≤ 2 * 10 ^ 17 * (10 : ℚ) ^ (-342 : ℤ) := by
    have hdigits : (D : ℚ) ≤ 10 ^ 17 := by exact_mod_cast hD
    have hmul : (D * 10 ^ e : ℚ) ≤ 10 ^ 17 * 10 ^ (-342 : ℤ) :=
      mul_le_mul hdigits hle (by positivity) (by norm_num)
    linarith
  -- Both sides times `2 ^ 1074 * 10 ^ 342`, which is a comparison of whole numbers.
  have hten : (10 : ℚ) ^ (-342 : ℤ) * (tenTo 342 : ℕ) = 1 := by
    rw [cast_tenTo, ← zpow_natCast, ← zpow_add₀ (by norm_num)]
    exact zpow_zero 10
  have hcross : (tenTo 342 : ℕ) * (unit 0 * (twoTo 1074 : ℕ)) ≤
      2 * 10 ^ 17 * (twoTo 1074 : ℕ) * ((10 : ℚ) ^ (-342 : ℤ) * (tenTo 342 : ℕ)) := by
    have hmul := mul_le_mul_of_nonneg_right hsmall
      (mul_nonneg (Nat.cast_nonneg (twoTo 1074)) (Nat.cast_nonneg (tenTo 342)))
    linarith
  rw [unit_zero_mul, hten, mul_one, mul_one] at hcross
  have hfar : ((2 * 10 ^ 17 * twoTo 1074 : ℕ) : ℚ) < (tenTo 342 : ℕ) :=
    Nat.cast_lt.2 (by decide +kernel)
  push_cast at hfar
  linarith

theorem Approximates.moderate {x : Binary64} {d : Decimal} (hx : x.isFinite = true)
    (hsignificand : x.significand ≠ 0) (hlargest : ¬x.IsLargest) (h : x.Approximates 17 d) :
    d.Moderate := by
  obtain ⟨hlow, hhigh⟩ := Interval.contains_sound h.contains
  have hpos : 2 * unit 0 ≤ 4 * (d.digits * 10 ^ d.exponent : ℚ) := (low_ge hsignificand).trans hlow
  refine ⟨?_, h.digits_le, lt_exponent h.digits_le (by linarith), ?_⟩
  · refine Nat.pos_of_ne_zero fun hzero ↦ ?_
    have hunit := unit_pos 0
    rw [hzero, Nat.cast_zero, zero_mul, mul_zero] at hpos
    linarith
  · have hle := hhigh.trans (high_le hx hlargest)
    rw [Decimal.value]
    linarith

theorem shortest_moderate {x : Binary64} {tie : Tie} (hx : x.isFinite = true)
    (hsignificand : x.significand ≠ 0) (hlargest : ¬x.IsLargest) :
    x.shortest tie = ⟨0, 0⟩ ∨ (x.shortest tie).Moderate := by
  refine (shortest_cases hsignificand).imp_right ?_
  rintro ⟨d, heq, h⟩
  rw [heq]
  exact (h.moderate hx hsignificand hlargest).trimmed 20

end Binary64

end ScriptEnv.Number
