import ScriptEnv.Json.Scanner
import ScriptEnv.Proofs.Number.Shortest

namespace ScriptEnv.Json

open Number (Binary64 Decimal tenTo twoTo tenTo_pos tenTo_mono tenTo_add cast_tenTo)
open Number.Binary64 (limit unit_eq_twoTo)

variable {n D p : ℕ} {x : Binary64} {e : ℤ}

theorem exists_scale_of_neg (n : ℕ) (x : Binary64) (he : e < 0) : ∃ y, scale n x e = some y := by
  induction n generalizing x e with
  | zero => exact ⟨x, rfl⟩
  | succ n ih =>
    unfold scale
    split
    · rw [if_neg (by omega)]
      exact ⟨_, rfl⟩
    · split
      · exact ⟨x, rfl⟩
      · rw [if_neg (by omega)]
        exact ih _ (by omega)

theorem scale_natCast (hp : p ≤ 308) (h : (x.mul (powerOfTen p)).isFinite = true) :
    scale (n + 1) x p = some (x.mul (powerOfTen p)) := by
  have habs : (p : ℤ).natAbs ≤ 308 := hp
  rw [scale, if_pos habs, if_pos (Int.natCast_nonneg p)]
  exact if_pos h

theorem rounded_ofNat (hD : 0 < D) (h : (D : ℚ) < limit) :
    (Binary64.ofNat D).isFinite = true ∧ (Binary64.ofNat D).magnitude ≤ D * (1 + 1 / 2 ^ 53) := by
  have hdiv : (D / (1 : ℕ) : ℚ) = D := by rw [Nat.cast_one, div_one]
  have hone : (1 : ℚ) ≤ D := by exact_mod_cast hD
  have hfinite : (Binary64.ofNat D).isFinite = true :=
    Binary64.isFinite_ofRatio Nat.one_pos (by rwa [hdiv])
  have hle := Binary64.magnitude_ofRatio_le Nat.one_pos (by rwa [hdiv]) hfinite
  rw [hdiv] at hle
  exact ⟨hfinite, hle⟩

/-- As much as can be rounded three times and still lies below the limit. -/
def safe : ℕ := 17976931348623154 * tenTo 292

theorem safe_lt : (safe : ℚ) * (1 + 1 / 2 ^ 53) ^ 2 < limit := by
  have hnat : safe * (2 ^ 53 + 1) ^ 2 + twoTo 970 * 2 ^ 106 < 2 ^ 54 * twoTo 970 * 2 ^ 106 := by
    decide +kernel
  rw [limit, unit_eq_twoTo 970]
  generalize safe = b at hnat ⊢
  generalize twoTo 970 = u at hnat ⊢
  have hcast : (b : ℚ) * (2 ^ 53 + 1) ^ 2 + u * 2 ^ 106 < 2 ^ 54 * u * 2 ^ 106 := by
    exact_mod_cast hnat
  linarith

theorem isFinite_mul_powerOfTen (hD : 0 < D) (h : D * tenTo p ≤ safe) :
    ((Binary64.ofNat D).mul (powerOfTen p)).isFinite = true := by
  have hten := tenTo_pos p
  have hsafe := safe_lt
  have hbound : ∀ m : ℕ, m ≤ safe → (m : ℚ) < limit := fun m hm ↦ by
    have hcast : (m : ℚ) ≤ safe := Nat.cast_le.2 hm
    have hpos : (0 : ℚ) ≤ safe := Nat.cast_nonneg _
    linarith
  obtain ⟨-, hdigits⟩ := rounded_ofNat hD (hbound _ ((Nat.le_mul_of_pos_right D hten).trans h))
  obtain ⟨-, hpower⟩ := rounded_ofNat hten (hbound _ ((Nat.le_mul_of_pos_left _ hD).trans h))
  -- The digits and the power are rounded once each, and the product of what they became once more.
  apply Binary64.isFinite_mul
  have hcast : (D * tenTo p : ℚ) ≤ safe := by exact_mod_cast h
  calc (Binary64.ofNat D).magnitude * (powerOfTen p).magnitude
      ≤ (D * (1 + 1 / 2 ^ 53)) * (tenTo p * (1 + 1 / 2 ^ 53)) :=
        mul_le_mul hdigits hpower (Binary64.magnitude_nonneg _) (by positivity)
    _ = D * tenTo p * (1 + 1 / 2 ^ 53) ^ 2 := by ring
    _ ≤ safe * (1 + 1 / 2 ^ 53) ^ 2 := mul_le_mul_of_nonneg_right hcast (by positivity)
    _ < limit := hsafe

/-- Just below the largest number two decimals are more than safe, but they stay finite as well. -/
theorem isFinite_of_unsafe (hsafe : safe < D * tenTo p) (hD : D ≤ 10 ^ 17)
    (hlt : D * tenTo p < 17976931348623157 * tenTo 292) :
    ((Binary64.ofNat D).mul (powerOfTen p)).isFinite = true := by
  have hp : 292 ≤ p := by
    refine Nat.not_lt.1 fun hsmall ↦ Nat.not_le.2 hsafe ?_
    have hnat : 10 ^ 17 * tenTo 291 ≤ safe := by decide +kernel
    exact (Nat.mul_le_mul hD (tenTo_mono (Nat.le_of_lt_succ hsmall))).trans hnat
  obtain ⟨j, rfl⟩ := Nat.exists_eq_add_of_le hp
  have hmul : D * tenTo (292 + j) = D * 10 ^ j * tenTo 292 := by rw [tenTo_add]; ring
  rw [hmul] at hlt hsafe
  have hhigh := Nat.lt_of_mul_lt_mul_right hlt
  have hlow := Nat.lt_of_mul_lt_mul_right hsafe
  cases j with
  | zero =>
    obtain rfl | rfl : D = 17976931348623155 ∨ D = 17976931348623156 := by omega
    · decide +kernel
    · decide +kernel
  | succ j =>
    -- A decimal with fewer digits is a multiple of ten, and there is none in between.
    have hten : D * 10 ^ (j + 1) = 10 * (D * 10 ^ j) := by ring
    omega

theorem isFinite_of_moderate {d : Decimal} (h : d.Moderate) (hp : d.exponent = p) :
    p ≤ 308 ∧ ((Binary64.ofNat d.digits).mul (powerOfTen p)).isFinite = true := by
  have hlt : d.digits * tenTo p < 17976931348623157 * tenTo 292 := by
    have hnat : 2 ^ 54 * twoTo 970 < 17976931348623157 * tenTo 292 + 3 * twoTo 970 := by
      decide +kernel
    have hle := h.value_le
    rw [Decimal.value, hp, zpow_natCast, unit_eq_twoTo 970, ← cast_tenTo] at hle
    generalize twoTo 970 = u at hnat hle
    generalize tenTo 292 = t at hnat ⊢
    generalize tenTo p = t' at hle ⊢
    have hcast : (2 ^ 54 * u : ℚ) < 17976931348623157 * t + 3 * u := by exact_mod_cast hnat
    have hlt : (d.digits * t' : ℚ) < 17976931348623157 * t := by linarith
    exact_mod_cast hlt
  constructor
  · refine Nat.not_lt.1 fun hlarge ↦ Nat.not_le.2 hlt ?_
    have hnat : 17976931348623157 * tenTo 292 ≤ tenTo 309 := by decide +kernel
    exact hnat.trans ((tenTo_mono hlarge).trans (Nat.le_mul_of_pos_left _ h.digits_pos))
  · rcases Nat.lt_or_ge safe (d.digits * tenTo p) with hunsafe | hsafe
    · exact isFinite_of_unsafe hunsafe h.digits_le hlt
    · exact isFinite_mul_powerOfTen h.digits_pos hsafe

structure Scales (d : Decimal) : Prop where
  digits_pos : 0 < d.digits
  digits_le : d.digits ≤ 10 ^ 17
  exponent_gt : -342 < d.exponent
  exponent_le : d.exponent ≤ 308
  scale : ∃ y, scale 8 (.ofNat d.digits) d.exponent = some y

theorem scales_of_moderate {d : Decimal} (h : d.Moderate) : Scales d := by
  have hscale : d.exponent ≤ 308 ∧ ∃ y, scale 8 (.ofNat d.digits) d.exponent = some y := by
    rcases Int.lt_or_le d.exponent 0 with hneg | hnonneg
    · exact ⟨by omega, exists_scale_of_neg _ _ hneg⟩
    · obtain ⟨p, hp⟩ := Int.eq_ofNat_of_zero_le hnonneg
      obtain ⟨hle, hfinite⟩ := isFinite_of_moderate h hp
      exact ⟨by omega, _, hp ▸ scale_natCast hle hfinite⟩
  exact ⟨h.digits_pos, h.digits_le, h.exponent_gt, hscale.1, hscale.2⟩

/-- What a finite number is written with can be scaled back. -/
theorem shortest_scales (hx : x.isFinite = true) (hsignificand : x.significand ≠ 0) :
    x.shortest .toEven = ⟨0, 0⟩ ∨ Scales (x.shortest .toEven) := by
  by_cases hlargest : x.IsLargest
  · rw [hlargest.shortest_eq]
    refine .inr ⟨by decide, by decide, by decide, by decide, ?_⟩
    exact ⟨_, scale_natCast (p := 292) (by decide) (by decide +kernel)⟩
  · exact (Binary64.shortest_moderate hx hsignificand hlargest).imp_right scales_of_moderate

end ScriptEnv.Json
