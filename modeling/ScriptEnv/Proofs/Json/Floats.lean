import ScriptEnv.Proofs.Json.Scaling
import ScriptEnv.Proofs.Json.Written

namespace ScriptEnv.Json

open Number (Binary64 Decimal Layout decimalDigits decimalValue digitValue? isDigit valueOf zeros)

variable {s r w f : List Char} {negative down : Bool} {v n : Nat} {e k : Int} {x : Binary64}

theorem go_append {ds : List Char} {d : Nat} (hds : ∀ c ∈ ds, isDigit c = true)
    (hv : valueOf 10 digitValue? d ds ≤ Number.twoTo 31 - 1) (hr : startsWithDigit r = false)
    (hn : (ds ++ r).length ≤ n) :
    readExponent.go negative v e down n d (ds ++ r) =
      floatOf negative v (power e down (valueOf 10 digitValue? d ds)) r := by
  induction ds generalizing n d with
  | nil => exact go_stop hr n
  | cons c ds ih =>
    obtain ⟨hc, hds⟩ := List.forall_mem_cons.1 hds
    obtain ⟨m, hm⟩ := Option.isSome_iff_exists.1 hc
    obtain ⟨n, rfl⟩ := Nat.exists_eq_add_one.2 (Nat.zero_lt_of_lt hn)
    rw [valueOf_digit hm] at hv ⊢
    have hfits : d * 10 + m ≤ Number.twoTo 31 - 1 := (le_valueOf _ ds).trans hv
    simp only [List.cons_append, readExponent.go, hm, if_pos hfits]
    exact ih hds hv (Nat.le_of_succ_le_succ hn)

theorem readPower_append {ds : List Char} (hds : Digits ds)
    (hv : decimalValue ds ≤ Number.twoTo 31 - 1) (hr : startsWithDigit r = false) :
    readPower negative v e down (ds ++ r) = floatOf negative v (power e down (decimalValue ds)) r := by
  obtain ⟨c, t, rfl, hc, ht⟩ := hds.exists_cons
  obtain ⟨m, hm⟩ := Option.isSome_iff_exists.1 hc
  have hvalue : decimalValue (c :: t) = valueOf 10 digitValue? m t := by
    rw [decimalValue, valueOf_digit hm, Nat.zero_mul, Nat.zero_add]
  rw [hvalue] at hv ⊢
  simp only [List.cons_append, readPower, hm]
  exact go_append ht hv hr (Nat.le_refl _)

def exponentText (k : Int) : List Char :=
  (if k < 0 then ['-'] else ['+']) ++ decimalDigits k.natAbs

theorem readExponent_exponentText (hk : k.natAbs ≤ Number.twoTo 31 - 1)
    (hr : startsWithDigit r = false) :
    readExponent negative v e (exponentText k ++ r) = floatOf negative v (e + k) r := by
  have hvalue : decimalValue (decimalDigits k.natAbs) = k.natAbs := Number.decimalValue_toDigits _
  have hpower : ∀ down, readPower negative v e down (decimalDigits k.natAbs ++ r) =
      floatOf negative v (power e down k.natAbs) r := fun down ↦ by
    rw [readPower_append (digits_decimalDigits _) (by rw [hvalue]; exact hk) hr, hvalue]
  unfold exponentText
  split
  · next hneg =>
    have habs : power e true k.natAbs = e + k := by
      rw [power, if_pos rfl]
      omega
    rw [List.append_assoc, List.singleton_append, readExponent_minus, hpower, habs]
  · next hnonneg =>
    have habs : power e false k.natAbs = e + k := by
      rw [power, if_neg Bool.false_ne_true]
      omega
    rw [List.append_assoc, List.singleton_append, readExponent_plus, hpower, habs]

theorem readFraction_append (hf : Digits f) (hv : valueOf 10 digitValue? v f ≤ wordMax)
    (hr : startsWithDigit r = false) : readFraction negative v e (f ++ r) =
      readScale negative (valueOf 10 digitValue? v f) (e - f.length) r := by
  have htake := takeDigits_append (n := 0) hf.2 hv hr
  have hlength : 0 + f.length ≠ 0 := by
    have hpos := List.length_pos_of_ne_nil hf.1
    omega
  rw [readFraction_of_takeDigits htake (.inr hlength), dropWhile_isDigit_eq_self hr,
    Nat.zero_add]

theorem startsWithDigit_point (s : List Char) : startsWithDigit ('.' :: s) = false := by
  rw [startsWithDigit_cons]
  decide

theorem startsWithDigit_mark (s : List Char) : startsWithDigit ('e' :: s) = false := by
  rw [startsWithDigit_cons]
  decide

theorem valueOf_decimalValue (s t : List Char) :
    valueOf 10 digitValue? (decimalValue s) t = decimalValue (s ++ t) :=
  (List.foldl_append ..).symm

theorem decimalValue_le_append (s t : List Char) : decimalValue s ≤ decimalValue (s ++ t) := by
  rw [← valueOf_decimalValue]
  exact le_valueOf _ t

theorem readNumber_point (negative : Bool) (hw : Whole w) (hf : Digits f)
    (hv : decimalValue (w ++ f) ≤ wordMax) (hr : startsWithDigit r = false) :
    readNumber negative (w ++ '.' :: (f ++ r)) =
      asFloat (readScale negative (decimalValue (w ++ f)) (0 - f.length) r) := by
  have hw' := (decimalValue_le_append w f).trans hv
  rw [← valueOf_decimalValue] at hv ⊢
  rw [readNumber_append negative hw hw' (startsWithDigit_point _), readNumberEnd_point,
    readFraction_append hf hv hr]

theorem readNumber_exponent (negative : Bool) (hw : Whole w) (hv : decimalValue w ≤ wordMax)
    (hk : k.natAbs ≤ Number.twoTo 31 - 1) (hr : startsWithDigit r = false) :
    readNumber negative (w ++ 'e' :: (exponentText k ++ r)) =
      asFloat (floatOf negative (decimalValue w) (0 + k) r) := by
  rw [readNumber_append negative hw hv (startsWithDigit_mark _), readNumberEnd_mark rfl,
    readExponent_exponentText hk hr]

theorem readNumber_point_exponent (negative : Bool) (hw : Whole w) (hf : Digits f)
    (hv : decimalValue (w ++ f) ≤ wordMax) (hk : k.natAbs ≤ Number.twoTo 31 - 1)
    (hr : startsWithDigit r = false) :
    readNumber negative (w ++ '.' :: (f ++ 'e' :: (exponentText k ++ r))) =
      asFloat (floatOf negative (decimalValue (w ++ f)) (0 - f.length + k) r) := by
  rw [readNumber_point negative hw hf hv (startsWithDigit_mark _), readScale_eq rfl,
    readExponent_exponentText hk hr]

theorem readAs_point (negative : Bool) (hw : Whole w) (hf : Digits f)
    (hv : decimalValue (w ++ f) ≤ wordMax) :
    ∃ x, ReadAs (readNumber negative) (w ++ '.' :: f) (.float x) := by
  have hneg : 0 - (f.length : Int) < 0 := by
    have hpos := List.length_pos_of_ne_nil hf.1
    omega
  obtain ⟨y, hy⟩ := exists_scale_of_neg 8 (.ofNat (decimalValue (w ++ f))) hneg
  refine ⟨signed negative y, fun r hr ↦ ?_⟩
  rw [List.append_assoc, List.cons_append, readNumber_point negative hw hf hv hr.startsWithDigit,
    readScale_stop hr, floatOf, hy, asFloat_ok]

theorem whole_digit {c : Char} (hc : isDigit c = true) : Whole [c] :=
  ⟨⟨List.cons_ne_nil c [], List.forall_mem_singleton.2 hc⟩, fun _ hr ↦ (List.cons.inj hr).2.symm⟩

theorem exponentForm_eq (ds : List Char) (k : Int) : numberLayout.exponentForm ds k =
    (match ds with
    | [d] => [d]
    | d :: r => d :: '.' :: r
    | [] => []) ++ 'e' :: exponentText k := by
  unfold Layout.exponentForm exponentText
  simp only [List.append_assoc, List.cons_append]
  rfl

theorem length_decimalDigits_le {D : Nat} (h : D ≤ 10 ^ 17) : (decimalDigits D).length ≤ 18 :=
  (Nat.length_toDigits_le_iff (by decide) (by decide)).2 (h.trans_lt (by decide))

theorem decimalValue_decimalDigits (D : Nat) : decimalValue (decimalDigits D) = D :=
  Number.decimalValue_toDigits D

/-- The exponent that is written makes up for the point behind the first digit. -/
theorem readNumber_exponentForm (negative : Bool) {ds : List Char} (hds : Digits ds)
    (hv : decimalValue ds ≤ wordMax) (hk : (e + ds.length - 1).natAbs ≤ Number.twoTo 31 - 1)
    (hr : startsWithDigit r = false) :
    readNumber negative (numberLayout.exponentForm ds (e + ds.length - 1) ++ r) =
      asFloat (floatOf negative (decimalValue ds) e r) := by
  obtain ⟨c, t, rfl, hc, ht⟩ := hds.exists_cons
  rw [exponentForm_eq]
  cases t with
  | nil =>
    have hplace : 0 + (e + ([c] : List Char).length - 1) = e := by
      rw [List.length_singleton]
      omega
    have hread := readNumber_exponent negative (whole_digit hc) hv hk hr
    rwa [hplace] at hread
  | cons c' t =>
    have hf : Digits (c' :: t) := ⟨List.cons_ne_nil c' t, ht⟩
    have hplace : 0 - ((c' :: t).length : Int) + (e + (c :: c' :: t).length - 1) = e := by
      simp only [List.length_cons]
      omega
    have hread := readNumber_point_exponent negative (whole_digit hc) hf hv hk hr
    rw [hplace] at hread
    simpa using hread

theorem readAs_exponentForm (negative : Bool) {d : Decimal} (h : Scales d) :
    ∃ x, ReadAs (readNumber negative)
      (numberLayout.exponentForm (decimalDigits d.digits)
        (d.exponent + (decimalDigits d.digits).length - 1)) (.float x) := by
  obtain ⟨y, hy⟩ := h.scale
  have hvalue := decimalValue_decimalDigits d.digits
  have hword : d.digits ≤ wordMax := h.digits_le.trans (by decide)
  have hfits : (d.exponent + (decimalDigits d.digits).length - 1).natAbs ≤ Number.twoTo 31 - 1 := by
    have hlength := length_decimalDigits_le h.digits_le
    have hgt := h.exponent_gt
    have hle := h.exponent_le
    have hlarge : 1000 ≤ Number.twoTo 31 - 1 := by decide
    omega
  refine ⟨signed negative y, fun r hr ↦ ?_⟩
  rw [readNumber_exponentForm negative (digits_decimalDigits d.digits) (hvalue.trans_le hword) hfits
    hr.startsWithDigit, hvalue, floatOf, hy, asFloat_ok]

theorem isDigit_of_mem_zeros {j : Nat} : ∀ c ∈ zeros j, isDigit c = true := fun c hc ↦ by
  rw [List.eq_of_mem_replicate hc]
  decide

theorem valueOf_zeros (v j : Nat) : valueOf 10 digitValue? v (zeros j) = v * 10 ^ j := by
  induction j generalizing v with
  | zero => exact (Nat.mul_one v).symm
  | succ j ih =>
    have hcons : valueOf 10 digitValue? v (zeros (j + 1)) = valueOf 10 digitValue? (v * 10) (zeros j) := rfl
    rw [hcons, ih, Nat.pow_succ', Nat.mul_assoc]

theorem decimalValue_zeros_append (j : Nat) (s : List Char) :
    decimalValue (zeros j ++ s) = decimalValue s := by
  have hzero : decimalValue (zeros j) = 0 := by rw [decimalValue, valueOf_zeros, Nat.zero_mul]
  rw [← valueOf_decimalValue, hzero]
  rfl

theorem decimalValue_append_zeros (s : List Char) (j : Nat) :
    decimalValue (s ++ zeros j) = decimalValue s * 10 ^ j := by
  rw [← valueOf_decimalValue, valueOf_zeros]

theorem whole_of_prefix {D : Nat} (hD : 0 < D) (hs : s ≠ []) {t : List Char} (hds : decimalDigits D = s ++ t)
    {u : List Char} (hu : ∀ c ∈ u, isDigit c = true) : Whole (s ++ u) := by
  obtain ⟨c, s, rfl⟩ := List.exists_cons_of_ne_nil hs
  have hall : ∀ c' ∈ c :: s, isDigit c' = true := fun c' hc' ↦
    (digits_decimalDigits D).2 c' (hds ▸ List.mem_append_left t hc')
  refine ⟨⟨List.cons_ne_nil c _, fun c' hc' ↦ (List.mem_append.1 hc').elim (hall c') (hu c')⟩, ?_⟩
  intro r hr
  refine absurd hds ?_
  rw [(List.cons.inj hr).1]
  exact head_toDigits_ne_zero hD _

theorem readAs_leading_zeros (negative : Bool) {D : Nat} (hD : D ≤ wordMax) (j : Nat) :
    ∃ x, ReadAs (readNumber negative) ('0' :: '.' :: (zeros j ++ decimalDigits D)) (.float x) := by
  have hf : Digits (zeros j ++ decimalDigits D) := by
    obtain ⟨hne, hall⟩ := digits_decimalDigits D
    refine ⟨List.append_ne_nil_of_right_ne_nil _ hne, fun c hc ↦ ?_⟩
    exact (List.mem_append.1 hc).elim (isDigit_of_mem_zeros c) (hall c)
  have hvalue : decimalValue (zeros 1 ++ (zeros j ++ decimalDigits D)) = D := by
    rw [decimalValue_zeros_append, decimalValue_zeros_append, decimalValue_decimalDigits]
  exact readAs_point negative whole_zero hf (hvalue.trans_le hD)

theorem readAs_trailing_zeros (negative : Bool) {D j : Nat} (hD : 0 < D)
    (hj : (decimalDigits D).length + j ≤ 16) :
    ∃ x, ReadAs (readNumber negative) (decimalDigits D ++ zeros j ++ ['.', '0']) (.float x) := by
  have hw : Whole (decimalDigits D ++ zeros j) :=
    whole_of_prefix hD (digits_decimalDigits D).1 (List.append_nil _).symm isDigit_of_mem_zeros
  refine readAs_point negative hw whole_zero.1 ?_
  have hlast : decimalValue (decimalDigits D ++ zeros j ++ zeros 1) = D * 10 ^ j * 10 := by
    rw [decimalValue_append_zeros, decimalValue_append_zeros, decimalValue_decimalDigits, Nat.pow_one]
  have hlt : D < 10 ^ (decimalDigits D).length := Number.lt_ten_pow_length D
  have hten : D * 10 ^ j ≤ 10 ^ 16 := by
    calc D * 10 ^ j ≤ 10 ^ (decimalDigits D).length * 10 ^ j := Nat.mul_le_mul_right _ hlt.le
      _ = 10 ^ ((decimalDigits D).length + j) := (Nat.pow_add ..).symm
      _ ≤ 10 ^ 16 := Nat.pow_le_pow_right (by decide) hj
  exact hlast.trans_le ((Nat.mul_le_mul_right 10 hten).trans (by decide))

theorem readAs_split (negative : Bool) {D n : Nat} (hD : 0 < D) (hword : D ≤ wordMax)
    (hn : n + 1 < (decimalDigits D).length) : ∃ x, ReadAs (readNumber negative)
      ((decimalDigits D).take (n + 1) ++ '.' :: (decimalDigits D).drop (n + 1)) (.float x) := by
  have hw : Whole ((decimalDigits D).take (n + 1) ++ []) := by
    refine whole_of_prefix hD ?_ (List.take_append_drop (n + 1) _).symm nofun
    refine List.ne_nil_of_length_pos ?_
    rw [List.length_take]
    omega
  rw [List.append_nil] at hw
  have hf : Digits ((decimalDigits D).drop (n + 1)) := by
    refine ⟨fun hnil ↦ ?_, fun c hc ↦ (digits_decimalDigits D).2 c (List.mem_of_mem_drop hc)⟩
    exact Nat.not_le.2 hn (List.drop_eq_nil_iff.1 hnil)
  refine readAs_point negative hw hf ?_
  rwa [List.take_append_drop, decimalValue_decimalDigits]

theorem readAs_positionalForm (negative : Bool) {D : Nat} (hD : 0 < D) (hle : D ≤ 10 ^ 17) (hk : k ≤ 15) :
    ∃ x, ReadAs (readNumber negative) (numberLayout.positionalForm (decimalDigits D) k) (.float x) := by
  have hword : D ≤ wordMax := hle.trans (by decide)
  unfold Layout.positionalForm
  split
  · exact readAs_leading_zeros negative hword _
  · dsimp only
    split
    · exact readAs_trailing_zeros negative hD (by omega)
    · exact readAs_split negative hD hword (by omega)

theorem magnitude_eq (hx : x.significand ≠ 0) {d : Decimal} (hd : x.shortest .toEven = d) :
    numberLayout.magnitude x =
      if -5 ≤ d.exponent + (decimalDigits d.digits).length - 1 ∧
        d.exponent + (decimalDigits d.digits).length - 1 ≤ 15 then
        numberLayout.positionalForm (decimalDigits d.digits)
          (d.exponent + (decimalDigits d.digits).length - 1)
      else numberLayout.exponentForm (decimalDigits d.digits)
        (d.exponent + (decimalDigits d.digits).length - 1) := by
  rw [Layout.magnitude, if_neg hx, ← hd]
  refine if_congr ?_ rfl rfl
  change (decide (-5 ≤ _) && decide (_ ≤ 15)) = true ↔ _
  rw [Bool.and_eq_true, decide_eq_true_eq, decide_eq_true_eq]
  exact Iff.rfl

theorem readAs_magnitude (negative : Bool) (hx : x.isFinite = true) :
    ∃ y, ReadAs (readNumber negative) (numberLayout.magnitude x) (.float y) := by
  have hzero : ∃ y, ReadAs (readNumber negative) ['0', '.', '0'] (.float y) :=
    readAs_point negative (w := ['0']) (f := ['0']) whole_zero whole_zero.1 (by decide)
  by_cases hsignificand : x.significand = 0
  · rw [Layout.magnitude, if_pos hsignificand]
    exact hzero
  · rw [magnitude_eq hsignificand rfl]
    rcases shortest_scales hx hsignificand with hd | h
    · rw [hd]
      exact hzero
    · split
      · next hplace => exact readAs_positionalForm negative h.digits_pos h.digits_le hplace.2
      · exact readAs_exponentForm negative h

theorem ReadAs.unsigned {y : Numeral} (h : ReadAs (readNumber negative) w y) : Unsigned w := by
  obtain ⟨w', hw, hunsigned, -⟩ := readNumber_sound (h [] gap_nil.stops)
  rwa [List.append_cancel_right hw]

theorem signed_render (hx : x.isFinite = true) :
    ∃ y, Signed (numberLayout.render x).toList (.float y) := by
  have hnumber : x.isNaN = false := by
    rw [Binary64.isNaN, beq_eq_false_iff_ne.2 (bne_iff_ne.1 hx), Bool.false_and]
  rw [Layout.render, hnumber, if_neg Bool.false_ne_true, String.toList_ofList, if_pos hx]
  split
  · obtain ⟨y, hy⟩ := readAs_magnitude true hx
    exact ⟨y, .negative hy.unsigned hy⟩
  · obtain ⟨y, hy⟩ := readAs_magnitude false hx
    exact ⟨y, .unsigned hy.unsigned hy⟩

end ScriptEnv.Json
