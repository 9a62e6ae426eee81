import ScriptEnv.Proofs.Json.Numbers

namespace ScriptEnv.Json

open Number (Binary64 isDigit digitValue? decimalValue valueOf)

variable {α : Type} {s r w t : List Char} {negative down : Bool} {v n : Nat} {e : Int} {x : Binary64}

/-- Read as that, whatever stops after it. -/
def ReadAs (read : List Char → Except Fault (α × List Char)) (w : List Char) (a : α) : Prop :=
  ∀ r, Stops r → read (w ++ r) = .ok (a, r)

theorem valueOf_cons (v : Nat) (c : Char) (s : List Char) :
    valueOf 10 digitValue? v (c :: s) =
      valueOf 10 digitValue? (v * 10 + (digitValue? c).getD 0) s := rfl

theorem le_valueOf (v : Nat) (s : List Char) : v ≤ valueOf 10 digitValue? v s := by
  induction s generalizing v with
  | nil => exact Nat.le_refl v
  | cons c s ih =>
    have h := ih (v * 10 + (digitValue? c).getD 0)
    rw [valueOf_cons]
    omega

def Full (v : Nat) (s : List Char) : Prop :=
  ∀ c ∈ s.head?, ∀ d ∈ digitValue? c, wordMax < v * 10 + d

theorem full_of_not_startsWithDigit (h : startsWithDigit s = false) : Full v s := by
  cases s with
  | nil => exact fun c hc ↦ by cases hc
  | cons c s =>
    intro c' hc' d hd
    obtain rfl : c = c' := Option.some_inj.1 hc'
    rw [startsWithDigit_cons, isDigit, Option.mem_def.1 hd] at h
    cases h

theorem Full.of_head_eq (h : Full v s) (ht : t.head? = s.head?) : Full v t := by
  rw [Full, ht]
  exact h

theorem full_or_exists_digit (v : Nat) (s : List Char) :
    Full v s ∨ ∃ c d r, s = c :: r ∧ digitValue? c = some d ∧ v * 10 + d ≤ wordMax := by
  cases s with
  | nil => exact .inl (full_of_not_startsWithDigit rfl)
  | cons c s =>
    cases hc : digitValue? c with
    | none => exact .inl (full_of_not_startsWithDigit (by rw [startsWithDigit_cons, isDigit, hc]; rfl))
    | some d =>
      refine (Nat.lt_or_ge wordMax (v * 10 + d)).imp (fun hlong ↦ ?_) fun hfits ↦ ⟨c, d, s, rfl, hc, hfits⟩
      rintro c' ⟨⟩ d' hd'
      obtain rfl : d = d' := Option.some_inj.1 (hc.symm.trans hd')
      exact hlong

theorem valueOf_digit {c : Char} {d : Nat} (hd : digitValue? c = some d) (v : Nat) (s : List Char) :
    valueOf 10 digitValue? v (c :: s) = valueOf 10 digitValue? (v * 10 + d) s := by
  rw [valueOf_cons, hd, Option.getD_some]

theorem takeDigits_stop (h : Full v s) (n : Nat) : takeDigits v n s = (v, n, s) := by
  cases s with
  | nil => rfl
  | cons c s =>
    unfold takeDigits
    split
    · next d hd => rw [if_neg (Nat.not_le.2 (h c rfl d hd))]
    · rfl

theorem takeDigits_cons {c : Char} {d : Nat} (hd : digitValue? c = some d) (hfits : v * 10 + d ≤ wordMax)
    (n : Nat) (s : List Char) : takeDigits v n (c :: s) = takeDigits (v * 10 + d) (n + 1) s := by
  rw [takeDigits, hd]
  exact if_pos hfits

/-- The digits are those that fit: they take a value and a count to others, and no digit of the rest
goes on. -/
structure Taken (v n : Nat) (ds : List Char) (v' n' : Nat) (r : List Char) : Prop where
  digits : ∀ c ∈ ds, isDigit c = true
  value : v' = valueOf 10 digitValue? v ds
  count : n' = n + ds.length
  fits : ds ≠ [] → v' ≤ wordMax
  full : Full v' r

theorem taken_nil (h : Full v s) (n : Nat) : Taken v n [] v n s :=
  ⟨fun _ hc ↦ absurd hc List.not_mem_nil, rfl, rfl, absurd rfl, h⟩

theorem Taken.cons {c : Char} {d v' n' : Nat} {ds : List Char} (hd : digitValue? c = some d)
    (hfits : v * 10 + d ≤ wordMax) (h : Taken (v * 10 + d) (n + 1) ds v' n' r) :
    Taken v n (c :: ds) v' n' r where
  digits := List.forall_mem_cons.2 ⟨by rw [isDigit, hd]; rfl, h.digits⟩
  value := h.value.trans (valueOf_digit hd v ds).symm
  count := by rw [h.count, List.length_cons, Nat.add_right_comm, Nat.add_assoc]
  fits := by
    intro _
    cases ds with
    | nil => exact h.value ▸ hfits
    | cons _ _ => exact h.fits (List.cons_ne_nil _ _)
  full := h.full

theorem takeDigits_sound {v' n' : Nat} (h : takeDigits v n s = (v', n', r)) :
    ∃ ds, s = ds ++ r ∧ Taken v n ds v' n' r := by
  induction s generalizing v n with
  | nil =>
    obtain ⟨⟩ := h
    exact ⟨[], rfl, taken_nil (full_of_not_startsWithDigit rfl) _⟩
  | cons c s ih =>
    rcases full_or_exists_digit v (c :: s) with hfull | ⟨_, d, _, heq, hd, hfits⟩
    · rw [takeDigits_stop hfull] at h
      obtain ⟨⟩ := h
      exact ⟨[], rfl, taken_nil hfull _⟩
    · obtain ⟨rfl, rfl⟩ := List.cons.inj heq
      rw [takeDigits_cons hd hfits] at h
      obtain ⟨ds, rfl, hds⟩ := ih h
      exact ⟨c :: ds, rfl, hds.cons hd hfits⟩

theorem takeDigits_complete {ds : List Char} (hds : ∀ c ∈ ds, isDigit c = true)
    (hv : ds ≠ [] → valueOf 10 digitValue? v ds ≤ wordMax) (hr : Full (valueOf 10 digitValue? v ds) r) :
    takeDigits v n (ds ++ r) = (valueOf 10 digitValue? v ds, n + ds.length, r) := by
  induction ds generalizing v n with
  | nil => exact takeDigits_stop hr n
  | cons c ds ih =>
    obtain ⟨hc, hds⟩ := List.forall_mem_cons.1 hds
    obtain ⟨d, hd⟩ := Option.isSome_iff_exists.1 hc
    rw [valueOf_digit hd] at hv hr ⊢
    have hle := hv (List.cons_ne_nil c ds)
    rw [List.cons_append, takeDigits_cons hd (Nat.le_trans (le_valueOf _ ds) hle),
      ih hds (fun _ ↦ hle) hr, List.length_cons, Nat.add_right_comm, Nat.add_assoc]

theorem Taken.takeDigits_eq {ds : List Char} {v' n' : Nat} (h : Taken v n ds v' n' r)
    (ht : Full v' t) : takeDigits v n (ds ++ t) = (v', n', t) := by
  obtain ⟨hds, rfl, rfl, hv, -⟩ := h
  exact takeDigits_complete hds hv ht

theorem Taken.digits_append {ds : List Char} {v' n' : Nat} (h : Taken v n ds v' n' r) :
    ∀ c ∈ ds ++ r.takeWhile isDigit, isDigit c = true :=
  fun c hc ↦ (List.mem_append.1 hc).elim (h.digits c) (takeWhile_isDigit r c)

theorem takeDigits_append {ds : List Char} (hds : ∀ c ∈ ds, isDigit c = true)
    (hv : valueOf 10 digitValue? v ds ≤ wordMax) (hr : startsWithDigit r = false) :
    takeDigits v n (ds ++ r) = (valueOf 10 digitValue? v ds, n + ds.length, r) :=
  takeDigits_complete hds (fun _ ↦ hv) (full_of_not_startsWithDigit hr)

theorem floatOf_sound (h : floatOf negative v e s = .ok (x, r)) :
    s = r ∧ ∀ t, floatOf negative v e t = .ok (x, t) := by
  unfold floatOf at h ⊢
  split at h
  · cases h
    exact ⟨rfl, fun t ↦ rfl⟩
  · cases h

def power (e : Int) (down : Bool) (d : Nat) : Int := if down then e - d else e + d

theorem go_stop {d : Nat} (h : startsWithDigit s = false) (n : Nat) :
    readExponent.go negative v e down n d s = floatOf negative v (power e down d) s := by
  cases n with
  | zero => rfl
  | succ n =>
    cases s with
    | nil => rfl
    | cons c s =>
      have hc : digitValue? c = none := by simpa [startsWithDigit_cons, isDigit] using h
      simp only [readExponent.go, hc, power]

theorem go_sound {d : Nat} (h : readExponent.go negative v e down n d s = .ok (x, r))
    (hn : s.length ≤ n) :
    ∃ ds, s = ds ++ r ∧ (∀ c ∈ ds, isDigit c = true) ∧ ∀ t m, Stops t → (ds ++ t).length ≤ m →
      readExponent.go negative v e down m d (ds ++ t) = .ok (x, t) := by
  induction s generalizing n d with
  | nil =>
    rw [go_stop rfl] at h
    obtain ⟨rfl, hread⟩ := floatOf_sound h
    exact ⟨[], rfl, nofun, fun t m ht _ ↦ (go_stop ht.startsWithDigit m).trans (hread t)⟩
  | cons c s ih =>
    cases hc : isDigit c with
    | false =>
      rw [go_stop (startsWithDigit_cons c s ▸ hc)] at h
      obtain ⟨rfl, hread⟩ := floatOf_sound h
      exact ⟨[], rfl, nofun, fun t m ht _ ↦ (go_stop ht.startsWithDigit m).trans (hread t)⟩
    | true =>
      obtain ⟨k, hk⟩ := Option.isSome_iff_exists.1 hc
      obtain ⟨n, rfl⟩ := Nat.exists_eq_add_one.2 (Nat.zero_lt_of_lt hn)
      simp only [readExponent.go, hk] at h
      split at h
      · next hfits =>
        obtain ⟨ds, rfl, hds, hread⟩ := ih h (Nat.le_of_succ_le_succ hn)
        refine ⟨c :: ds, rfl, List.forall_mem_cons.2 ⟨hc, hds⟩, fun t m ht hm ↦ ?_⟩
        obtain ⟨m, rfl⟩ := Nat.exists_eq_add_one.2 (Nat.zero_lt_of_lt hm)
        simp only [List.cons_append, readExponent.go, hk, if_pos hfits]
        exact hread t m ht (Nat.le_of_succ_le_succ hm)
      · next hlong =>
        split at h
        · cases h
        · next hzero =>
          obtain ⟨rfl, rfl⟩ := Prod.mk.inj (Except.ok.inj h)
          refine ⟨c :: s.takeWhile isDigit, ?_,
            List.forall_mem_cons.2 ⟨hc, takeWhile_isDigit s⟩, fun t m ht hm ↦ ?_⟩
          · rw [List.cons_append, List.takeWhile_append_dropWhile]
          · obtain ⟨m, rfl⟩ := Nat.exists_eq_add_one.2 (Nat.zero_lt_of_lt hm)
            simp only [List.cons_append, readExponent.go, hk, if_neg hlong, if_neg hzero]
            rw [dropWhile_isDigit (takeWhile_isDigit s) ht.startsWithDigit]

def readPower (negative : Bool) (v : Nat) (e : Int) (down : Bool) :
    List Char → Except Fault (Binary64 × List Char)
  | [] => .error (before .endInValue [])
  | c :: r =>
    match digitValue? c with
    | none => .error (onNext .invalidNumber (c :: r))
    | some d => readExponent.go negative v e down r.length d r

theorem readExponent_plus (s : List Char) :
    readExponent negative v e ('+' :: s) = readPower negative v e false s := by
  cases s <;> rfl

theorem readExponent_minus (s : List Char) :
    readExponent negative v e ('-' :: s) = readPower negative v e true s := by
  cases s <;> rfl

theorem readExponent_unsigned (hplus : ∀ t, s ≠ '+' :: t) (hminus : ∀ t, s ≠ '-' :: t) :
    readExponent negative v e s = readPower negative v e false s := by
  cases s with
  | nil => rfl
  | cons c s =>
    unfold readExponent
    split
    next heq =>
      split at heq
      · next hc => exact absurd hc (hplus _)
      · next hc => exact absurd hc (hminus _)
      · obtain ⟨rfl, rfl⟩ := Prod.mk.inj heq
        rfl

theorem readExponent_digits {ds : List Char} (h : Digits ds) (s : List Char) :
    readExponent negative v e (ds ++ s) = readPower negative v e false (ds ++ s) := by
  obtain ⟨c, t, rfl, hc, -⟩ := h.exists_cons
  refine readExponent_unsigned (fun u hu ↦ ?_) fun u hu ↦ ?_
  · exact ne_of_isDigit hc (by decide) (List.cons.inj hu).1
  · exact ne_of_isDigit hc (by decide) (List.cons.inj hu).1

theorem readPower_sound (h : readPower negative v e down s = .ok (x, r)) :
    ∃ ds, s = ds ++ r ∧ Digits ds ∧ ReadAs (readPower negative v e down) ds x := by
  unfold readPower at h
  split at h
  · cases h
  · next c s =>
    split at h
    · cases h
    · next d hd =>
      obtain ⟨ds, rfl, hds, hread⟩ := go_sound h (Nat.le_refl _)
      have hc : isDigit c = true := by rw [isDigit, hd]; rfl
      refine ⟨c :: ds, rfl, ⟨List.cons_ne_nil c ds, List.forall_mem_cons.2 ⟨hc, hds⟩⟩, fun t ht ↦ ?_⟩
      simp only [List.cons_append, readPower, hd]
      exact hread t _ ht (Nat.le_refl _)

theorem readExponent_sound (h : readExponent negative v e s = .ok (x, r)) :
    ∃ sign ds, s = sign ++ (ds ++ r) ∧ (sign = [] ∨ sign = ['+'] ∨ sign = ['-']) ∧ Digits ds ∧
      ReadAs (readExponent negative v e) (sign ++ ds) x := by
  by_cases hplus : ∃ t, s = '+' :: t
  · obtain ⟨t, rfl⟩ := hplus
    rw [readExponent_plus] at h
    obtain ⟨ds, rfl, hds, hread⟩ := readPower_sound h
    exact ⟨['+'], ds, rfl, .inr (.inl rfl), hds, fun u hu ↦ (readExponent_plus _).trans (hread u hu)⟩
  by_cases hminus : ∃ t, s = '-' :: t
  · obtain ⟨t, rfl⟩ := hminus
    rw [readExponent_minus] at h
    obtain ⟨ds, rfl, hds, hread⟩ := readPower_sound h
    exact ⟨['-'], ds, rfl, .inr (.inr rfl), hds, fun u hu ↦ (readExponent_minus _).trans (hread u hu)⟩
  rw [readExponent_unsigned (not_exists.1 hplus) (not_exists.1 hminus)] at h
  obtain ⟨ds, rfl, hds, hread⟩ := readPower_sound h
  refine ⟨[], ds, rfl, .inl rfl, hds, fun u hu ↦ ?_⟩
  rw [List.nil_append, readExponent_digits hds, hread u hu]

theorem readScale_eq {m : Char} (hm : isExponentMark m = true) (s : List Char) :
    readScale negative v e (m :: s) = readExponent negative v e s := if_pos hm

theorem readScale_stop (h : Stops s) : readScale negative v e s = floatOf negative v e s := by
  cases s with
  | nil => rfl
  | cons c s => exact if_neg (Bool.eq_false_iff.1 h.not_isExponentMark)

theorem ne_point_of_exponent (h : Exponent s) (ht : Stops t) (u : List Char) :
    s ++ t ≠ '.' :: u := by
  rcases h with rfl | ⟨m, sign, ds, rfl, hm, -⟩
  · exact ht.head_ne (by decide) (by decide) u
  · intro heq
    rw [(List.cons.inj heq).1] at hm
    cases hm

theorem readScale_sound (h : readScale negative v e s = .ok (x, r)) :
    ∃ p, s = p ++ r ∧ Exponent p ∧ ReadAs (readScale negative v e) p x := by
  have hnone : floatOf negative v e s = .ok (x, r) →
      ∃ p, s = p ++ r ∧ Exponent p ∧ ReadAs (readScale negative v e) p x := by
    intro h
    obtain ⟨rfl, hread⟩ := floatOf_sound h
    exact ⟨[], rfl, .inl rfl, fun t ht ↦ (readScale_stop ht).trans (hread t)⟩
  cases s with
  | nil => exact hnone h
  | cons m s =>
    cases hm : isExponentMark m with
    | false => exact hnone (by rwa [readScale, hm, if_neg Bool.false_ne_true] at h)
    | true =>
      rw [readScale_eq hm] at h
      obtain ⟨sign, ds, rfl, hsign, hds, hread⟩ := readExponent_sound h
      refine ⟨m :: (sign ++ ds), by simp, .inr ⟨m, sign, ds, rfl, hm, hsign, hds⟩, fun t ht ↦ ?_⟩
      rw [List.cons_append, readScale_eq hm, hread t ht]

theorem startsWithDigit_takeWhile (s : List Char) (ht : startsWithDigit t = false) :
    startsWithDigit (s.takeWhile isDigit ++ t) = startsWithDigit s := by
  cases s with
  | nil => exact ht
  | cons c s =>
    cases hc : isDigit c with
    | true => rw [List.takeWhile_cons_of_pos hc, List.cons_append, startsWithDigit_cons, startsWithDigit_cons]
    | false =>
      rw [List.takeWhile_cons_of_neg (Bool.eq_false_iff.1 hc), startsWithDigit_cons, hc]
      exact ht

theorem Full.takeWhile_append (h : Full v s) (ht : startsWithDigit t = false) :
    Full v (s.takeWhile isDigit ++ t) := by
  cases hs : startsWithDigit s with
  | false => exact full_of_not_startsWithDigit (by rw [startsWithDigit_takeWhile s ht, hs])
  | true =>
    cases s with
    | nil => cases hs
    | cons c s =>
      have hc : isDigit c = true := hs
      exact h.of_head_eq (by rw [List.takeWhile_cons_of_pos hc]; rfl)

theorem takeWhile_isDigit_append (h : ∀ c ∈ s, isDigit c = true) (hr : startsWithDigit r = false) :
    (s ++ r).takeWhile isDigit = s := by
  rw [List.takeWhile_append_of_pos h]
  cases r with
  | nil => exact List.append_nil s
  | cons c r =>
    have hc : ¬isDigit c = true := by simpa [startsWithDigit_cons] using hr
    rw [List.takeWhile_cons_of_neg hc, List.append_nil]

theorem readFraction_of_takeDigits {v' n' : Nat} (h : takeDigits v 0 s = (v', n', r))
    (hdigit : startsWithDigit r = true ∨ n' ≠ 0) :
    readFraction negative v e s = readScale negative v' (e - n') (r.dropWhile isDigit) := by
  unfold readFraction
  rw [h]
  dsimp only
  cases hr : startsWithDigit r with
  | true => rw [if_pos rfl]
  | false =>
    have hn : n' ≠ 0 := hdigit.resolve_left (by rw [hr]; exact Bool.false_ne_true)
    rw [if_neg Bool.false_ne_true, if_neg hn, dropWhile_isDigit_eq_self hr]

theorem readFraction_sound (h : readFraction negative v e s = .ok (x, r)) :
    ∃ f p, s = f ++ (p ++ r) ∧ Digits f ∧ Exponent p ∧
      ReadAs (readFraction negative v e) (f ++ p) x := by
  obtain ⟨v', n', u, htake⟩ : ∃ v' n' u, takeDigits v 0 s = (v', n', u) := ⟨_, _, _, rfl⟩
  have hdigit : startsWithDigit u = true ∨ n' ≠ 0 := by
    unfold readFraction at h
    rw [htake] at h
    refine Classical.byContradiction fun hnone ↦ ?_
    obtain ⟨hu, hn⟩ := not_or.1 hnone
    dsimp only at h
    rw [if_neg hu, if_pos (Classical.not_not.1 hn)] at h
    cases h
  rw [readFraction_of_takeDigits htake hdigit] at h
  obtain ⟨p, hp, hexponent, hread⟩ := readScale_sound h
  obtain ⟨ds, rfl, hds⟩ := takeDigits_sound htake
  have hall := hds.digits_append
  refine ⟨ds ++ u.takeWhile isDigit, p, ?_, ⟨?_, hall⟩, hexponent, fun t ht ↦ ?_⟩
  · rw [List.append_assoc, ← hp, List.takeWhile_append_dropWhile]
  · rintro hnil
    obtain ⟨rfl, hnone⟩ := List.append_eq_nil_iff.1 hnil
    rcases hdigit with hu | hn'
    · have hu' := startsWithDigit_takeWhile u (t := []) rfl
      rw [hnone, hu] at hu'
      cases hu'
    · exact hn' hds.count
  · -- The digits that fit are the same ones, since the first that does not fit is still there.
    have hpt : startsWithDigit (p ++ t) = false := startsWithDigit_exponent hexponent ht
    have htake' := hds.takeDigits_eq (hds.full.takeWhile_append hpt)
    rw [List.append_assoc, List.append_assoc, readFraction_of_takeDigits htake'
      (startsWithDigit_takeWhile u hpt ▸ hdigit), dropWhile_isDigit (takeWhile_isDigit u) hpt]
    exact hread t ht

theorem asFloat_sound {y : Numeral} {read : Except Fault (Binary64 × List Char)}
    (h : asFloat read = .ok (y, r)) : ∃ x, read = .ok (x, r) ∧ y = .float x := by
  obtain ⟨⟨x, r'⟩, hread, heq⟩ := map_eq_ok.1 h
  obtain ⟨rfl, rfl⟩ := Prod.mk.inj heq
  exact ⟨x, hread, rfl⟩

theorem asFloat_ok (x : Binary64) (r : List Char) : asFloat (.ok (x, r)) = .ok (.float x, r) := rfl

theorem readNumberEnd_stop (h : Stops s) :
    readNumberEnd negative v s = .ok (readNumberEnd.plain negative v, s) := by
  unfold readNumberEnd
  split
  · next t => exact absurd rfl (h.head_ne (by decide) (by decide) t)
  · exact if_neg (Bool.eq_false_iff.1 h.not_isExponentMark)
  · rfl

theorem readNumberEnd_point (s : List Char) :
    readNumberEnd negative v ('.' :: s) = asFloat (readFraction negative v 0 s) := rfl

theorem readNumberEnd_mark {m : Char} (hm : isExponentMark m = true) (s : List Char) :
    readNumberEnd negative v (m :: s) = asFloat (readExponent negative v 0 s) := by
  unfold readNumberEnd
  split
  · next heq => 
    obtain ⟨rfl, rfl⟩ := List.cons.inj heq
    cases hm
  · next heq =>
    obtain ⟨rfl, rfl⟩ := List.cons.inj heq
    rw [if_pos hm]
  · next hnil => cases hnil

theorem readNumberEnd_sound {y : Numeral} (h : readNumberEnd negative v s = .ok (y, r)) :
    ∃ f p, s = f ++ (p ++ r) ∧ Fraction f ∧ Exponent p ∧
      ReadAs (readNumberEnd negative v) (f ++ p) y := by
  have hplain : (readNumberEnd.plain negative v, s) = (y, r) → ∃ f p, s = f ++ (p ++ r) ∧
      Fraction f ∧ Exponent p ∧ ReadAs (readNumberEnd negative v) (f ++ p) y := by
    rintro ⟨⟩
    exact ⟨[], [], rfl, .inl rfl, .inl rfl, fun t ht ↦ readNumberEnd_stop ht⟩
  unfold readNumberEnd at h
  split at h
  · obtain ⟨x, hx, rfl⟩ := asFloat_sound h
    obtain ⟨f, p, rfl, hf, hp, hread⟩ := readFraction_sound hx
    refine ⟨'.' :: f, p, rfl, .inr ⟨f, rfl, hf⟩, hp, fun t ht ↦ ?_⟩
    rw [List.cons_append, List.cons_append, readNumberEnd_point, hread t ht, asFloat_ok]
  · next m u hpoint =>
    split at h
    · next hm =>
      obtain ⟨x, hx, rfl⟩ := asFloat_sound h
      obtain ⟨sign, ds, rfl, hsign, hds, hread⟩ := readExponent_sound hx
      refine ⟨[], m :: (sign ++ ds), by simp, .inl rfl, .inr ⟨m, sign, ds, rfl, hm, hsign, hds⟩,
        fun t ht ↦ ?_⟩
      rw [List.nil_append, List.cons_append, readNumberEnd_mark hm, hread t ht, asFloat_ok]
    · exact hplain (Except.ok.inj h)
  · exact hplain (Except.ok.inj h)

def readLongEnd (negative : Bool) (v : Nat) (e : Int) :
    List Char → Except Fault (Numeral × List Char)
  | '.' :: r => asFloat (readFraction negative v e r)
  | s => asFloat (readScale negative v e s)

theorem readLongEnd_scale (h : ∀ t, s ≠ '.' :: t) :
    readLongEnd negative v e s = asFloat (readScale negative v e s) := by
  unfold readLongEnd
  split
  · exact absurd rfl (h _)
  · rfl

theorem readLong_eq (s : List Char) : readLong negative v s =
    readLongEnd negative v (s.takeWhile isDigit).length (s.dropWhile isDigit) := by
  unfold readLong
  dsimp only
  split
  · next heq =>
    rw [heq]
    rfl
  · next hpoint => exact (readLongEnd_scale hpoint).symm

theorem readLongEnd_sound {y : Numeral} (h : readLongEnd negative v e s = .ok (y, r)) :
    ∃ f p, s = f ++ (p ++ r) ∧ Fraction f ∧ Exponent p ∧
      ReadAs (readLongEnd negative v e) (f ++ p) y := by
  unfold readLongEnd at h
  split at h
  · obtain ⟨x, hx, rfl⟩ := asFloat_sound h
    obtain ⟨f, p, rfl, hf, hp, hread⟩ := readFraction_sound hx
    refine ⟨'.' :: f, p, rfl, .inr ⟨f, rfl, hf⟩, hp, fun t ht ↦ ?_⟩
    rw [List.cons_append, List.cons_append, readLongEnd, hread t ht, asFloat_ok]
  · next hpoint =>
    obtain ⟨x, hx, rfl⟩ := asFloat_sound h
    obtain ⟨p, rfl, hp, hread⟩ := readScale_sound hx
    refine ⟨[], p, rfl, .inl rfl, hp, fun t ht ↦ ?_⟩
    rw [List.nil_append, readLongEnd_scale (ne_point_of_exponent hp ht), hread t ht, asFloat_ok]

def readBeyond (negative : Bool) (v : Nat) (s : List Char) : Except Fault (Numeral × List Char) :=
  if startsWithDigit s then readLong negative v s else readNumberEnd negative v s

theorem readBeyond_sound {y : Numeral} (h : readBeyond negative v s = .ok (y, r)) :
    ∃ f p, s = s.takeWhile isDigit ++ (f ++ (p ++ r)) ∧ Fraction f ∧ Exponent p ∧
      ReadAs (readBeyond negative v) (s.takeWhile isDigit ++ (f ++ p)) y := by
  unfold readBeyond at h
  cases hs : startsWithDigit s with
  | true =>
    rw [hs, if_pos rfl, readLong_eq] at h
    obtain ⟨f, p, hdrop, hf, hp, hread⟩ := readLongEnd_sound h
    refine ⟨f, p, by rw [← hdrop, List.takeWhile_append_dropWhile], hf, hp, fun t ht ↦ ?_⟩
    have hstart : startsWithDigit (f ++ p ++ t) = false := by
      rw [List.append_assoc]
      exact startsWithDigit_fraction hf hp ht
    rw [List.append_assoc, readBeyond, startsWithDigit_takeWhile s hstart, hs, if_pos rfl, readLong_eq,
      takeWhile_isDigit_append (takeWhile_isDigit s) hstart,
      dropWhile_isDigit (takeWhile_isDigit s) hstart, hread t ht]
  | false =>
    rw [hs, if_neg Bool.false_ne_true] at h
    obtain ⟨f, p, rfl, hf, hp, hread⟩ := readNumberEnd_sound h
    have hnil : (f ++ (p ++ r)).takeWhile isDigit = [] :=
      takeWhile_isDigit_append (s := []) (by simp) hs
    rw [hnil]
    refine ⟨f, p, rfl, hf, hp, fun t ht ↦ ?_⟩
    have hstart := startsWithDigit_fraction hf hp ht
    rw [List.nil_append, readBeyond, List.append_assoc, hstart, if_neg Bool.false_ne_true,
      ← List.append_assoc, hread t ht]

theorem readNumber_of_takeDigits {c : Char} {v' n' : Nat} (hc : isDigit c = true) (hzero : c ≠ '0')
    (h : takeDigits 0 0 (c :: s) = (v', n', r)) :
    readNumber negative (c :: s) = readBeyond negative v' r := by
  unfold readNumber
  split
  · next hnil => cases hnil
  · next heq => exact absurd (List.cons.inj heq).1 hzero
  · next heq =>
    obtain ⟨rfl, rfl⟩ := List.cons.inj heq
    rw [if_pos hc, h]
    rfl

theorem readNumber_zero (h : startsWithDigit s = false) :
    readNumber negative ('0' :: s) = readNumberEnd negative 0 s := by
  rw [readNumber, h]
  rfl

theorem readNumber_digit {c : Char} {y : Numeral} (h : readNumber negative (c :: s) = .ok (y, r)) :
    isDigit c = true ∧ (c = '0' → startsWithDigit s = false) := by
  unfold readNumber at h
  split at h
  · cases h
  · next heq =>
    obtain ⟨rfl, rfl⟩ := List.cons.inj heq
    split at h
    · cases h
    · next hs => exact ⟨rfl, fun _ ↦ Bool.eq_false_iff.2 hs⟩
  · next hzero heq =>
    obtain ⟨rfl, rfl⟩ := List.cons.inj heq
    split at h
    · next hc => exact ⟨hc, fun h ↦ absurd h hzero⟩
    · cases h

theorem readNumber_sound {y : Numeral} (h : readNumber negative s = .ok (y, r)) :
    ∃ w, s = w ++ r ∧ Unsigned w ∧ ReadAs (readNumber negative) w y := by
  obtain _ | ⟨c, s⟩ := s
  · cases h
  obtain ⟨hc, hs⟩ := readNumber_digit h
  by_cases hzero : c = '0'
  · subst hzero
    rw [readNumber_zero (hs rfl)] at h
    obtain ⟨f, p, rfl, hf, hp, hread⟩ := readNumberEnd_sound h
    refine ⟨'0' :: (f ++ p), by simp, ⟨['0'], f, p, rfl, whole_zero, hf, hp⟩, fun t ht ↦ ?_⟩
    have hstart := startsWithDigit_fraction hf hp ht
    rw [← List.append_assoc] at hstart
    rw [List.cons_append, readNumber_zero hstart, hread t ht]
  · obtain ⟨v, n, u, htake⟩ : ∃ v n u, takeDigits 0 0 (c :: s) = (v, n, u) := ⟨_, _, _, rfl⟩
    rw [readNumber_of_takeDigits hc hzero htake] at h
    obtain ⟨f, p, hu, hf, hp, hread⟩ := readBeyond_sound h
    obtain ⟨ds, htext, hds⟩ := takeDigits_sound htake
    have hall := hds.digits_append
    obtain ⟨k, hk⟩ : ∃ k, ds ++ u.takeWhile isDigit = c :: k := by
      cases ds with
      | nil =>
        refine ⟨s.takeWhile isDigit, ?_⟩
        rw [List.nil_append, ← List.nil_append u, ← htext, List.takeWhile_cons_of_pos hc]
      | cons d ds => exact ⟨ds ++ u.takeWhile isDigit, by rw [(List.cons.inj htext).1]; rfl⟩
    refine ⟨ds ++ u.takeWhile isDigit ++ (f ++ p), ?_, ⟨_, f, p, rfl, ⟨⟨?_, hall⟩, ?_⟩, hf, hp⟩,
      fun t ht ↦ ?_⟩
    · simp only [List.append_assoc]
      rw [← hu, ← htext]
    · rw [hk]
      exact List.cons_ne_nil c k
    · rw [hk]
      exact fun r hr ↦ absurd (List.cons.inj hr).1 hzero
    · have htake' := hds.takeDigits_eq
        (hds.full.takeWhile_append (startsWithDigit_fraction hf hp ht))
      rw [← List.append_assoc, hk, List.cons_append] at htake'
      have hread := hread t ht
      simp only [hk, List.append_assoc, List.cons_append] at hread ⊢
      rw [readNumber_of_takeDigits hc hzero htake', hread]

/-- A number with its sign, and what it is read as. -/
inductive Signed : List Char → Numeral → Prop
  | unsigned {w : List Char} {y : Numeral} :
    Unsigned w → ReadAs (readNumber false) w y → Signed w y
  | negative {w : List Char} {y : Numeral} :
    Unsigned w → ReadAs (readNumber true) w y → Signed ('-' :: w) y

theorem Signed.form {y : Numeral} (h : Signed w y) : Form w := by
  cases h with
  | unsigned h _ => exact .unsigned h
  | negative h _ => exact .negative h

theorem asFloat_ne_whole {read : Except Fault (Binary64 × List Char)} {n : Int} :
    asFloat read ≠ .ok (.whole n, r) := by
  intro h
  obtain ⟨x, -, hx⟩ := asFloat_sound h
  cases hx

theorem readNumberEnd_whole {n : Int} (h : readNumberEnd negative v s = .ok (.whole n, r)) :
    readNumberEnd.plain negative v = .whole n ∧ s = r := by
  unfold readNumberEnd at h
  split at h
  · exact absurd h asFloat_ne_whole
  · split at h
    · exact absurd h asFloat_ne_whole
    · exact Prod.mk.inj (Except.ok.inj h)
  · exact Prod.mk.inj (Except.ok.inj h)

theorem readBeyond_whole {n : Int} (h : readBeyond negative v s = .ok (.whole n, r)) :
    readNumberEnd.plain negative v = .whole n ∧ s = r ∧ startsWithDigit s = false := by
  unfold readBeyond at h
  split at h
  · rw [readLong_eq] at h
    unfold readLongEnd at h
    split at h
    · exact absurd h asFloat_ne_whole
    · exact absurd h asFloat_ne_whole
  · next hs =>
    obtain ⟨hplain, rfl⟩ := readNumberEnd_whole h
    exact ⟨hplain, rfl, Bool.eq_false_iff.2 hs⟩

theorem readNumber_whole {n : Int} (h : readNumber negative s = .ok (.whole n, r)) :
    ∃ w, s = w ++ r ∧ Whole w ∧ readNumberEnd.plain negative (decimalValue w) = .whole n := by
  obtain _ | ⟨c, s⟩ := s
  · cases h
  obtain ⟨hc, hs⟩ := readNumber_digit h
  by_cases hzero : c = '0'
  · subst hzero
    rw [readNumber_zero (hs rfl)] at h
    obtain ⟨hplain, rfl⟩ := readNumberEnd_whole h
    exact ⟨['0'], rfl, whole_zero, hplain⟩
  · obtain ⟨v, m, u, htake⟩ : ∃ v m u, takeDigits 0 0 (c :: s) = (v, m, u) := ⟨_, _, _, rfl⟩
    rw [readNumber_of_takeDigits hc hzero htake] at h
    obtain ⟨hplain, rfl, hu⟩ := readBeyond_whole h
    obtain ⟨ds, hds, hall, rfl, -, -, -⟩ := takeDigits_sound htake
    cases ds with
    | nil =>
      rw [← hds.trans (List.nil_append u), startsWithDigit_cons, hc] at hu
      cases hu
    | cons d ds =>
      obtain ⟨rfl, rfl⟩ := List.cons.inj hds
      refine ⟨c :: ds, rfl, ⟨⟨List.cons_ne_nil c ds, hall⟩, fun u hu ↦ ?_⟩, hplain⟩
      exact absurd (List.cons.inj hu).1 hzero

theorem readNumber_append (negative : Bool) (hw : Whole w) (hv : decimalValue w ≤ wordMax)
    (hr : startsWithDigit r = false) :
    readNumber negative (w ++ r) = readNumberEnd negative (decimalValue w) r := by
  obtain ⟨hdigits, hzero⟩ := hw
  obtain ⟨c, t, rfl, hc, ht⟩ := hdigits.exists_cons
  by_cases hc' : c = '0'
  · subst hc'
    obtain rfl := hzero t rfl
    exact readNumber_zero hr
  · have htake := takeDigits_append (n := 0) hdigits.2 hv hr
    rw [List.cons_append] at htake ⊢
    rw [readNumber_of_takeDigits hc hc' htake, readBeyond, hr, if_neg Bool.false_ne_true]
    rfl

theorem readAs_whole (negative : Bool) (hw : Whole w) (hv : decimalValue w ≤ wordMax) :
    ReadAs (readNumber negative) w (readNumberEnd.plain negative (decimalValue w)) := by
  intro r hr
  rw [readNumber_append negative hw hv hr.startsWithDigit, readNumberEnd_stop hr]

theorem Whole.unsigned (h : Whole w) : Unsigned w := ⟨w, [], [], by simp, h, .inl rfl, .inl rfl⟩

theorem Whole.form (h : Whole w) : Form w := .unsigned h.unsigned

theorem Whole.exists_cons (h : Whole w) : ∃ c t, w = c :: t ∧ isDigit c = true := by
  obtain ⟨c, t, rfl, hc, -⟩ := h.1.exists_cons
  exact ⟨c, t, rfl, hc⟩

theorem plain_eq_whole {n : Int} : readNumberEnd.plain negative v = .whole n ↔
    (negative = false ∧ n = v) ∨ (negative = true ∧ 0 < v ∧ v ≤ Number.twoTo 63 ∧ n = -v) := by
  unfold readNumberEnd.plain
  cases negative with
  | false =>
    rw [if_pos (by decide), Numeral.whole.injEq]
    simp [eq_comm]
  | true =>
    rw [if_neg (by decide)]
    split
    · next hv =>
      refine iff_of_false (fun h ↦ by cases h) ?_
      rintro (⟨h, -⟩ | ⟨-, hpos, hle, -⟩)
      · cases h
      · omega
    · next hv =>
      rw [Numeral.whole.injEq]
      constructor
      · intro hn
        exact .inr ⟨rfl, by omega, by omega, hn.symm⟩
      · rintro (⟨h, -⟩ | ⟨-, -, -, hn⟩)
        · cases h
        · exact hn.symm

def Integer (low high : Int) (w : List Char) (n : Int) : Prop :=
  low ≤ n ∧ n ≤ high ∧
    ((Whole w ∧ n = decimalValue w) ∨ ∃ u, w = '-' :: u ∧ Whole u ∧ n = -decimalValue u ∧ n < 0)

theorem signed_integer {low high n : Int} (hlow : -Number.twoTo 63 ≤ low) (hhigh : high ≤ wordMax) :
    Signed w (.whole n) ∧ low ≤ n ∧ n ≤ high ↔ Integer low high w n := by
  have hstop : Stops [] := gap_nil.stops
  have hword : Number.twoTo 63 ≤ wordMax := by decide
  constructor
  · rintro ⟨hw, hle, hge⟩
    refine ⟨hle, hge, ?_⟩
    cases hw with
    | unsigned hw hread =>
      obtain ⟨w', hw', hwhole, hplain⟩ := readNumber_whole (hread [] hstop)
      obtain rfl := List.append_cancel_right hw'
      obtain ⟨-, rfl⟩ | ⟨hneg, -⟩ := plain_eq_whole.1 hplain
      · exact .inl ⟨hwhole, rfl⟩
      · cases hneg
    | @negative w _ hw hread =>
      obtain ⟨w', hw', hwhole, hplain⟩ := readNumber_whole (hread [] hstop)
      obtain rfl := List.append_cancel_right hw'
      obtain ⟨hneg, -⟩ | ⟨-, hpos, -, rfl⟩ := plain_eq_whole.1 hplain
      · cases hneg
      · exact .inr ⟨w, rfl, hwhole, rfl, by omega⟩
  · rintro ⟨hle, hge, ⟨hw, rfl⟩ | ⟨u, rfl, hu, rfl, hneg⟩⟩
    · have hread := readAs_whole false hw (by omega)
      rw [plain_eq_whole.2 (.inl ⟨rfl, rfl⟩)] at hread
      exact ⟨.unsigned hw.unsigned hread, hle, hge⟩
    · have hread := readAs_whole true hu (by omega)
      rw [plain_eq_whole.2 (.inr ⟨rfl, by omega, by omega, rfl⟩)] at hread
      exact ⟨.negative hu.unsigned hread, hle, hge⟩

def Natural (bound : Nat) (w : List Char) (n : Nat) : Prop :=
  Whole w ∧ decimalValue w = n ∧ n ≤ bound

end ScriptEnv.Json
