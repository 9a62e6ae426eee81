import ScriptEnv.Failure
import ScriptEnv.Proofs.Json.Grammar

namespace ScriptEnv.Json

open Number (isDigit)

variable {s r w : List Char}

theorem takeWhile_isDigit (s : List Char) : ∀ c ∈ s.takeWhile isDigit, isDigit c = true :=
  fun c hc ↦ List.all_eq_true.1 List.all_takeWhile c hc

theorem ne_of_isDigit {c d : Char} (hc : isDigit c = true) (hd : isDigit d = false) : c ≠ d := by
  rintro rfl
  rw [hc] at hd
  cases hd

theorem digits_cons {c : Char} (hc : isDigit c = true) (s : List Char) :
    Digits (c :: s.takeWhile isDigit) :=
  ⟨List.cons_ne_nil c _, List.forall_mem_cons.2 ⟨hc, takeWhile_isDigit s⟩⟩

theorem Digits.exists_cons (h : Digits s) :
    ∃ c t, s = c :: t ∧ isDigit c = true ∧ ∀ c ∈ t, isDigit c = true := by
  obtain ⟨c, t, rfl⟩ := List.exists_cons_of_ne_nil h.1
  obtain ⟨hc, ht⟩ := List.forall_mem_cons.1 h.2
  exact ⟨c, t, rfl, hc, ht⟩

theorem startsWithDigit_cons (c : Char) (s : List Char) : startsWithDigit (c :: s) = isDigit c := rfl

theorem Stops.startsWithDigit (h : Stops r) : startsWithDigit r = false := by
  cases r with
  | nil => rfl
  | cons c r => exact h.not_isDigit

theorem dropWhile_isDigit (h : ∀ c ∈ s, isDigit c = true) (hr : startsWithDigit r = false) :
    (s ++ r).dropWhile isDigit = r := by
  rw [List.dropWhile_append_of_pos h]
  cases r with
  | nil => rfl
  | cons c r => exact List.dropWhile_cons_of_neg (by simpa [startsWithDigit_cons] using hr)

theorem dropWhile_isDigit_eq_self (hr : startsWithDigit r = false) : r.dropWhile isDigit = r :=
  dropWhile_isDigit (s := []) (fun _ hc ↦ absurd hc List.not_mem_nil) hr

theorem digits_of_skip (h : (match s with
      | [] => .error (before .invalidNumber [])
      | c :: t => if isDigit c then .ok (skipDigits t)
        else .error (onNext .invalidNumber (c :: t)) : Except Fault (List Char)) = .ok r) :
    ∃ ds, s = ds ++ r ∧ Digits ds := by
  split at h
  · cases h
  · next c t =>
    split at h
    · next hc =>
      cases h
      refine ⟨c :: t.takeWhile isDigit, ?_, digits_cons hc t⟩
      rw [List.cons_append, skipDigits, List.takeWhile_append_dropWhile]
    · cases h

theorem skipExponent_sound (h : skipExponent s = .ok r) :
    ∃ sign ds, s = sign ++ (ds ++ r) ∧ (sign = [] ∨ sign = ['+'] ∨ sign = ['-']) ∧ Digits ds := by
  unfold skipExponent at h
  split at h
  · obtain ⟨ds, rfl, hds⟩ := digits_of_skip h
    exact ⟨['+'], ds, rfl, .inr (.inl rfl), hds⟩
  · obtain ⟨ds, rfl, hds⟩ := digits_of_skip h
    exact ⟨['-'], ds, rfl, .inr (.inr rfl), hds⟩
  · obtain ⟨ds, rfl, hds⟩ := digits_of_skip h
    exact ⟨[], ds, rfl, .inl rfl, hds⟩

theorem skipScale_sound (h : skipScale s = .ok r) : ∃ e, s = e ++ r ∧ Exponent e := by
  unfold skipScale at h
  split at h
  · cases h
    exact ⟨[], rfl, .inl rfl⟩
  · next c t =>
    split at h
    · next hmark =>
      obtain ⟨sign, ds, rfl, hsign, hds⟩ := skipExponent_sound h
      refine ⟨c :: (sign ++ ds), ?_, .inr ⟨c, sign, ds, rfl, hmark, hsign, hds⟩⟩
      rw [List.cons_append, List.append_assoc]
    · cases h
      exact ⟨[], rfl, .inl rfl⟩

theorem skipNumberEnd_sound (h : skipNumberEnd s = .ok r) :
    ∃ f e, s = f ++ (e ++ r) ∧ Fraction f ∧ Exponent e := by
  unfold skipNumberEnd at h
  split at h
  · next t =>
    split at h
    · next hdigit =>
      obtain ⟨e, he, hexponent⟩ := skipScale_sound h
      have hds : Digits (t.takeWhile isDigit) := by
        cases t with
        | nil => cases hdigit
        | cons c t =>
          have hc : isDigit c = true := hdigit
          rw [List.takeWhile_cons_of_pos hc]
          exact digits_cons hc t
      refine ⟨'.' :: t.takeWhile isDigit, e, ?_, .inr ⟨_, rfl, hds⟩, hexponent⟩
      rw [← he, List.cons_append, skipDigits, List.takeWhile_append_dropWhile]
    · cases h
  · obtain ⟨e, rfl, hexponent⟩ := skipScale_sound h
    exact ⟨[], e, rfl, .inl rfl, hexponent⟩

theorem whole_zero : Whole ['0'] := by
  refine ⟨⟨List.cons_ne_nil _ _, ?_⟩, ?_⟩
  · intro c hc
    rw [List.mem_singleton.1 hc]
    decide
  · intro t ht
    exact (List.cons.inj ht).2.symm

theorem skipNumber_sound (h : skipNumber s = .ok r) : ∃ w, s = w ++ r ∧ Unsigned w := by
  unfold skipNumber at h
  split at h
  · cases h
  · split at h
    · cases h
    · obtain ⟨f, e, rfl, hf, he⟩ := skipNumberEnd_sound h
      exact ⟨'0' :: (f ++ e), by simp, ['0'], f, e, rfl, whole_zero, hf, he⟩
  · next c t hzero =>
    split at h
    · next hc =>
      obtain ⟨f, e, ht, hf, he⟩ := skipNumberEnd_sound h
      have hwhole : Whole (c :: t.takeWhile isDigit) := by
        refine ⟨digits_cons hc t, ?_⟩
        intro u hu
        exact absurd (List.cons.inj hu).1 hzero
      refine ⟨c :: t.takeWhile isDigit ++ (f ++ e), ?_, _, f, e, rfl, hwhole, hf, he⟩
      rw [List.append_assoc, List.append_assoc, ← ht, List.cons_append, skipDigits,
        List.takeWhile_append_dropWhile]
    · cases h

theorem Stops.head_ne (h : Stops r) {c : Char} (hspace : isSpace c = false)
    (hc : c ≠ ',' ∧ c ≠ ']' ∧ c ≠ '\x7d') (t : List Char) : r ≠ c :: t := by
  rintro rfl
  rcases h c rfl with hs | rfl | rfl | rfl
  · rw [hspace] at hs
    cases hs
  · exact hc.1 rfl
  · exact hc.2.1 rfl
  · exact hc.2.2 rfl

theorem Stops.not_isExponentMark {c : Char} (h : Stops (c :: r)) : isExponentMark c = false := by
  cases hmark : isExponentMark c with
  | false => rfl
  | true =>
    simp only [isExponentMark, Bool.or_eq_true, decide_eq_true_eq] at hmark
    rcases hmark with rfl | rfl
    · exact absurd rfl (h.head_ne (by decide) (by decide) r)
    · exact absurd rfl (h.head_ne (by decide) (by decide) r)

theorem skipExponent_complete {sign ds : List Char} (hsign : sign = [] ∨ sign = ['+'] ∨ sign = ['-'])
    (hds : Digits ds) (hr : startsWithDigit r = false) :
    skipExponent (sign ++ (ds ++ r)) = .ok r := by
  obtain ⟨c, t, rfl, hc, ht⟩ := hds.exists_cons
  have hend : (if isDigit c then .ok (skipDigits (t ++ r))
      else .error (onNext .invalidNumber (c :: (t ++ r))) : Except Fault (List Char)) = .ok r := by
    rw [if_pos hc, skipDigits, dropWhile_isDigit ht hr]
  rcases hsign with rfl | rfl | rfl
  · have hplus : c ≠ '+' := ne_of_isDigit hc (by decide)
    have hminus : c ≠ '-' := ne_of_isDigit hc (by decide)
    rw [List.nil_append, List.cons_append]
    unfold skipExponent
    simp only [hplus, hminus, List.cons.injEq, false_and, imp_self, implies_true]
    exact hend
  · exact hend
  · exact hend

theorem skipScale_complete {e : List Char} (he : Exponent e) (hr : Stops r) :
    skipScale (e ++ r) = .ok r := by
  rcases he with rfl | ⟨m, sign, ds, rfl, hmark, hsign, hds⟩
  · cases r with
    | nil => rfl
    | cons c r =>
      rw [List.nil_append, skipScale, hr.not_isExponentMark, if_neg Bool.false_ne_true]
  · rw [List.cons_append, List.append_assoc, skipScale, if_pos hmark,
      skipExponent_complete hsign hds hr.startsWithDigit]

theorem startsWithDigit_exponent {e : List Char} (he : Exponent e) (hr : Stops r) :
    startsWithDigit (e ++ r) = false := by
  rcases he with rfl | ⟨m, sign, ds, rfl, hmark, -, -⟩
  · exact hr.startsWithDigit
  · change isDigit m = false
    simp only [isExponentMark, Bool.or_eq_true, decide_eq_true_eq] at hmark
    rcases hmark with rfl | rfl <;> decide

theorem skipNumberEnd_complete {f e : List Char} (hf : Fraction f) (he : Exponent e) (hr : Stops r) :
    skipNumberEnd (f ++ (e ++ r)) = .ok r := by
  rcases hf with rfl | ⟨ds, rfl, hds⟩
  · unfold skipNumberEnd
    split
    · next t hpoint =>
      rcases he with rfl | ⟨m, sign, ds, rfl, hmark, -, -⟩
      · exact absurd hpoint (hr.head_ne (by decide) (by decide) t)
      · rw [(List.cons.inj hpoint).1] at hmark
        exact absurd hmark (by decide)
    · exact skipScale_complete he hr
  · obtain ⟨c, t, rfl, hc, ht⟩ := hds.exists_cons
    change (if isDigit c then skipScale (skipDigits (c :: t ++ (e ++ r))) else _) = _
    rw [if_pos hc, skipDigits, dropWhile_isDigit hds.2 (startsWithDigit_exponent he hr),
      skipScale_complete he hr]

theorem startsWithDigit_fraction {f e : List Char} (hf : Fraction f) (he : Exponent e)
    (hr : Stops r) : startsWithDigit (f ++ (e ++ r)) = false := by
  rcases hf with hnil | ⟨ds, hpoint, -⟩
  · rw [hnil, List.nil_append, startsWithDigit_exponent he hr]
  · rw [hpoint, List.cons_append, startsWithDigit_cons]
    decide

theorem skipNumber_complete (h : Unsigned w) (hr : Stops r) : skipNumber (w ++ r) = .ok r := by
  obtain ⟨w, f, e, rfl, ⟨hdigits, hzero⟩, hf, he⟩ := h
  obtain ⟨c, t, rfl, hc, ht⟩ := hdigits.exists_cons
  have hend := startsWithDigit_fraction hf he hr
  rw [List.append_assoc, List.append_assoc, List.cons_append]
  unfold skipNumber
  split
  · next hnil => cases hnil
  · next u hcons =>
    obtain ⟨rfl, rfl⟩ := List.cons.inj hcons
    obtain rfl := hzero t rfl
    rw [List.nil_append, hend, if_neg Bool.false_ne_true, skipNumberEnd_complete hf he hr]
  · next hcons =>
    obtain ⟨rfl, rfl⟩ := List.cons.inj hcons
    rw [if_pos hc, skipDigits, dropWhile_isDigit ht hend, skipNumberEnd_complete hf he hr]

end ScriptEnv.Json
