import ScriptEnv.Failure
import ScriptEnv.Proofs.Json.Grammar

namespace ScriptEnv.Json

variable {s r : List Char}

theorem readWord_eq_ok {w : List Char} : readWord w s = .ok r ↔ s = w ++ r := by
  induction w generalizing s with
  | nil => simp [readWord]
  | cons c w ih =>
    cases s with
    | nil => simp [readWord]
    | cons d s =>
      unfold readWord
      by_cases hc : d = c
      · subst hc
        simp [ih]
      · simp [hc]

theorem readFourHex_eq_ok {n : Nat} :
    readFourHex s = .ok (n, r) ↔ ∃ a b c d, s = a :: b :: c :: d :: r ∧ fourHex? a b c d = some n := by
  constructor
  · intro h
    unfold readFourHex at h
    split at h
    · cases h
    · dsimp only at h
      split at h
      · next a b c d r' _ =>
        split at h
        · next m hm =>
          cases h
          exact ⟨a, b, c, d, rfl, hm⟩
        · cases h
      · cases h
  · rintro ⟨a, b, c, d, rfl, hn⟩
    have hlong : ¬Text.byteCount (a :: b :: c :: d :: r) < 4 := by
      have hlength := Text.length_le_byteCount (a :: b :: c :: d :: r)
      simp only [List.length_cons] at hlength
      omega
    unfold readFourHex
    rw [if_neg hlong]
    dsimp only
    rw [hn]

theorem readUnicodeEscape_sound {c : Char} (h : readUnicodeEscape s = .ok (c, r)) :
    ∃ w, s = w ++ r ∧ Unicode w c := by
  unfold readUnicodeEscape at h
  obtain ⟨⟨n, rest⟩, hread, hrest⟩ := bind_eq_ok.1 h
  obtain ⟨a, b, c₁, d, rfl, hn⟩ := readFourHex_eq_ok.1 hread
  dsimp only at hrest
  split at hrest
  · cases hrest
  · next hlow =>
    split at hrest
    · next hother =>
      cases hrest
      refine ⟨_, rfl, .single hn hlow ?_⟩
      rintro ⟨hge, hle⟩
      omega
    · next hhigh =>
      have hhigh : IsHigh n := ⟨by omega, by omega⟩
      split at hrest
      · cases hrest
      · cases hrest
      · obtain ⟨⟨m, rest⟩, hread', hend⟩ := bind_eq_ok.1 hrest
        obtain ⟨a', b', c', d', rfl, hm⟩ := readFourHex_eq_ok.1 hread'
        dsimp only at hend
        split at hend
        · cases hend
        · next hlow' =>
          obtain ⟨rfl, rfl⟩ := Prod.mk.inj (Except.ok.inj hend)
          have hlow' : IsLow m := ⟨by omega, by omega⟩
          exact ⟨[a, b, c₁, d, '\\', 'u', a', b', c', d'], rfl, .pair hn hhigh hm hlow'⟩
      · cases hrest
      · cases hrest

theorem readUnicodeEscape_complete {w : List Char} {c : Char} (h : Unicode w c) (r : List Char) :
    readUnicodeEscape (w ++ r) = .ok (c, r) := by
  have hread : ∀ {a b c d n} {r : List Char}, fourHex? a b c d = some n →
      readFourHex (a :: b :: c :: d :: r) = .ok (n, r) :=
    fun h ↦ readFourHex_eq_ok.2 ⟨_, _, _, _, rfl, h⟩
  unfold readUnicodeEscape
  cases h with
  | single hn hlow hhigh =>
    simp only [List.cons_append, List.nil_append, hread hn, bind, Except.bind]
    unfold IsLow at hlow
    unfold IsHigh at hhigh
    rw [if_neg hlow, if_pos (by omega)]
  | pair hn hhigh hm hlow =>
    simp only [List.cons_append, List.nil_append, hread hn, bind, Except.bind]
    unfold IsHigh at hhigh
    unfold IsLow at hlow
    rw [if_neg (by omega), if_neg (by omega)]
    simp only [hread hm]
    rw [if_neg (by omega)]
    rfl

theorem simpleEscape?_u : simpleEscape? 'u' = none := by decide

theorem readEscape_sound {c : Char} (h : readEscape s = .ok (c, r)) :
    (∃ w, s = 'u' :: (w ++ r) ∧ Unicode w c) ∨ ∃ d, s = d :: r ∧ simpleEscape? d = some c := by
  unfold readEscape at h
  split at h
  · cases h
  · obtain ⟨w, rfl, hw⟩ := readUnicodeEscape_sound h
    exact .inl ⟨w, rfl, hw⟩
  · split at h
    · next hd =>
      cases h
      exact .inr ⟨_, rfl, hd⟩
    · cases h

theorem readEscape_unicode {w : List Char} {c : Char} (h : Unicode w c) (r : List Char) :
    readEscape ('u' :: (w ++ r)) = .ok (c, r) :=
  readUnicodeEscape_complete h r

theorem readEscape_simple {c d : Char} (h : simpleEscape? c = some d) (r : List Char) :
    readEscape (c :: r) = .ok (d, r) := by
  unfold readEscape
  split
  · next hnil => cases hnil
  · next hu =>
    obtain ⟨rfl, -⟩ := List.cons.inj hu
    rw [simpleEscape?_u] at h
    cases h
  · next hcons =>
    obtain ⟨rfl, rfl⟩ := List.cons.inj hcons
    rw [h]

theorem readChars_sound {n : Nat} {t : List Char} (h : readChars n s = .ok (t, r)) :
    ∃ body, s = body ++ '"' :: r ∧ Spelled body t := by
  induction n generalizing s t with
  | zero => cases h
  | succ n ih =>
    cases s with
    | nil => cases h
    | cons c s =>
      unfold readChars at h
      split at h
      · next hquote =>
        cases h
        exact ⟨[], by rw [hquote]; rfl, .nil⟩
      · next hquote =>
        split at h
        · next hescape =>
          obtain ⟨⟨d, s'⟩, hd, hrest⟩ := bind_eq_ok.1 h
          obtain ⟨⟨ds, r'⟩, hds, hend⟩ := bind_eq_ok.1 hrest
          cases hend
          obtain ⟨body, rfl, hbody⟩ := ih hds
          rcases readEscape_sound hd with ⟨w, rfl, hw⟩ | ⟨e, rfl, he⟩
          · refine ⟨'\\' :: 'u' :: (w ++ body), ?_, .unicode hw hbody⟩
            rw [hescape, List.cons_append, List.cons_append, List.append_assoc]
          · exact ⟨'\\' :: e :: body, by rw [hescape]; rfl, .simple he hbody⟩
        · next hescape =>
          split at h
          · cases h
          · next hcontrol =>
            obtain ⟨⟨ds, r'⟩, hds, hend⟩ := bind_eq_ok.1 h
            cases hend
            obtain ⟨body, rfl, hbody⟩ := ih hds
            exact ⟨c :: body, rfl, .plain hquote hescape hcontrol hbody⟩

theorem readChars_complete {body t : List Char} (h : Spelled body t) (r : List Char) {n : Nat}
    (hn : body.length < n) : readChars n (body ++ '"' :: r) = .ok (t, r) := by
  induction h generalizing n with
  | nil =>
    obtain ⟨m, rfl⟩ := Nat.exists_eq_add_one.2 (Nat.zero_lt_of_lt hn)
    rfl
  | plain hquote hescape hcontrol _ ih =>
    obtain ⟨m, rfl⟩ := Nat.exists_eq_add_one.2 (Nat.zero_lt_of_lt hn)
    rw [List.cons_append, readChars, if_neg hquote, if_neg hescape, if_neg hcontrol,
      ih (Nat.lt_of_succ_lt_succ hn)]
    rfl
  | simple he _ ih =>
    obtain ⟨m, rfl⟩ := Nat.exists_eq_add_one.2 (Nat.zero_lt_of_lt hn)
    simp only [List.length_cons] at hn
    rw [List.cons_append, List.cons_append, readChars, if_neg (by decide), if_pos rfl]
    exact bind_eq_ok.2 ⟨_, readEscape_simple he _, bind_eq_ok.2 ⟨_, ih (by omega), rfl⟩⟩
  | unicode hw _ ih =>
    obtain ⟨m, rfl⟩ := Nat.exists_eq_add_one.2 (Nat.zero_lt_of_lt hn)
    simp only [List.length_append, List.length_cons] at hn
    rw [List.cons_append, List.cons_append, List.append_assoc, readChars, if_neg (by decide),
      if_pos rfl]
    exact bind_eq_ok.2 ⟨_, readEscape_unicode hw _, bind_eq_ok.2 ⟨_, ih (by omega), rfl⟩⟩

theorem readString_sound {t : String} (h : readString s = .ok (t, r)) :
    ∃ body, s = body ++ '"' :: r ∧ Spelled body t.toList := by
  obtain ⟨⟨cs, r'⟩, hcs, hend⟩ := bind_eq_ok.1 h
  cases hend
  rw [String.toList_ofList]
  exact readChars_sound hcs

theorem readString_complete {body : List Char} {t : String} (h : Spelled body t.toList)
    (r : List Char) : readString (body ++ '"' :: r) = .ok (t, r) := by
  unfold readString
  rw [readChars_complete h r (by simp only [List.length_append, List.length_cons]; omega)]
  change Except.ok (String.ofList t.toList, r) = _
  rw [String.ofList_toList]

theorem Unicode.body {w body : List Char} {c : Char} (h : Unicode w c) (hbody : Body body) :
    Body ('\\' :: 'u' :: (w ++ body)) := by
  cases h with
  | single hn _ _ => exact .unicode hn hbody
  | pair hn _ hm _ => exact .unicode hn (.unicode hm hbody)

theorem Spelled.body {body t : List Char} (h : Spelled body t) : Body body := by
  induction h with
  | nil => exact .nil
  | plain hquote hescape hcontrol _ ih => exact .plain hquote hescape hcontrol ih
  | simple he _ ih => exact .simple he ih
  | unicode hw _ ih => exact hw.body ih

theorem skipEscape_sound (h : skipEscape s = .ok r) :
    (∃ a b c d n, s = 'u' :: a :: b :: c :: d :: r ∧ fourHex? a b c d = some n) ∨
      ∃ c d, s = c :: r ∧ simpleEscape? c = some d := by
  unfold skipEscape at h
  split at h
  · cases h
  · obtain ⟨⟨n, r'⟩, hread, rfl⟩ := map_eq_ok.1 h
    obtain ⟨a, b, c, d, rfl, hn⟩ := readFourHex_eq_ok.1 hread
    exact .inl ⟨a, b, c, d, n, rfl, hn⟩
  · split at h
    · next hd =>
      cases h
      exact .inr ⟨_, _, rfl, hd⟩
    · cases h

theorem skipEscape_unicode {a b c d : Char} {n : Nat} (h : fourHex? a b c d = some n)
    (r : List Char) : skipEscape ('u' :: a :: b :: c :: d :: r) = .ok r := by
  change (readFourHex (a :: b :: c :: d :: r)).map Prod.snd = _
  rw [readFourHex_eq_ok.2 ⟨a, b, c, d, rfl, h⟩]
  rfl

theorem skipEscape_simple {c d : Char} (h : simpleEscape? c = some d) (r : List Char) :
    skipEscape (c :: r) = .ok r := by
  unfold skipEscape
  split
  · next hnil => cases hnil
  · next hu =>
    obtain ⟨rfl, -⟩ := List.cons.inj hu
    rw [simpleEscape?_u] at h
    cases h
  · next hcons =>
    obtain ⟨rfl, rfl⟩ := List.cons.inj hcons
    rw [h]

theorem skipChars_sound {n : Nat} (h : skipChars n s = .ok r) :
    ∃ body, s = body ++ '"' :: r ∧ Body body := by
  induction n generalizing s with
  | zero => cases h
  | succ n ih =>
    cases s with
    | nil => cases h
    | cons c s =>
      unfold skipChars at h
      split at h
      · next hquote =>
        cases h
        exact ⟨[], by rw [hquote]; rfl, .nil⟩
      · next hquote =>
        split at h
        · next hescape =>
          obtain ⟨s', hs', hrest⟩ := bind_eq_ok.1 h
          obtain ⟨body, rfl, hbody⟩ := ih hrest
          rw [hescape]
          rcases skipEscape_sound hs' with ⟨a, b, c, d, n, rfl, hn⟩ | ⟨e, d, rfl, he⟩
          · exact ⟨'\\' :: 'u' :: a :: b :: c :: d :: body, rfl, .unicode hn hbody⟩
          · exact ⟨'\\' :: e :: body, rfl, .simple he hbody⟩
        · next hescape =>
          split at h
          · cases h
          · next hcontrol =>
            obtain ⟨body, rfl, hbody⟩ := ih h
            exact ⟨c :: body, rfl, .plain hquote hescape hcontrol hbody⟩

theorem skipChars_complete {body : List Char} (h : Body body) (r : List Char) {n : Nat}
    (hn : body.length < n) : skipChars n (body ++ '"' :: r) = .ok r := by
  induction h generalizing n with
  | nil =>
    obtain ⟨m, rfl⟩ := Nat.exists_eq_add_one.2 (Nat.zero_lt_of_lt hn)
    rfl
  | plain hquote hescape hcontrol _ ih =>
    obtain ⟨m, rfl⟩ := Nat.exists_eq_add_one.2 (Nat.zero_lt_of_lt hn)
    rw [List.cons_append, skipChars, if_neg hquote, if_neg hescape, if_neg hcontrol]
    exact ih (Nat.lt_of_succ_lt_succ hn)
  | simple he _ ih =>
    obtain ⟨m, rfl⟩ := Nat.exists_eq_add_one.2 (Nat.zero_lt_of_lt hn)
    rw [List.cons_append, List.cons_append, skipChars, if_neg (by decide), if_pos rfl,
      skipEscape_simple he]
    simp only [List.length_cons] at hn
    exact ih (by omega)
  | unicode hhex _ ih =>
    obtain ⟨m, rfl⟩ := Nat.exists_eq_add_one.2 (Nat.zero_lt_of_lt hn)
    simp only [List.cons_append]
    rw [skipChars, if_neg (by decide), if_pos rfl, skipEscape_unicode hhex]
    simp only [List.length_cons] at hn
    exact ih (by omega)

theorem skipString_sound (h : skipString s = .ok r) : ∃ body, s = body ++ '"' :: r ∧ Body body :=
  skipChars_sound h

theorem skipString_complete {body : List Char} (h : Body body) (r : List Char) :
    skipString (body ++ '"' :: r) = .ok r :=
  skipChars_complete h r (by simp only [List.length_append, List.length_cons]; omega)

end ScriptEnv.Json
