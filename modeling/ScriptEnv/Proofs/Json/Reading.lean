import ScriptEnv.Json.Reader
import ScriptEnv.Proofs.Json.Numerals
import ScriptEnv.Proofs.Json.Skipping

namespace ScriptEnv.Json

open Number (Binary64 isDigit decimalValue)

variable {α β : Type} {s r w : List Char}

/-- The reader reads, after some space, the texts of the relation and no others. -/
structure Reads (read : Reader α) (R : List Char → α → Prop) : Prop where
  sound {s r : List Char} {a : α} : read s = .ok (a, r) → ∃ g w, s = g ++ (w ++ r) ∧ Gap g ∧ R w a
  complete {g w r : List Char} {a : α} : Gap g → R w a → Stops r → read (g ++ (w ++ r)) = .ok (a, r)
  form {w : List Char} {a : α} : R w a → Form w

theorem Reads.map {read : Reader α} {R : List Char → α → Prop} (h : Reads read R) (f : α → β) :
    Reads (fun s ↦ (read s).map fun (a, r) ↦ (f a, r)) fun w b ↦ ∃ a, R w a ∧ b = f a where
  sound := by
    intro s r b hb
    obtain ⟨⟨a, r'⟩, ha, heq⟩ := map_eq_ok.1 hb
    obtain ⟨rfl, rfl⟩ := Prod.mk.inj heq
    obtain ⟨g, w, rfl, hg, hw⟩ := h.sound ha
    exact ⟨g, w, rfl, hg, a, hw, rfl⟩
  complete := by
    rintro g w r b hg ⟨a, hw, rfl⟩ hr
    rw [h.complete hg hw hr]
    rfl
  form := fun ⟨_, hw, _⟩ ↦ h.form hw

theorem Reads.congr {read : Reader α} {R S : List Char → α → Prop} (h : Reads read R)
    (hR : ∀ w a, R w a ↔ S w a) : Reads read S := by
  have heq : R = S := funext fun w ↦ funext fun a ↦ propext (hR w a)
  exact heq ▸ h

theorem Reads.unique {read : Reader α} {R : List Char → α → Prop} (h : Reads read R) {a b : α}
    (ha : R w a) (hb : R w b) : a = b := by
  have hread := h.complete gap_nil ha gap_nil.stops
  rw [h.complete gap_nil hb gap_nil.stops] at hread
  exact (Prod.mk.inj (Except.ok.inj hread)).1.symm

theorem reads_textNamed (expected : String) : Reads (textNamed expected) Spells where
  sound := by
    intro s r t h
    obtain ⟨g, hg, hs⟩ := exists_gap s
    rw [hs]
    unfold textNamed at h
    split at h
    · cases h
    · next heq =>
      obtain ⟨body, rfl, hbody⟩ := readString_sound h
      rw [heq]
      exact ⟨g, quoted body, by simp [quoted], hg, body, rfl, hbody⟩
    · cases h
  complete := by
    rintro g w r t hg ⟨body, rfl, hbody⟩ -
    unfold textNamed
    rw [quoted, List.cons_append, List.append_assoc, skipSpace_append_cons hg (by decide)]
    exact readString_complete hbody r
  form := fun ⟨_, hw, hbody⟩ ↦ hw ▸ .string hbody.body

theorem reads_text : Reads text Spells := reads_textNamed "a string"

theorem reads_boolean : Reads boolean fun w b ↦ w = wordForm b where
  sound := by
    intro s r b h
    obtain ⟨g, hg, hs⟩ := exists_gap s
    rw [hs]
    unfold boolean at h
    split at h
    · cases h
    · next heq =>
      obtain ⟨u, hu, hb⟩ := map_eq_ok.1 h
      obtain ⟨rfl, rfl⟩ := Prod.mk.inj hb
      rw [heq, readWord_eq_ok.1 hu]
      exact ⟨g, _, rfl, hg, rfl⟩
    · next heq =>
      obtain ⟨u, hu, hb⟩ := map_eq_ok.1 h
      obtain ⟨rfl, rfl⟩ := Prod.mk.inj hb
      rw [heq, readWord_eq_ok.1 hu]
      exact ⟨g, _, rfl, hg, rfl⟩
    · cases h
  complete := by
    rintro g w r b hg rfl -
    cases b with
    | true =>
      rw [wordForm, List.cons_append, boolean, skipSpace_append_cons hg (by decide)]
      exact map_eq_ok.2 ⟨r, readWord_eq_ok.2 rfl, rfl⟩
    | false =>
      rw [wordForm, List.cons_append, boolean, skipSpace_append_cons hg (by decide)]
      exact map_eq_ok.2 ⟨r, readWord_eq_ok.2 rfl, rfl⟩
  form := by
    rintro w (_ | _) rfl
    · exact .false
    · exact .true

theorem reads_nothing : Reads nothing fun w _ ↦ w = nullForm where
  sound := by
    intro s r _ h
    obtain ⟨g, hg, hs⟩ := exists_gap s
    rw [hs]
    unfold nothing at h
    split at h
    · cases h
    · next heq =>
      obtain ⟨u, hu, hb⟩ := map_eq_ok.1 h
      obtain ⟨-, rfl⟩ := Prod.mk.inj hb
      rw [heq, readWord_eq_ok.1 hu]
      exact ⟨g, _, rfl, hg, rfl⟩
    · cases h
  complete := by
    rintro g w r b hg rfl -
    rw [nullForm, List.cons_append, nothing, skipSpace_append_cons hg (by decide)]
    exact map_eq_ok.2 ⟨r, readWord_eq_ok.2 rfl, rfl⟩
  form := fun h ↦ h ▸ .null

section

variable {expected : String} {take : Numeral → Except Decode.Mismatch α} {a : α}

theorem judge_eq_ok {negative : Bool} : (do
      let (n, r) ← readNumber negative s
      match take n with
      | .ok a => .ok (a, r)
      | .error m => .error (before (.mismatch m) r) : Except Fault (α × List Char)) = .ok (a, r) ↔
    ∃ y, readNumber negative s = .ok (y, r) ∧ take y = .ok a := by
  constructor
  · intro h
    obtain ⟨⟨y, r'⟩, hread, hend⟩ := bind_eq_ok.1 h
    dsimp only at hend
    split at hend
    · next b hb =>
      obtain ⟨rfl, rfl⟩ := Prod.mk.inj (Except.ok.inj hend)
      exact ⟨y, hread, hb⟩
    · cases hend
  · rintro ⟨y, hread, htake⟩
    refine bind_eq_ok.2 ⟨_, hread, ?_⟩
    dsimp only
    rw [htake]

theorem judged_minus {g : List Char} (hg : Gap g) (s : List Char) :
    judged expected take (g ++ '-' :: s) = .ok (a, r) ↔
      ∃ y, readNumber true s = .ok (y, r) ∧ take y = .ok a := by
  unfold judged
  rw [skipSpace_append_cons hg (by decide)]
  exact judge_eq_ok

theorem judged_digit {g : List Char} {c : Char} (hg : Gap g) (hc : isDigit c = true) (s : List Char) :
    judged expected take (g ++ c :: s) = .ok (a, r) ↔
      ∃ y, readNumber false (c :: s) = .ok (y, r) ∧ take y = .ok a := by
  rw [← judge_eq_ok]
  unfold judged
  rw [skipSpace_append_cons hg (begins_of_isDigit hc).1]
  dsimp only
  split
  · next hnil => cases hnil
  · next heq => exact absurd (List.cons.inj heq).1 (ne_of_isDigit hc (by decide))
  · next heq =>
    obtain ⟨rfl, rfl⟩ := List.cons.inj heq
    exact iff_of_eq (congrArg (Eq · _) (if_pos hc))

theorem reads_judged (expected : String) (take : Numeral → Except Decode.Mismatch α) :
    Reads (judged expected take) fun w a ↦ ∃ y, Signed w y ∧ take y = .ok a where
  sound := by
    intro s r a h
    obtain ⟨g, hg, hs⟩ := exists_gap s
    rw [hs]
    unfold judged at h
    dsimp only at h
    split at h
    · cases h
    · next heq =>
      obtain ⟨y, hread, htake⟩ := judge_eq_ok.1 h
      obtain ⟨w, rfl, hw, hread⟩ := readNumber_sound hread
      exact ⟨g, '-' :: w, by rw [heq]; rfl, hg, y, .negative hw hread, htake⟩
    · next heq =>
      split at h
      · obtain ⟨y, hread, htake⟩ := judge_eq_ok.1 h
        obtain ⟨w, hw', hw, hread⟩ := readNumber_sound hread
        exact ⟨g, w, by rw [heq, hw'], hg, y, .unsigned hw hread, htake⟩
      · cases h
  complete := by
    rintro g w r a hg ⟨y, hw, htake⟩ hr
    cases hw with
    | unsigned hw hread =>
      have hread := hread r hr
      obtain ⟨c, t, rfl, hc⟩ := hw.exists_cons
      exact (judged_digit hg hc _).2 ⟨y, hread, htake⟩
    | negative hw hread => exact (judged_minus hg _).2 ⟨y, hread r hr, htake⟩
  form := fun ⟨_, hw, _⟩ ↦ hw.form

end

theorem reads_wholeBetween (expected : String) {low high : Int} (hlow : -Number.twoTo 63 ≤ low)
    (hhigh : high ≤ wordMax) : Reads (wholeBetween expected low high) (Integer low high) := by
  refine (reads_judged expected _).congr fun w n ↦ ?_
  rw [← signed_integer hlow hhigh]
  constructor
  · rintro ⟨y, hw, htake⟩
    cases y with
    | whole m =>
      dsimp only at htake
      split at htake
      · next hm =>
        cases htake
        exact ⟨hw, hm⟩
      · cases htake
    | float x => cases htake
  · rintro ⟨hw, hn⟩
    exact ⟨_, hw, if_pos hn⟩

theorem naturalUpTo_eq (expected : String) (bound : Nat) : naturalUpTo expected bound =
    fun s ↦ (wholeBetween expected 0 bound s).map fun (n, r) ↦ (n.toNat, r) := by
  funext s
  unfold naturalUpTo
  cases wholeBetween expected 0 bound s <;> rfl

theorem reads_naturalUpTo (expected : String) {bound : Nat} (hbound : bound ≤ wordMax) :
    Reads (naturalUpTo expected bound) (Natural bound) := by
  rw [naturalUpTo_eq]
  refine ((reads_wholeBetween expected (by decide) (by omega)).map Int.toNat).congr fun w n ↦ ?_
  constructor
  · rintro ⟨m, ⟨hlow, hhigh, ⟨hw, rfl⟩ | ⟨_, _, _, _, hneg⟩⟩, rfl⟩
    · exact ⟨hw, rfl, by omega⟩
    · omega
  · rintro ⟨hw, rfl, hle⟩
    exact ⟨_, ⟨by omega, by omega, .inl ⟨hw, rfl⟩⟩, rfl⟩

def Numeral.rounded : Numeral → Binary64
  | .whole n => if n < 0 then (Binary64.ofNat n.natAbs).neg else .ofNat n.natAbs
  | .float x => x

theorem reads_binary64 : Reads binary64 fun w x ↦ ∃ y, Signed w y ∧ y.rounded = x := by
  refine (reads_judged "f64" _).congr fun w x ↦ exists_congr fun y ↦ and_congr_right fun _ ↦ ?_
  cases y with
  | whole n => exact Iff.of_eq (Except.ok.injEq _ _)
  | float y => exact Iff.of_eq (Except.ok.injEq _ _)

theorem natural128_of_digit {g : List Char} {c : Char} (hg : Gap g) (hc : isDigit c = true)
    (hzero : c ≠ '0') (s : List Char) : natural128 (g ++ c :: s) =
      if decimalValue ((c :: s).takeWhile isDigit) < Number.twoTo 128 then
        .ok (decimalValue ((c :: s).takeWhile isDigit), s.dropWhile isDigit)
      else .error (before .numberRange (s.dropWhile isDigit)) := by
  unfold natural128
  rw [skipSpace_append_cons hg (begins_of_isDigit hc).1]
  split
  · next hnil => cases hnil
  · next heq => exact absurd (List.cons.inj heq).1 (ne_of_isDigit hc (by decide))
  · next heq => exact absurd (List.cons.inj heq).1 hzero
  · next heq =>
    obtain ⟨rfl, rfl⟩ := List.cons.inj heq
    exact if_pos hc

theorem whole_takeWhile {c : Char} (hc : isDigit c = true) (hzero : c ≠ '0') (s : List Char) :
    Whole ((c :: s).takeWhile isDigit) := by
  rw [List.takeWhile_cons_of_pos hc]
  refine ⟨⟨List.cons_ne_nil c _, List.forall_mem_cons.2 ⟨hc, takeWhile_isDigit s⟩⟩, ?_⟩
  exact fun t ht ↦ absurd (List.cons.inj ht).1 hzero

theorem reads_natural128 : Reads natural128 (Natural (Number.twoTo 128 - 1)) where
  sound := by
    intro s r n h
    obtain ⟨g, hg, hs⟩ := exists_gap s
    rw [hs]
    unfold natural128 at h
    split at h
    · cases h
    · cases h
    · next heq =>
      split at h
      · cases h
      · cases h
        exact ⟨g, ['0'], by rw [heq]; rfl, hg, whole_zero, rfl, Nat.zero_le _⟩
    · next c u _ hzero heq =>
      split at h
      · next hc =>
        dsimp only at h
        split at h
        · next hlt =>
          obtain ⟨rfl, rfl⟩ := Prod.mk.inj (Except.ok.inj h)
          have htext : c :: u = (c :: u).takeWhile isDigit ++ u.dropWhile isDigit := by
            rw [List.takeWhile_cons_of_pos hc, List.cons_append, List.takeWhile_append_dropWhile]
          exact ⟨g, _, by rw [heq, ← htext], hg, whole_takeWhile hc hzero u, rfl,
            Nat.le_sub_one_of_lt hlt⟩
        · cases h
      · cases h
  complete := by
    rintro g w r n hg ⟨hw, rfl, hle⟩ hr
    obtain ⟨c, t, rfl, hc⟩ := hw.exists_cons
    by_cases hzero : c = '0'
    · subst hzero
      obtain rfl := hw.2 t rfl
      rw [List.cons_append, natural128, skipSpace_append_cons hg (by decide)]
      exact if_neg (by rw [List.nil_append, hr.startsWithDigit]; exact Bool.false_ne_true)
    · have htake : (c :: (t ++ r)).takeWhile isDigit = c :: t :=
        takeWhile_isDigit_append hw.1.2 hr.startsWithDigit
      have ht : ∀ c ∈ t, isDigit c = true := fun d hd ↦ hw.1.2 d (List.mem_cons_of_mem c hd)
      have hlt : decimalValue (c :: t) < Number.twoTo 128 := Nat.lt_of_le_sub_one (by decide) hle
      rw [List.cons_append, natural128_of_digit hg hc hzero, htake, if_pos hlt,
        dropWhile_isDigit ht hr.startsWithDigit]
  form := fun h ↦ h.1.form

end ScriptEnv.Json
