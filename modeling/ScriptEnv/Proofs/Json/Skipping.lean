import ScriptEnv.Proofs.Json.Numbers
import ScriptEnv.Proofs.Json.Strings

namespace ScriptEnv.Json

open Number (isDigit)

structure SkipSound (n : Nat) : Prop where
  value {s r : List Char} : skipValue n s = .ok r → ∃ a w, s = a ++ (w ++ r) ∧ Gap a ∧ Form w
  items {s r : List Char} : skipItems n s = .ok r →
    ∃ ws t, s = t ++ ']' :: r ∧ Tail ws t ∧ ∀ w ∈ ws, Form w
  member {s r : List Char} : skipMember n s = .ok r →
    ∃ (a : List Char) (m : Member), s = a ++ (m.text ++ r) ∧ Gap a ∧ m.Keyed ∧ Form m.value
  members {s r : List Char} : skipMembers n s = .ok r →
    ∃ (ms : List Member) (t : List Char), s = t ++ '\x7d' :: r ∧ Tail (ms.map Member.text) t ∧
      ∀ m ∈ ms, m.Keyed ∧ Form m.value

variable {n : Nat} {s r : List Char}

theorem form_list_of_skip (ih : SkipSound n) {t : List Char}
    (h : (match skipSpace t with
      | [] => .error (before .endInList [])
      | ']' :: r => .ok r
      | r => do skipItems n (← skipValue n r) : Except Fault (List Char)) = .ok r) :
    ∃ w, '[' :: t = w ++ r ∧ Form w := by
  obtain ⟨a, ha, ht⟩ := exists_gap t
  rw [ht]
  split at h
  · cases h
  · next heq =>
    cases h
    rw [heq]
    refine ⟨listed a, by simp [listed], .list (.none ha) ?_⟩
    exact fun w hw ↦ absurd hw List.not_mem_nil
  · obtain ⟨u, hu, hitems⟩ := bind_eq_ok.1 h
    obtain ⟨b, w, heq, hb, hw⟩ := ih.value hu
    obtain ⟨ws, v, rfl, htail, hws⟩ := ih.items hitems
    rw [heq]
    refine ⟨listed (a ++ b ++ (w ++ v)), by simp [listed], ?_⟩
    exact .list (.some (ha.append hb) htail) (List.forall_mem_cons.2 ⟨hw, hws⟩)

theorem form_object_of_skip (ih : SkipSound n) {t : List Char}
    (h : (match skipSpace t with
      | [] => .error (before .endInObject [])
      | '\x7d' :: r => .ok r
      | r => do skipMembers n (← skipMember n r) : Except Fault (List Char)) = .ok r) :
    ∃ w, '\x7b' :: t = w ++ r ∧ Form w := by
  obtain ⟨a, ha, ht⟩ := exists_gap t
  rw [ht]
  split at h
  · cases h
  · next heq =>
    cases h
    rw [heq]
    have hitems : Items (([] : List Member).map Member.text) a := .none ha
    exact ⟨braced a, by simp [braced], form_object hitems fun m hm ↦ absurd hm List.not_mem_nil⟩
  · obtain ⟨u, hu, hmembers⟩ := bind_eq_ok.1 h
    obtain ⟨b, m, heq, hb, hm⟩ := ih.member hu
    obtain ⟨ms, v, rfl, htail, hms⟩ := ih.members hmembers
    rw [heq]
    have hitems : Items ((m :: ms).map Member.text) (a ++ b ++ (m.text ++ v)) :=
      .some (ha.append hb) htail
    refine ⟨_, ?_, form_object hitems (List.forall_mem_cons.2 ⟨hm, hms⟩)⟩
    simp [braced]

theorem SkipSound.value_succ (ih : SkipSound n) (h : skipValue (n + 1) s = .ok r) :
    ∃ a w, s = a ++ (w ++ r) ∧ Gap a ∧ Form w := by
  obtain ⟨a, ha, hs⟩ := exists_gap s
  suffices hform : ∃ w, skipSpace s = w ++ r ∧ Form w by
    obtain ⟨w, hw, hform⟩ := hform
    exact ⟨a, w, by rw [hs, hw], ha, hform⟩
  unfold skipValue at h
  split at h
  · cases h
  · next heq =>
    rw [heq, readWord_eq_ok.1 h]
    exact ⟨_, rfl, .null⟩
  · next heq =>
    rw [heq, readWord_eq_ok.1 h]
    exact ⟨_, rfl, .true⟩
  · next heq =>
    rw [heq, readWord_eq_ok.1 h]
    exact ⟨_, rfl, .false⟩
  · next heq =>
    obtain ⟨body, rfl, hbody⟩ := skipString_sound h
    rw [heq]
    exact ⟨quoted body, by simp [quoted], .string hbody⟩
  · next heq =>
    obtain ⟨w, rfl, hw⟩ := skipNumber_sound h
    rw [heq]
    exact ⟨'-' :: w, rfl, .negative hw⟩
  · next heq =>
    rw [heq]
    exact form_list_of_skip ih h
  · next heq =>
    rw [heq]
    exact form_object_of_skip ih h
  · next heq =>
    split at h
    · obtain ⟨w, hw, hform⟩ := skipNumber_sound h
      exact ⟨w, heq.trans hw, .unsigned hform⟩
    · cases h

theorem SkipSound.items_succ (ih : SkipSound n) (h : skipItems (n + 1) s = .ok r) :
    ∃ ws t, s = t ++ ']' :: r ∧ Tail ws t ∧ ∀ w ∈ ws, Form w := by
  obtain ⟨b, hb, hs⟩ := exists_gap s
  rw [hs]
  unfold skipItems at h
  split at h
  · cases h
  · next heq =>
    cases h
    rw [heq]
    exact ⟨[], b, rfl, .last hb, fun w hw ↦ absurd hw List.not_mem_nil⟩
  · next heq =>
    obtain ⟨u, hu, hitems⟩ := bind_eq_ok.1 h
    obtain ⟨a, w, rfl, ha, hw⟩ := ih.value hu
    obtain ⟨ws, v, rfl, htail, hws⟩ := ih.items hitems
    rw [heq]
    exact ⟨w :: ws, b ++ ',' :: (a ++ (w ++ v)), by simp, .next hb ha htail,
      List.forall_mem_cons.2 ⟨hw, hws⟩⟩
  · cases h

theorem SkipSound.member_succ (ih : SkipSound n) (h : skipMember (n + 1) s = .ok r) :
    ∃ (a : List Char) (m : Member), s = a ++ (m.text ++ r) ∧ Gap a ∧ m.Keyed ∧ Form m.value := by
  obtain ⟨a, ha, hs⟩ := exists_gap s
  rw [hs]
  unfold skipMember at h
  split at h
  · cases h
  · next heq =>
    obtain ⟨u, hu, hcolon⟩ := bind_eq_ok.1 h
    obtain ⟨body, rfl, hbody⟩ := skipString_sound hu
    obtain ⟨b, hb, hu⟩ := exists_gap u
    rw [heq, hu]
    split at hcolon
    · cases hcolon
    · next heq' =>
      obtain ⟨e, w, rfl, he, hw⟩ := ih.value hcolon
      rw [heq']
      exact ⟨a, ⟨quoted body, b, e, w⟩, by simp [Member.text, quoted], ha,
        ⟨⟨body, rfl, hbody⟩, hb, he⟩, hw⟩
    · cases hcolon
  · cases h

theorem SkipSound.members_succ (ih : SkipSound n) (h : skipMembers (n + 1) s = .ok r) :
    ∃ (ms : List Member) (t : List Char), s = t ++ '\x7d' :: r ∧ Tail (ms.map Member.text) t ∧
      ∀ m ∈ ms, m.Keyed ∧ Form m.value := by
  obtain ⟨b, hb, hs⟩ := exists_gap s
  rw [hs]
  unfold skipMembers at h
  split at h
  · cases h
  · next heq =>
    cases h
    rw [heq]
    exact ⟨[], b, rfl, .last hb, fun m hm ↦ absurd hm List.not_mem_nil⟩
  · next heq =>
    obtain ⟨u, hu, hmembers⟩ := bind_eq_ok.1 h
    obtain ⟨a, m, rfl, ha, hm⟩ := ih.member hu
    obtain ⟨ms, v, rfl, htail, hms⟩ := ih.members hmembers
    rw [heq]
    exact ⟨m :: ms, b ++ ',' :: (a ++ (m.text ++ v)), by simp, .next hb ha htail,
      List.forall_mem_cons.2 ⟨hm, hms⟩⟩
  · cases h

theorem skipSound (n : Nat) : SkipSound n := by
  -- Each of the four calls the others with one unit of fuel less, so one induction carries them all.
  induction n with
  | zero => exact ⟨nofun, nofun, nofun, nofun⟩
  | succ n ih => exact ⟨ih.value_succ, ih.items_succ, ih.member_succ, ih.members_succ⟩

theorem skip_sound (h : skip s = .ok r) : ∃ a w, s = a ++ (w ++ r) ∧ Gap a ∧ Form w :=
  (skipSound _).value h

def Skips (w : List Char) : Prop :=
  ∀ n a r, Gap a → Stops r → w.length ≤ n → skipValue n (a ++ (w ++ r)) = .ok r

def Begins (c : Char) : Prop := isSpace c = false ∧ c ≠ ']' ∧ c ≠ '\x7d' ∧ c ≠ ','

instance (c : Char) : Decidable (Begins c) := inferInstanceAs (Decidable (_ ∧ _))

theorem begins_of_isDigit {c : Char} (h : isDigit c = true) : Begins c := by
  have hne : ∀ d, isDigit d = false → c ≠ d := fun d ↦ ne_of_isDigit h
  refine ⟨?_, hne _ (by decide), hne _ (by decide), hne _ (by decide)⟩
  simp [isSpace, hne ' ' (by decide), hne '\n' (by decide), hne '\t' (by decide),
    hne '\r' (by decide)]

theorem Unsigned.exists_cons {w : List Char} (h : Unsigned w) :
    ∃ c t, w = c :: t ∧ isDigit c = true := by
  obtain ⟨w, f, e, rfl, ⟨hdigits, -⟩, -, -⟩ := h
  obtain ⟨c, t, rfl, hc, -⟩ := hdigits.exists_cons
  exact ⟨c, t ++ (f ++ e), rfl, hc⟩

theorem Member.Keyed.exists_cons {m : Member} (h : m.Keyed) : ∃ u, m.text = '"' :: u := by
  obtain ⟨body, hkey, -⟩ := h.key
  exact ⟨_, by rw [Member.text, hkey, quoted, List.cons_append]⟩

theorem Form.exists_cons {w : List Char} (h : Form w) : ∃ c t, w = c :: t ∧ Begins c := by
  cases h with
  | unsigned h =>
    obtain ⟨c, t, rfl, hc⟩ := h.exists_cons
    exact ⟨c, t, rfl, begins_of_isDigit hc⟩
  | null => exact ⟨_, _, rfl, by decide⟩
  | true => exact ⟨_, _, rfl, by decide⟩
  | false => exact ⟨_, _, rfl, by decide⟩
  | string _ => exact ⟨_, _, rfl, by decide⟩
  | negative _ => exact ⟨_, _, rfl, by decide⟩
  | list _ _ => exact ⟨_, _, rfl, by decide⟩
  | object _ _ _ => exact ⟨_, _, rfl, by decide⟩

theorem Tail.stops {ws : List (List Char)} {t : List Char} {c : Char} (h : Tail ws t)
    (hc : c = ']' ∨ c = '\x7d') (r : List Char) : Stops (t ++ c :: r) := by
  cases h with
  | last hb => exact hb.stops_append (stops_cons (.inr hc))
  | next hb _ _ =>
    rw [List.append_assoc]
    exact hb.stops_append (stops_cons (.inl rfl))

theorem skipItems_complete {ws : List (List Char)} {t : List Char} (h : Tail ws t)
    (hws : ∀ w ∈ ws, Skips w) (hn : t.length < n) (r : List Char) :
    skipItems n (t ++ ']' :: r) = .ok r := by
  induction h generalizing n with
  | last hb =>
    obtain ⟨m, rfl⟩ := Nat.exists_eq_add_one.2 (Nat.zero_lt_of_lt hn)
    rw [skipItems, skipSpace_append_cons hb (by decide)]
    rfl
  | @next b a w t ws hb ha htail ih =>
    obtain ⟨hw, hws⟩ := List.forall_mem_cons.1 hws
    obtain ⟨m, rfl⟩ := Nat.exists_eq_add_one.2 (Nat.zero_lt_of_lt hn)
    simp only [List.length_append, List.length_cons] at hn
    simp only [List.append_assoc, List.cons_append]
    rw [skipItems, skipSpace_append_cons hb (by decide)]
    exact bind_eq_ok.2 ⟨_, hw m a _ ha (htail.stops (.inl rfl) r) (by omega), ih hws (by omega)⟩

theorem skipMember_complete {m : Member} (hm : m.Keyed) (hvalue : Skips m.value) {a : List Char}
    (ha : Gap a) (hr : Stops r) (hn : m.text.length ≤ n) :
    skipMember n (a ++ (m.text ++ r)) = .ok r := by
  obtain ⟨key, before, after, value⟩ := m
  obtain ⟨⟨body, rfl, hbody⟩, hbefore, hafter⟩ := hm
  simp only [Member.text, quoted, List.length_append, List.length_cons] at hn
  obtain ⟨k, rfl⟩ := Nat.exists_eq_add_one.2 (show 0 < n by omega)
  have htext : (Member.mk (quoted body) before after value).text ++ r =
      '"' :: (body ++ '"' :: (before ++ ':' :: (after ++ (value ++ r)))) := by
    simp [Member.text, quoted]
  rw [htext, skipMember, skipSpace_append_cons ha (by decide)]
  refine bind_eq_ok.2 ⟨_, skipString_complete hbody _, ?_⟩
  rw [skipSpace_append_cons hbefore (by decide)]
  exact hvalue k after r hafter hr (show value.length ≤ k by omega)

theorem skipMembers_complete {ms : List Member} {t : List Char} (h : Tail (ms.map Member.text) t)
    (hms : ∀ m ∈ ms, m.Keyed ∧ Skips m.value) (hn : t.length < n) (r : List Char) :
    skipMembers n (t ++ '\x7d' :: r) = .ok r := by
  induction ms generalizing n t with
  | nil =>
    obtain ⟨k, rfl⟩ := Nat.exists_eq_add_one.2 (Nat.zero_lt_of_lt hn)
    cases h with
    | last hb =>
      rw [skipMembers, skipSpace_append_cons hb (by decide)]
      rfl
  | cons m ms ih =>
    obtain ⟨⟨hkey, hm⟩, hms⟩ := List.forall_mem_cons.1 hms
    obtain ⟨k, rfl⟩ := Nat.exists_eq_add_one.2 (Nat.zero_lt_of_lt hn)
    cases h with
    | @next b a w t ws hb ha htail =>
      simp only [List.length_append, List.length_cons] at hn
      simp only [List.append_assoc, List.cons_append]
      rw [skipMembers, skipSpace_append_cons hb (by decide)]
      exact bind_eq_ok.2 ⟨_, skipMember_complete hkey hm ha (htail.stops (.inr rfl) r) (by omega),
        ih htail hms (by omega)⟩

theorem skipValue_gap {a : List Char} (ha : Gap a) (n : Nat) (s : List Char) :
    skipValue (n + 1) (a ++ s) = skipValue (n + 1) s := by
  rw [skipValue, skipValue, ha.skipSpace_append]

theorem skipValue_digit {c : Char} (hc : isDigit c = true) (n : Nat) (t : List Char) :
    skipValue (n + 1) (c :: t) = skipNumber (c :: t) := by
  rw [skipValue, skipSpace_cons (begins_of_isDigit hc).1]
  split
  case h_9 heq =>
    obtain ⟨rfl, rfl⟩ := List.cons.inj heq
    exact if_pos hc
  case h_1 heq => cases heq
  all_goals
    next heq => exact absurd (List.cons.inj heq).1 (ne_of_isDigit hc (by decide))

theorem skips_list {ws : List (List Char)} {body : List Char} (h : Items ws body)
    (hws : ∀ w ∈ ws, Form w ∧ Skips w) : Skips (listed body) := by
  intro n a r ha hr hn
  simp only [listed, List.length_append, List.length_cons] at hn
  obtain ⟨k, rfl⟩ := Nat.exists_eq_add_one.2 (show 0 < n by omega)
  rw [skipValue_gap ha]
  change (match skipSpace (body ++ [']'] ++ r) with
    | [] => .error (before .endInList [])
    | ']' :: r => .ok r
    | r => do skipItems k (← skipValue k r) : Except Fault (List Char)) = _
  cases h with
  | none hb =>
    rw [List.append_assoc, List.singleton_append, skipSpace_append_cons hb (by decide)]
    rfl
  | @some b w t ws hb htail =>
    obtain ⟨⟨hform, hw⟩, hws⟩ := List.forall_mem_cons.1 hws
    have hitems := skipItems_complete (n := k) htail (fun w hw ↦ (hws w hw).2)
    have hvalue := hw k [] _ gap_nil (htail.stops (.inl rfl) r)
    obtain ⟨c, u, rfl, hc⟩ := hform.exists_cons
    simp only [List.length_append, List.length_cons] at hn hvalue
    simp only [List.append_assoc, List.cons_append, List.nil_append] at hvalue ⊢
    rw [skipSpace_append_cons hb hc.1]
    split
    · next hnil => cases hnil
    · next heq => exact absurd (List.cons.inj heq).1 hc.2.1
    · exact bind_eq_ok.2 ⟨_, hvalue (by omega), hitems (by omega) r⟩

theorem skips_object {ms : List Member} {body : List Char} (h : Items (ms.map Member.text) body)
    (hms : ∀ m ∈ ms, m.Keyed ∧ Skips m.value) : Skips (braced body) := by
  intro n a r ha hr hn
  simp only [braced, List.length_append, List.length_cons] at hn
  obtain ⟨k, rfl⟩ := Nat.exists_eq_add_one.2 (show 0 < n by omega)
  rw [skipValue_gap ha]
  change (match skipSpace (body ++ ['\x7d'] ++ r) with
    | [] => .error (before .endInObject [])
    | '\x7d' :: r => .ok r
    | r => do skipMembers k (← skipMember k r) : Except Fault (List Char)) = _
  cases ms with
  | nil =>
    cases h with
    | none hb =>
      rw [List.append_assoc, List.singleton_append, skipSpace_append_cons hb (by decide)]
      rfl
  | cons m ms =>
    obtain ⟨⟨hkeyed, hm⟩, hms⟩ := List.forall_mem_cons.1 hms
    cases h with
    | @some b w t ws hb htail =>
      have hmembers := skipMembers_complete (n := k) htail hms
      have hmember := skipMember_complete (n := k) hkeyed hm gap_nil (htail.stops (.inr rfl) r)
      obtain ⟨u, hu⟩ := hkeyed.exists_cons
      rw [hu] at hmember hn ⊢
      simp only [List.length_append, List.length_cons] at hn hmember
      simp only [List.append_assoc, List.cons_append, List.nil_append] at hmember ⊢
      rw [skipSpace_append_cons hb (by decide)]
      exact bind_eq_ok.2 ⟨_, hmember (by omega), hmembers (by omega) r⟩

theorem Form.skips {w : List Char} (h : Form w) : Skips w := by
  induction h with
  | list hitems hws ih => exact skips_list hitems fun w hw ↦ ⟨hws w hw, ih w hw⟩
  | object hitems hkeyed _ ih => exact skips_object hitems fun m hm ↦ ⟨hkeyed m hm, ih m hm⟩
  | string hbody =>
    intro n a r ha hr hn
    obtain ⟨k, rfl⟩ := Nat.exists_eq_add_one.2 (Nat.zero_lt_of_lt hn)
    rw [skipValue_gap ha, quoted, List.cons_append, List.append_assoc]
    exact skipString_complete hbody r
  | unsigned hw =>
    intro n a r ha hr hn
    obtain ⟨c, t, rfl, hc⟩ := hw.exists_cons
    obtain ⟨k, rfl⟩ := Nat.exists_eq_add_one.2 (Nat.zero_lt_of_lt hn)
    rw [skipValue_gap ha, List.cons_append, skipValue_digit hc]
    exact skipNumber_complete hw hr
  | negative hw =>
    intro n a r ha hr hn
    obtain ⟨k, rfl⟩ := Nat.exists_eq_add_one.2 (Nat.zero_lt_of_lt hn)
    rw [skipValue_gap ha]
    exact skipNumber_complete hw hr
  | _ =>
    intro n a r ha hr hn
    obtain ⟨k, rfl⟩ := Nat.exists_eq_add_one.2 (Nat.zero_lt_of_lt hn)
    rw [skipValue_gap ha]
    exact readWord_eq_ok.2 rfl

theorem skip_complete {a w : List Char} (ha : Gap a) (h : Form w) (hr : Stops r) :
    skip (a ++ (w ++ r)) = .ok r := by
  refine h.skips _ a r ha hr ?_
  simp only [List.length_append]
  omega

end ScriptEnv.Json
