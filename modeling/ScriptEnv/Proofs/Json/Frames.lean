import ScriptEnv.Proofs.Json.Reading

namespace ScriptEnv.Json

variable {α : Type} {s s' r t : List Char} {first : Bool} {ws : List (List Char)}

/-- What stands before an item: a comma and space, and for the first item space alone. -/
def Opens : Bool → List Char → Prop
  | true, pre => Gap pre
  | false, pre => ∃ b a, pre = b ++ ',' :: a ∧ Gap b ∧ Gap a

def Rest : Bool → List (List Char) → List Char → Prop
  | true, ws, t => Items ws t
  | false, ws, t => Tail ws t

theorem rest_nil (h : Gap t) : Rest first [] t := by
  cases first with
  | true => exact .none h
  | false => exact .last h

theorem rest_cons {pre g w : List Char} (hpre : Opens first pre) (hg : Gap g) (ht : Tail ws t) :
    Rest first (w :: ws) (pre ++ (g ++ (w ++ t))) := by
  cases first with
  | true =>
    rw [← List.append_assoc]
    exact .some (Gap.append hpre hg) ht
  | false =>
    obtain ⟨b, a, rfl, hb, ha⟩ := hpre
    have h : Tail (w :: ws) (b ++ ',' :: ((a ++ g) ++ (w ++ t))) := .next hb (ha.append hg) ht
    simpa [Rest] using h

theorem Rest.gap (h : Rest first [] t) : Gap t := by
  cases first with
  | true =>
    cases h with
    | none ha => exact ha
  | false =>
    cases h with
    | last hb => exact hb

theorem Rest.exists_append {w u : List Char} (h : Rest first (w :: ws) u) :
    ∃ pre t, u = pre ++ (w ++ t) ∧ Opens first pre ∧ Tail ws t := by
  cases first with
  | true =>
    cases h with
    | some ha ht => exact ⟨_, _, rfl, ha, ht⟩
  | false =>
    cases h with
    | @next b a w t ws hb ha ht => exact ⟨b ++ ',' :: a, t, by simp, ⟨b, a, rfl, hb, ha⟩, ht⟩

theorem nextItem_more (h : nextItem first s = .ok (true, s')) :
    ∃ pre, s = pre ++ s' ∧ Opens first pre := by
  obtain ⟨b, hb, hs⟩ := exists_gap s
  rw [hs]
  unfold nextItem at h
  split at h
  · cases h
  · cases h
  · next c u _ heq =>
    rw [heq]
    cases first with
    | true =>
      cases h
      exact ⟨b, rfl, hb⟩
    | false =>
      rw [if_neg Bool.false_ne_true] at h
      split at h
      · next hcomma =>
        obtain ⟨a, ha, hu⟩ := exists_gap u
        rw [hcomma, hu]
        split at h
        · cases h
        · cases h
        · cases h
          exact ⟨b ++ ',' :: a, by simp, b, a, rfl, hb, ha⟩
      · cases h

theorem nextItem_none (h : nextItem first s = .ok (false, s')) :
    ∃ a r, s = a ++ ']' :: r ∧ Gap a ∧ s' = ']' :: r := by
  obtain ⟨b, hb, hs⟩ := exists_gap s
  rw [hs]
  unfold nextItem at h
  split at h
  · cases h
  · next heq =>
    cases h
    rw [heq]
    exact ⟨b, _, rfl, hb, rfl⟩
  · split at h
    · cases h
    · split at h
      · split at h <;> cases h
      · cases h

theorem nextItem_comma {b : List Char} (hb : Gap b) (u : List Char) :
    nextItem false (b ++ ',' :: u) = match skipSpace u with
      | [] => .error (before .endInValue [])
      | ']' :: r => .error (onNext .trailingComma (']' :: r))
      | r => .ok (true, r) := by
  rw [nextItem, skipSpace_append_cons hb (by decide)]
  rfl

theorem nextItem_opens {pre : List Char} {c : Char} (hpre : Opens first pre) (hc : Begins c)
    (u : List Char) : nextItem first (pre ++ c :: u) = .ok (true, c :: u) := by
  cases first with
  | true =>
    rw [nextItem, skipSpace_append_cons hpre hc.1]
    split
    · next hnil => cases hnil
    · next heq => exact absurd (List.cons.inj heq).1 hc.2.1
    · next heq => rw [if_pos rfl, heq]
  | false =>
    obtain ⟨b, a, rfl, hb, ha⟩ := hpre
    rw [List.append_assoc, List.cons_append, nextItem_comma hb, skipSpace_append_cons ha hc.1]
    split
    · next hnil => cases hnil
    · next heq => exact absurd (List.cons.inj heq).1 hc.2.1
    · rfl

theorem nextItem_gap (h : Gap t) (r : List Char) :
    nextItem first (t ++ ']' :: r) = .ok (false, ']' :: r) := by
  unfold nextItem
  rw [skipSpace_append_cons h (by decide)]
  rfl

theorem closeList_eq_none : closeList s = (none, r) ↔ ∃ a, s = a ++ ']' :: r ∧ Gap a := by
  constructor
  · intro h
    obtain ⟨a, ha, hs⟩ := exists_gap s
    rw [hs]
    unfold closeList at h
    split at h
    · cases h
    · next heq =>
      cases h
      exact ⟨a, by rw [heq], ha⟩
    · split at h <;> cases h
    · cases h
  · rintro ⟨a, rfl, ha⟩
    rw [closeList, skipSpace_append_cons ha (by decide)]
    rfl

theorem closeObject_eq_none : closeObject s = (none, r) ↔ ∃ a, s = a ++ '\x7d' :: r ∧ Gap a := by
  constructor
  · intro h
    obtain ⟨a, ha, hs⟩ := exists_gap s
    rw [hs]
    unfold closeObject at h
    split at h
    · cases h
    · next heq =>
      cases h
      exact ⟨a, by rw [heq], ha⟩
    · cases h
    · cases h
  · rintro ⟨a, rfl, ha⟩
    rw [closeObject, skipSpace_append_cons ha (by decide)]
    rfl

theorem enclosed_eq_ok {close : List Char → Option Fault × List Char}
    {body : Except Fault (α × List Char)} {a : α} :
    enclosed close body = .ok (a, r) ↔ ∃ s, body = .ok (a, s) ∧ close s = (none, r) := by
  constructor
  · intro h
    unfold enclosed at h
    split at h
    · next b s =>
      split at h
      · next r' hclose =>
        obtain ⟨rfl, rfl⟩ := Prod.mk.inj (Except.ok.inj h)
        exact ⟨s, rfl, hclose⟩
      · cases h
    · cases h
    · cases h
  · rintro ⟨s, rfl, hclose⟩
    simp only [enclosed, hclose]

theorem nextKey_some {k : String} (h : nextKey first s = .ok (some k, s')) :
    ∃ pre w, s = pre ++ (w ++ s') ∧ Opens first pre ∧ Spells w k := by
  have hkey : ∀ u : List Char, (readString u).map (fun x ↦ (some x.1, x.2)) = .ok (some k, s') →
      ∃ w, '"' :: u = w ++ s' ∧ Spells w k := by
    intro u h
    obtain ⟨⟨k', r⟩, hread, heq⟩ := map_eq_ok.1 h
    obtain ⟨hk, rfl⟩ := Prod.mk.inj heq
    obtain ⟨body, rfl, hbody⟩ := readString_sound hread
    exact ⟨quoted body, by simp [quoted], body, rfl, Option.some_inj.1 hk ▸ hbody⟩
  obtain ⟨b, hb, hs⟩ := exists_gap s
  rw [hs]
  unfold nextKey at h
  split at h
  · cases h
  · cases h
  · next c u _ heq =>
    rw [heq]
    cases first with
    | true =>
      rw [if_pos rfl] at h
      split at h
      · next hquote =>
        obtain ⟨w, hw, hk⟩ := hkey _ h
        exact ⟨b, w, by rw [hquote, hw], hb, hk⟩
      · cases h
    | false =>
      rw [if_neg Bool.false_ne_true] at h
      split at h
      · next hcomma =>
        obtain ⟨a, ha, hu⟩ := exists_gap u
        rw [hcomma, hu]
        split at h
        · cases h
        · next heq' =>
          obtain ⟨w, hw, hk⟩ := hkey _ h
          exact ⟨b ++ ',' :: a, w, by simp [heq', hw], ⟨b, a, rfl, hb, ha⟩, hk⟩
        · cases h
        · cases h
      · cases h

theorem nextKey_none (h : nextKey first s = .ok (none, s')) :
    ∃ a r, s = a ++ '\x7d' :: r ∧ Gap a ∧ s' = '\x7d' :: r := by
  have hkey : ∀ u : List Char,
      (readString u).map (fun x ↦ (some x.1, x.2)) ≠ .ok ((none : Option String), s') := by
    intro u h
    obtain ⟨_, -, heq⟩ := map_eq_ok.1 h
    cases heq
  obtain ⟨b, hb, hs⟩ := exists_gap s
  rw [hs]
  unfold nextKey at h
  split at h
  · cases h
  · next heq =>
    cases h
    rw [heq]
    exact ⟨b, _, rfl, hb, rfl⟩
  · split at h
    · split at h
      · exact absurd h (hkey _)
      · cases h
    · split at h
      · split at h
        · cases h
        · exact absurd h (hkey _)
        · cases h
        · cases h
      · cases h

theorem nextKey_comma {b : List Char} (hb : Gap b) (u : List Char) :
    nextKey false (b ++ ',' :: u) = match skipSpace u with
      | [] => .error (before .endInValue [])
      | '"' :: r => (readString r).map fun (k, r) ↦ (some k, r)
      | '\x7d' :: r => .error (onNext .trailingComma ('\x7d' :: r))
      | r => .error (onNext .keyNotString r) := by
  rw [nextKey, skipSpace_append_cons hb (by decide)]
  rfl

theorem nextKey_opens {pre w : List Char} {k : String} (hpre : Opens first pre) (hw : Spells w k)
    (r : List Char) : nextKey first (pre ++ (w ++ r)) = .ok (some k, r) := by
  obtain ⟨body, rfl, hbody⟩ := hw
  have hkey : (readString (body ++ '"' :: r)).map (fun x ↦ (some x.1, x.2)) = .ok (some k, r) :=
    map_eq_ok.2 ⟨_, readString_complete hbody r, rfl⟩
  have hquoted : quoted body ++ r = '"' :: (body ++ '"' :: r) := by simp [quoted]
  rw [hquoted]
  cases first with
  | true =>
    rw [nextKey, skipSpace_append_cons hpre (by decide)]
    exact hkey
  | false =>
    obtain ⟨b, a, rfl, hb, ha⟩ := hpre
    rw [List.append_assoc, List.cons_append, nextKey_comma hb, skipSpace_append_cons ha (by decide)]
    exact hkey

theorem nextKey_gap (h : Gap t) (r : List Char) :
    nextKey first (t ++ '\x7d' :: r) = .ok (none, '\x7d' :: r) := by
  unfold nextKey
  rw [skipSpace_append_cons h (by decide)]
  rfl

theorem colon_eq_ok : colon s = .ok r ↔ ∃ b, s = b ++ ':' :: r ∧ Gap b := by
  constructor
  · intro h
    obtain ⟨b, hb, hs⟩ := exists_gap s
    rw [hs]
    unfold colon at h
    split at h
    · cases h
    · next heq =>
      cases h
      exact ⟨b, by rw [heq], hb⟩
    · cases h
  · rintro ⟨b, rfl, hb⟩
    rw [colon, skipSpace_append_cons hb (by decide)]
    rfl

end ScriptEnv.Json
