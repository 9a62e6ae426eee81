import ScriptEnv.Proofs.Json.Skipping

namespace ScriptEnv.Json

variable {a a' b b' r r' s t w w' : List Char} {ws ws' : List (List Char)}

theorem gap_append_inj {c c' : Char} (ha : Gap a) (ha' : Gap a') (hc : isSpace c = false)
    (hc' : isSpace c' = false) (h : a ++ c :: t = a' ++ c' :: r) : a = a' ∧ c :: t = c' :: r := by
  have hskip := congrArg skipSpace h
  rw [skipSpace_append_cons ha hc, skipSpace_append_cons ha' hc'] at hskip
  rw [hskip] at h
  exact ⟨List.append_cancel_right h, hskip⟩

/-- Texts that are told from what stands before and after them. -/
structure Tokens (P : List Char → Prop) : Prop where
  begins {w : List Char} : P w → ∃ c t, w = c :: t ∧ Begins c
  ends {w w' r r' : List Char} : P w → P w' → Stops r → Stops r' → w ++ r = w' ++ r' → r = r'

theorem Tokens.split {P : List Char → Prop} (hP : Tokens P) (ha : Gap a) (ha' : Gap a') (hw : P w)
    (hw' : P w') (hr : Stops r) (hr' : Stops r') (h : a ++ (w ++ r) = a' ++ (w' ++ r')) :
    a = a' ∧ w = w' ∧ r = r' := by
  obtain ⟨c, t, rfl, hc⟩ := hP.begins hw
  obtain ⟨c', t', rfl, hc'⟩ := hP.begins hw'
  obtain ⟨hgap, hrest⟩ := gap_append_inj ha ha' hc.1 hc'.1 h
  obtain rfl := hP.ends hw hw' hr hr' hrest
  exact ⟨hgap, List.append_cancel_right hrest, rfl⟩

theorem tokens_form : Tokens Form where
  begins := Form.exists_cons
  ends := by
    intro w w' r r' hw hw' hr hr' h
    have hskip := skip_complete gap_nil hw hr
    rw [List.nil_append, h] at hskip
    exact Except.ok.inj (hskip.symm.trans (skip_complete gap_nil hw' hr'))

theorem quoted_append_inj (hb : Body b) (hb' : Body b') (h : quoted b ++ r = quoted b' ++ r') :
    b = b' ∧ r = r' := by
  have hbody : b ++ '"' :: r = b' ++ '"' :: r' := by simpa [quoted] using h
  have hskip := skipString_complete hb r
  rw [hbody, skipString_complete hb'] at hskip
  obtain rfl := Except.ok.inj hskip
  exact ⟨List.append_cancel_right hbody, rfl⟩

theorem Member.text_append_inj {m m' : Member} (hm : m.Keyed) (hm' : m'.Keyed) (hv : Form m.value)
    (hv' : Form m'.value) (hr : Stops r) (hr' : Stops r') (h : m.text ++ r = m'.text ++ r') :
    m = m' ∧ r = r' := by
  obtain ⟨key, before, after, value⟩ := m
  obtain ⟨key', before', after', value'⟩ := m'
  obtain ⟨⟨body, rfl, hbody⟩, hbefore, hafter⟩ := hm
  obtain ⟨⟨body', rfl, hbody'⟩, hbefore', hafter'⟩ := hm'
  simp only [Member.text, List.append_assoc, List.cons_append] at h
  obtain ⟨hkey, hcolon⟩ := quoted_append_inj hbody hbody' h
  obtain ⟨hbefores, hvalue⟩ := gap_append_inj hbefore hbefore' (by decide) (by decide) hcolon
  obtain ⟨hafters, hvalues, hrest⟩ :=
    tokens_form.split hafter hafter' hv hv' hr hr' (List.cons.inj hvalue).2
  dsimp only at hbefores hafters hvalues
  rw [hkey, hbefores, hafters, hvalues]
  exact ⟨rfl, hrest⟩

def MemberText (w : List Char) : Prop := ∃ m : Member, w = m.text ∧ m.Keyed ∧ Form m.value

theorem tokens_memberText : Tokens MemberText where
  begins := by
    rintro w ⟨m, rfl, hm, -⟩
    obtain ⟨u, hu⟩ := hm.exists_cons
    exact ⟨'"', u, hu, by decide⟩
  ends := by
    rintro w w' r r' ⟨m, rfl, hm, hv⟩ ⟨m', rfl, hm', hv'⟩ hr hr' h
    exact (Member.text_append_inj hm hm' hv hv' hr hr' h).2

theorem Tail.stops_self (h : Tail ws t) : Stops t := by
  cases h with
  | last hb => exact hb.stops
  | next hb _ _ => exact hb.stops_append (stops_cons (.inl rfl))

theorem comma_notMem_gap (h : Gap s) : ',' ∉ s :=
  fun hmem ↦ absurd (h _ hmem) (by decide)

theorem Tail.unique {P : List Char → Prop} (hP : Tokens P) (h : Tail ws t) (h' : Tail ws' t)
    (hws : ∀ w ∈ ws, P w) (hws' : ∀ w ∈ ws', P w) : ws = ws' := by
  induction h generalizing ws' with
  | last hb =>
    cases h' with
    | last _ => rfl
    | next _ _ _ => exact absurd (List.mem_append_right _ List.mem_cons_self) (comma_notMem_gap hb)
  | @next b a w t ws hb ha ht ih =>
    obtain ⟨hw, hws⟩ := List.forall_mem_cons.1 hws
    generalize hs : b ++ ',' :: (a ++ (w ++ t)) = s at h'
    cases h' with
    | last hb' =>
      rw [← hs] at hb'
      exact absurd (List.mem_append_right _ List.mem_cons_self) (comma_notMem_gap hb')
    | @next b' a' w' t' ws' hb' ha' ht' =>
      obtain ⟨hw', hws'⟩ := List.forall_mem_cons.1 hws'
      obtain ⟨-, hcomma⟩ := gap_append_inj hb hb' (by decide) (by decide) hs
      obtain ⟨-, hitem, htail⟩ :=
        hP.split ha ha' hw hw' ht.stops_self ht'.stops_self (List.cons.inj hcomma).2
      rw [hitem, ih (htail ▸ ht') hws hws']

theorem Tokens.not_gap {P : List Char → Prop} (hP : Tokens P) (hw : P w) :
    ¬Gap (a ++ (w ++ t)) := by
  obtain ⟨c, u, rfl, hc⟩ := hP.begins hw
  intro h
  have hspace := h c (List.mem_append_right _ List.mem_cons_self)
  rw [hc.1] at hspace
  cases hspace

theorem Items.unique {P : List Char → Prop} (hP : Tokens P) (h : Items ws t) (h' : Items ws' t)
    (hws : ∀ w ∈ ws, P w) (hws' : ∀ w ∈ ws', P w) : ws = ws' := by
  cases h with
  | none ha =>
    cases h' with
    | none _ => rfl
    | some _ _ => exact absurd ha (hP.not_gap (hws' _ List.mem_cons_self))
  | @some a w t ws ha ht =>
    obtain ⟨hw, hws⟩ := List.forall_mem_cons.1 hws
    generalize hs : a ++ (w ++ t) = s at h'
    cases h' with
    | none ha' => exact absurd (hs ▸ ha') (hP.not_gap hw)
    | @some a' w' t' ws' ha' ht' =>
      obtain ⟨hw', hws'⟩ := List.forall_mem_cons.1 hws'
      obtain ⟨-, hitem, htail⟩ := hP.split ha ha' hw hw' ht.stops_self ht'.stops_self hs
      rw [hitem, ht.unique hP (htail ▸ ht') hws hws']

theorem Member.text_inj {m m' : Member} (hm : m.Keyed ∧ Form m.value)
    (hm' : m'.Keyed ∧ Form m'.value) (h : m.text = m'.text) : m = m' :=
  (Member.text_append_inj hm.1 hm'.1 hm.2 hm'.2 gap_nil.stops gap_nil.stops
    (congrArg (· ++ []) h)).1

theorem members_unique {ms ms' : List Member} (h : Items (ms.map Member.text) t)
    (h' : Items (ms'.map Member.text) t) (hms : ∀ m ∈ ms, m.Keyed ∧ Form m.value)
    (hms' : ∀ m ∈ ms', m.Keyed ∧ Form m.value) : ms = ms' := by
  have hmem : ∀ {ms : List Member}, (∀ m ∈ ms, m.Keyed ∧ Form m.value) →
      ∀ w ∈ ms.map Member.text, MemberText w :=
    fun hms ↦ List.forall_mem_map.2 fun m hm ↦ ⟨m, rfl, hms m hm⟩
  have htexts := h.unique tokens_memberText h' (hmem hms) (hmem hms')
  clear h h'
  induction ms generalizing ms' with
  | nil => exact (List.map_eq_nil_iff.1 htexts.symm).symm
  | cons m ms ih =>
    obtain ⟨m', ms', rfl, hm', htail⟩ := List.map_eq_cons_iff.1 htexts.symm
    obtain ⟨hm, hms⟩ := List.forall_mem_cons.1 hms
    obtain ⟨hkeyed', hms'⟩ := List.forall_mem_cons.1 hms'
    rw [Member.text_inj hm hkeyed' hm'.symm, ih hms hms' htail.symm]

theorem listed_inj (h : listed b = listed b') : b = b' :=
  List.append_cancel_right (List.cons.inj h).2

theorem braced_inj (h : braced b = braced b') : b = b' :=
  List.append_cancel_right (List.cons.inj h).2

end ScriptEnv.Json
