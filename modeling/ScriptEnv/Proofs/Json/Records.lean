import ScriptEnv.Proofs.Json.Frames
import ScriptEnv.Proofs.Json.Reading

namespace ScriptEnv.Json

variable {σ α : Type} {s s' r t : List Char} {first : Bool} {st st' st'' : σ}

structure FieldSpec (σ : Type) where
  field : Field σ
  Fits : σ → List Char → σ → Prop
  reads (st : σ) : Reads (field.read st) (Fits st)

inductive InOrder : List (FieldSpec σ) → σ → List (List Char) → σ → Prop
  | stop {fs : List (FieldSpec σ)} {st : σ} :
    (∀ f ∈ fs, f.field.hasDefault = true) → InOrder fs st [] st
  | item {f : FieldSpec σ} {fs : List (FieldSpec σ)} {st st' st'' : σ} {w : List Char}
    {ws : List (List Char)} :
    f.Fits st w st' → InOrder fs st' ws st'' → InOrder (f :: fs) st (w :: ws) st''

structure Member.Named (m : Member) (k : String) : Prop where
  key : Spells m.key k
  before : Gap m.before
  after : Gap m.after

theorem Member.Named.keyed {m : Member} {k : String} (h : m.Named k) : m.Keyed := by
  obtain ⟨body, hkey, hbody⟩ := h.key
  exact ⟨⟨body, hkey, hbody.body⟩, h.before, h.after⟩

/-- Members taken one after another. Those of no field may be any values; no field is set twice. -/
inductive Gathers (fs : List (FieldSpec σ)) : σ → List Member → σ → Prop
  | done {st : σ} : Gathers fs st [] st
  | unknown {m : Member} {k : String} {ms : List Member} {st st' : σ} :
    m.Named k → fs.find? (·.field.name = k) = none → Form m.value →
    Gathers fs st ms st' → Gathers fs st (m :: ms) st'
  | known {m : Member} {k : String} {f : FieldSpec σ} {ms : List Member} {st st' st'' : σ} :
    m.Named k → fs.find? (·.field.name = k) = some f → f.field.isSet st = false →
    f.Fits st m.value st' → Gathers fs st' ms st'' → Gathers fs st (m :: ms) st''

inductive Record.Denotes (rec : Record σ α) (fs : List (FieldSpec σ)) : List Char → α → Prop
  | list {ws : List (List Char)} {body : List Char} {st : σ} {a : α} :
    Items ws body → InOrder fs rec.start ws st → rec.finish st = .ok a →
    rec.Denotes fs (listed body) a
  | object {ms : List Member} {body : List Char} {st : σ} {a : α} :
    Items (ms.map Member.text) body → Gathers fs rec.start ms st → rec.finish st = .ok a →
    rec.Denotes fs (braced body) a

theorem InOrder.form {fs : List (FieldSpec σ)} {ws : List (List Char)} (h : InOrder fs st ws st') :
    ∀ w ∈ ws, Form w := by
  induction h with
  | stop _ => exact fun w hw ↦ absurd hw List.not_mem_nil
  | @item f fs st st' st'' w ws hw _ ih => exact List.forall_mem_cons.2 ⟨(f.reads st).form hw, ih⟩

theorem InOrder.exists_cons {f : FieldSpec σ} {fs : List (FieldSpec σ)} {ws : List (List Char)}
    (h : InOrder (f :: fs) st ws st') (hf : f.field.hasDefault = false) :
    ∃ w ws' st₁, ws = w :: ws' ∧ f.Fits st w st₁ ∧ InOrder fs st₁ ws' st' := by
  cases h with
  | stop hall =>
    have hdefault := hall f List.mem_cons_self
    rw [hf] at hdefault
    cases hdefault
  | item hw hws => exact ⟨_, _, _, rfl, hw, hws⟩

theorem Gathers.form {fs : List (FieldSpec σ)} {ms : List Member} (h : Gathers fs st ms st') :
    ∀ m ∈ ms, m.Keyed ∧ Form m.value := by
  induction h with
  | done => exact fun m hm ↦ absurd hm List.not_mem_nil
  | unknown hm _ hvalue _ ih => exact List.forall_mem_cons.2 ⟨⟨hm.keyed, hvalue⟩, ih⟩
  | @known m k f ms st st' st'' hm _ _ hvalue _ ih =>
    exact List.forall_mem_cons.2 ⟨⟨hm.keyed, (f.reads st).form hvalue⟩, ih⟩

theorem Record.Denotes.form {rec : Record σ α} {fs : List (FieldSpec σ)} {w : List Char} {a : α}
    (h : rec.Denotes fs w a) : Form w := by
  cases h with
  | list hitems hws _ => exact .list hitems hws.form
  | object hitems hms _ => exact form_object hitems hms.form

theorem inOrder_end {rec : Record σ α} {fields : List (Field σ)} {i : Nat} :
    rec.inOrder fields i first st (']' :: r) = .ok (st', s') ↔
      (∀ f ∈ fields, f.hasDefault = true) ∧ st' = st ∧ s' = ']' :: r := by
  induction fields generalizing i with
  | nil =>
    rw [Record.inOrder, Except.ok.injEq, Prod.mk.injEq, eq_comm, @eq_comm _ (']' :: r)]
    simp only [List.not_mem_nil, false_implies, implies_true, true_and]
  | cons f fields ih =>
    have hnext : nextItem first (']' :: r) = .ok (false, ']' :: r) := nextItem_gap gap_nil r
    rw [Record.inOrder, hnext, List.forall_mem_cons, and_assoc, ← ih (i := i + 1)]
    by_cases hf : f.hasDefault = true
    · simp [bind, Except.bind, hf]
    · simp [bind, Except.bind, hf]

theorem inOrder_sound {rec : Record σ α} {fs : List (FieldSpec σ)} {i : Nat}
    (h : rec.inOrder (fs.map (·.field)) i first st s = .ok (st', s'))
    (hclose : closeList s' = (none, r)) :
    ∃ ws t, s = t ++ ']' :: r ∧ Rest first ws t ∧ InOrder fs st ws st' := by
  induction fs generalizing i first st s with
  | nil =>
    obtain ⟨rfl, rfl⟩ := Prod.mk.inj (Except.ok.inj h)
    obtain ⟨a, rfl, ha⟩ := closeList_eq_none.1 hclose
    exact ⟨[], a, rfl, rest_nil ha, .stop fun f hf ↦ absurd hf List.not_mem_nil⟩
  | cons f fs ih =>
    obtain ⟨⟨more, u⟩, hnext, hitem⟩ := bind_eq_ok.1 h
    cases more with
    | true =>
      obtain ⟨pre, rfl, hpre⟩ := nextItem_more hnext
      obtain ⟨⟨st₁, v⟩, hread, hrest⟩ := bind_eq_ok.1 hitem
      obtain ⟨g, w, rfl, hg, hw⟩ := (f.reads st).sound hread
      obtain ⟨ws, t, rfl, ht, hws⟩ := ih hrest
      exact ⟨w :: ws, pre ++ (g ++ (w ++ t)), by simp, rest_cons hpre hg ht, .item hw hws⟩
    | false =>
      -- No more items: each field left is passed in front of the bracket, which stays unread.
      obtain ⟨a, r', rfl, ha, rfl⟩ := nextItem_none hnext
      dsimp only at hitem
      rw [if_neg Bool.false_ne_true] at hitem
      split at hitem
      · next hf =>
        obtain ⟨hall, rfl, rfl⟩ := inOrder_end.1 hitem
        obtain rfl : r' = r := by simpa [closeList, skipSpace_cons, isSpace] using hclose
        refine ⟨[], a, rfl, rest_nil ha, .stop (List.forall_mem_cons.2 ⟨hf, ?_⟩)⟩
        exact fun f hf ↦ hall _ (List.mem_map_of_mem hf)
      · cases hitem

theorem inOrder_complete {rec : Record σ α} {fs : List (FieldSpec σ)} {ws : List (List Char)} {i : Nat}
    (h : InOrder fs st ws st') (ht : Rest first ws t) (r : List Char) :
    ∃ s', rec.inOrder (fs.map (·.field)) i first st (t ++ ']' :: r) = .ok (st', s') ∧
      closeList s' = (none, r) := by
  induction h generalizing i first t with
  | @stop fs st hall =>
    cases fs with
    | nil => exact ⟨_, rfl, closeList_eq_none.2 ⟨t, rfl, ht.gap⟩⟩
    | cons f fs =>
      obtain ⟨hf, hall⟩ := List.forall_mem_cons.1 hall
      refine ⟨']' :: r, ?_, closeList_eq_none.2 ⟨[], rfl, gap_nil⟩⟩
      refine bind_eq_ok.2 ⟨_, nextItem_gap ht.gap r, ?_⟩
      dsimp only
      rw [if_neg Bool.false_ne_true, if_pos hf]
      exact inOrder_end.2 ⟨List.forall_mem_map.2 hall, rfl, rfl⟩
  | @item f fs st st' st'' w ws hw hws ih =>
    -- The item begins with none of the frame's characters: it is not taken for the closing bracket.
    obtain ⟨pre, t, rfl, hpre, ht⟩ := ht.exists_append
    obtain ⟨s', hrest, hclose⟩ := ih (i := i + 1) (show Rest false ws t from ht)
    refine ⟨s', ?_, hclose⟩
    have hread := (f.reads st).complete gap_nil hw (ht.stops (.inl rfl) r)
    obtain ⟨c, u, rfl, hc⟩ := ((f.reads st).form hw).exists_cons
    simp only [List.append_assoc, List.cons_append, List.nil_append] at hread ⊢
    refine bind_eq_ok.2 ⟨_, nextItem_opens hpre hc _, ?_⟩
    exact bind_eq_ok.2 ⟨_, hread, hrest⟩

variable {rec : Record σ α} {fs : List (FieldSpec σ)}

theorem find?_field (hrec : rec.fields = fs.map (·.field)) (k : String) :
    rec.fields.find? (·.name = k) = (fs.find? (·.field.name = k)).map (·.field) := by
  rw [hrec, List.find?_map]
  rfl

theorem members_sound (hrec : rec.fields = fs.map (·.field)) {n : Nat}
    (h : rec.members n first st s = .ok (st', s')) :
    ∃ ms t r, s = t ++ '\x7d' :: r ∧ s' = '\x7d' :: r ∧ Rest first (ms.map Member.text) t ∧
      Gathers fs st ms st' := by
  -- On the fuel: running out of it is a fault, so nothing has to be known of how much there is.
  induction n generalizing first st s with
  | zero => cases h
  | succ n ih =>
    obtain ⟨⟨key, u⟩, hnext, hkey⟩ := bind_eq_ok.1 h
    cases key with
    | none =>
      obtain ⟨rfl, rfl⟩ := Prod.mk.inj (Except.ok.inj hkey)
      obtain ⟨a, r, rfl, ha, rfl⟩ := nextKey_none hnext
      exact ⟨[], a, r, rfl, rfl, rest_nil ha, .done⟩
    | some k =>
      obtain ⟨pre, key, rfl, hpre, hk⟩ := nextKey_some hnext
      dsimp only at hkey
      rw [find?_field hrec] at hkey
      cases hfind : fs.find? (·.field.name = k) with
      | none =>
        rw [hfind] at hkey
        obtain ⟨v, hcolon, hvalue⟩ := bind_eq_ok.1 hkey
        obtain ⟨v', hskip, hrest⟩ := bind_eq_ok.1 hvalue
        obtain ⟨b, rfl, hb⟩ := colon_eq_ok.1 hcolon
        obtain ⟨g, w, rfl, hg, hw⟩ := skip_sound hskip
        obtain ⟨ms, t, r, rfl, hs', ht, hms⟩ := ih hrest
        have htext := rest_cons (w := (Member.mk key b g w).text) hpre gap_nil ht
        refine ⟨⟨key, b, g, w⟩ :: ms, _, r, ?_, hs', htext, .unknown ⟨hk, hb, hg⟩ hfind hw hms⟩
        simp [Member.text]
      | some f =>
        rw [hfind] at hkey
        change (if f.field.isSet st then _ else _) = _ at hkey
        split at hkey
        · cases hkey
        · next hset =>
          obtain ⟨v, hcolon, hvalue⟩ := bind_eq_ok.1 hkey
          obtain ⟨⟨st₁, v'⟩, hread, hrest⟩ := bind_eq_ok.1 hvalue
          obtain ⟨b, rfl, hb⟩ := colon_eq_ok.1 hcolon
          obtain ⟨g, w, rfl, hg, hw⟩ := (f.reads st).sound hread
          obtain ⟨ms, t, r, rfl, hs', ht, hms⟩ := ih hrest
          have htext := rest_cons (w := (Member.mk key b g w).text) hpre gap_nil ht
          refine ⟨⟨key, b, g, w⟩ :: ms, _, r, ?_, hs', htext,
            .known ⟨hk, hb, hg⟩ hfind (Bool.not_eq_true _ ▸ hset) hw hms⟩
          simp [Member.text]

theorem members_complete (hrec : rec.fields = fs.map (·.field)) {ms : List Member} {n : Nat}
    (h : Gathers fs st ms st') (ht : Rest first (ms.map Member.text) t) (hn : ms.length < n)
    (r : List Char) : rec.members n first st (t ++ '\x7d' :: r) = .ok (st', '\x7d' :: r) := by
  induction h generalizing n first t with
  | done =>
    obtain ⟨n, rfl⟩ := Nat.exists_eq_add_one.2 (Nat.zero_lt_of_lt hn)
    exact bind_eq_ok.2 ⟨_, nextKey_gap ht.gap r, rfl⟩
  | @unknown m k ms st st' hm hfind hvalue hms ih =>
    obtain ⟨n, rfl⟩ := Nat.exists_eq_add_one.2 (Nat.zero_lt_of_lt hn)
    obtain ⟨pre, t, rfl, hpre, ht⟩ := ht.exists_append
    simp only [Member.text, List.append_assoc, List.cons_append]
    refine bind_eq_ok.2 ⟨_, nextKey_opens hpre hm.key _, ?_⟩
    dsimp only
    rw [find?_field hrec, hfind]
    refine bind_eq_ok.2 ⟨_, colon_eq_ok.2 ⟨m.before, rfl, hm.before⟩, ?_⟩
    refine bind_eq_ok.2 ⟨_, skip_complete hm.after hvalue (ht.stops (.inr rfl) r), ?_⟩
    exact ih ht (Nat.lt_of_succ_lt_succ hn)
  | @known m k f ms st st' st'' hm hfind hset hvalue hms ih =>
    obtain ⟨n, rfl⟩ := Nat.exists_eq_add_one.2 (Nat.zero_lt_of_lt hn)
    obtain ⟨pre, t, rfl, hpre, ht⟩ := ht.exists_append
    simp only [Member.text, List.append_assoc, List.cons_append]
    refine bind_eq_ok.2 ⟨_, nextKey_opens hpre hm.key _, ?_⟩
    dsimp only
    rw [find?_field hrec, hfind]
    change (if f.field.isSet st then _ else _) = _
    rw [hset, if_neg Bool.false_ne_true]
    refine bind_eq_ok.2 ⟨_, colon_eq_ok.2 ⟨m.before, rfl, hm.before⟩, ?_⟩
    refine bind_eq_ok.2 ⟨_, (f.reads st).complete hm.after hvalue (ht.stops (.inr rfl) r), ?_⟩
    exact ih ht (Nat.lt_of_succ_lt_succ hn)

theorem finished_eq_ok {body : Except Fault (σ × List Char)} {a : α} :
    rec.finished body = .ok (a, s) ↔ ∃ st, body = .ok (st, s) ∧ rec.finish st = .ok a := by
  constructor
  · intro h
    obtain ⟨⟨st, s'⟩, hbody, h⟩ := bind_eq_ok.1 h
    dsimp only at h
    split at h
    · next hfinish =>
      obtain ⟨rfl, rfl⟩ := Prod.mk.inj (Except.ok.inj h)
      exact ⟨st, hbody, hfinish⟩
    · cases h
  · rintro ⟨st, rfl, hfinish⟩
    refine bind_eq_ok.2 ⟨(st, s), rfl, ?_⟩
    dsimp only
    rw [hfinish]

theorem Tail.length_le {ws : List (List Char)} (h : Tail ws t) : ws.length ≤ t.length := by
  induction h with
  | last _ => exact Nat.zero_le _
  | next _ _ _ ih =>
    simp only [List.length_append, List.length_cons]
    omega

theorem Items.length_le {ws : List (List Char)} (h : Items ws t) : ws.length ≤ t.length + 1 := by
  cases h with
  | none _ => exact Nat.zero_le _
  | some _ htail =>
    have hlength := htail.length_le
    simp only [List.length_append, List.length_cons]
    omega

theorem Record.read_sound (hrec : rec.fields = fs.map (·.field)) {a : α}
    (h : rec.read s = .ok (a, r)) : ∃ g w, s = g ++ (w ++ r) ∧ Gap g ∧ rec.Denotes fs w a := by
  obtain ⟨g, hg, hs⟩ := exists_gap s
  rw [hs]
  unfold Record.read at h
  split at h
  · cases h
  · next heq =>
    obtain ⟨s', hbody, hclose⟩ := enclosed_eq_ok.1 h
    obtain ⟨st, horder, hfinish⟩ := finished_eq_ok.1 hbody
    rw [hrec] at horder
    obtain ⟨ws, t, rfl, ht, hws⟩ := inOrder_sound horder hclose
    exact ⟨g, listed t, by simp [heq, listed], hg, .list ht hws hfinish⟩
  · next heq =>
    obtain ⟨s', hbody, hclose⟩ := enclosed_eq_ok.1 h
    obtain ⟨st, hmembers, hfinish⟩ := finished_eq_ok.1 hbody
    obtain ⟨ms, t, r', rfl, rfl, ht, hms⟩ := members_sound hrec hmembers
    obtain rfl : r' = r := by simpa [closeObject, skipSpace_cons, isSpace] using hclose
    exact ⟨g, braced t, by simp [heq, braced], hg, .object ht hms hfinish⟩
  · cases h

theorem Record.read_complete (hrec : rec.fields = fs.map (·.field)) {g w : List Char} {a : α}
    (hg : Gap g) (h : rec.Denotes fs w a) : rec.read (g ++ (w ++ r)) = .ok (a, r) := by
  unfold Record.read
  cases h with
  | @list ws body st a hitems hws hfinish =>
    rw [listed, List.cons_append, skipSpace_append_cons hg (by decide), List.append_assoc]
    obtain ⟨s', horder, hclose⟩ := inOrder_complete hws (show Rest true ws body from hitems) r
    exact enclosed_eq_ok.2 ⟨s', finished_eq_ok.2 ⟨st, hrec ▸ horder, hfinish⟩, hclose⟩
  | @object ms body st a hitems hms hfinish =>
    rw [braced, List.cons_append, skipSpace_append_cons hg (by decide), List.append_assoc]
    have hlength := hitems.length_le
    rw [List.length_map] at hlength
    have hrest : Rest true (ms.map Member.text) body := hitems
    have hmembers := members_complete hrec hms hrest (n := (body ++ '\x7d' :: r).length + 1)
      (by simp only [List.length_append, List.length_cons]; omega) r
    exact enclosed_eq_ok.2 ⟨_, finished_eq_ok.2 ⟨st, hmembers, hfinish⟩,
      closeObject_eq_none.2 ⟨[], rfl, gap_nil⟩⟩

theorem Record.reads (hrec : rec.fields = fs.map (·.field)) : Reads rec.read (rec.Denotes fs) where
  sound := Record.read_sound hrec
  complete hg h _ := Record.read_complete hrec hg h
  form := Record.Denotes.form

end ScriptEnv.Json
