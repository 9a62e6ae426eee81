import Mathlib.Data.List.Forall2
import Mathlib.Data.List.Nodup
import ScriptEnv.Proofs.Json.Records
import ScriptEnv.Proofs.Json.Values

namespace ScriptEnv.Json

structure Entry where
  name : String
  value : List Char
  form : Form value

/-- The member is the entry, with its name in some spelling and any space around the colon. -/
structure Member.Spells (m : Member) (e : Entry) : Prop where
  named : m.Named e.name
  value : m.value = e.value

def Renders (es : List Entry) (body : List Char) : Prop :=
  ∃ ms, Items (ms.map Member.text) body ∧ List.Forall₂ Member.Spells ms es

def valuesOf (es : List Entry) (k : String) : List (List Char) :=
  (es.filter (·.name = k)).map (·.value)

variable {σ α : Type} {st st' : σ} {es : List Entry} {ms : List Member} {k : String}
  {body : List Char}

theorem valuesOf_cons_self {e : Entry} (h : e.name = k) :
    valuesOf (e :: es) k = e.value :: valuesOf es k := by
  simp [valuesOf, h]

theorem valuesOf_cons_of_ne {e : Entry} (h : e.name ≠ k) : valuesOf (e :: es) k = valuesOf es k := by
  simp [valuesOf, h]

theorem Spells.unique {w : List Char} {t t' : String} (h : Spells w t) (h' : Spells w t') : t = t' :=
  reads_text.unique h h'

theorem forall_form_of_spells (h : List.Forall₂ Member.Spells ms es) :
    ∀ m ∈ ms, m.Keyed ∧ Form m.value := by
  induction h with
  | nil => exact fun m hm ↦ absurd hm List.not_mem_nil
  | @cons m e ms es hm _ ih =>
    exact List.forall_mem_cons.2 ⟨⟨hm.named.keyed, hm.value ▸ e.form⟩, ih⟩

theorem Renders.form (h : Renders es body) : Form (braced body) := by
  obtain ⟨ms, hitems, hms⟩ := h
  exact form_object hitems (forall_form_of_spells hms)

theorem entries_unique {es' : List Entry} (h : List.Forall₂ Member.Spells ms es)
    (h' : List.Forall₂ Member.Spells ms es') : es = es' := by
  induction h generalizing es' with
  | nil =>
    cases h'
    rfl
  | @cons m e ms es hm _ ih =>
    cases h' with
    | @cons _ e' _ es' hm' hms' =>
      obtain ⟨name, value, _⟩ := e
      obtain ⟨name', value', _⟩ := e'
      obtain rfl : name = name' := hm.named.key.unique hm'.named.key
      obtain rfl : value = value' := hm.value.symm.trans hm'.value
      rw [ih hms']

theorem Renders.unique {es' : List Entry} (h : Renders es body) (h' : Renders es' body) : es = es' := by
  obtain ⟨ms, hitems, hms⟩ := h
  obtain ⟨ms', hitems', hms'⟩ := h'
  obtain rfl := members_unique hitems hitems' (forall_form_of_spells hms) (forall_form_of_spells hms')
  exact entries_unique hms hms'

/-- A text of one object with these entries, and space around it. -/
def ObjectOf (es : List Entry) (s : List Char) : Prop :=
  ∃ body, Renders es body ∧ Alone (braced body) s

theorem Gathers.exists_entries {fs : List (FieldSpec σ)} (h : Gathers fs st ms st') :
    ∃ es, List.Forall₂ Member.Spells ms es := by
  induction h with
  | done => exact ⟨[], .nil⟩
  | @unknown m k _ _ _ hm _ hvalue _ ih =>
    obtain ⟨es, hes⟩ := ih
    exact ⟨⟨k, m.value, hvalue⟩ :: es, .cons ⟨hm, rfl⟩ hes⟩
  | @known m k f _ st _ _ hm _ _ hvalue _ ih =>
    obtain ⟨es, hes⟩ := ih
    exact ⟨⟨k, m.value, (f.reads st).form hvalue⟩ :: es, .cons ⟨hm, rfl⟩ hes⟩

/-- What the values under one name make of a slot: none leaves it, one fills it if it is empty. -/
inductive Settles (R : List Char → α → Prop) : List (List Char) → Option α → Option α → Prop
  | kept {o : Option α} : Settles R [] o o
  | filled {w : List Char} {a : α} : R w a → Settles R [w] none (some a)

structure Slot (σ : Type) where
  spec : FieldSpec σ
  Value : Type
  get : σ → Option Value
  put : σ → Value → σ
  Denotes : List Char → Value → Prop
  isSet (st : σ) : spec.field.isSet st = (get st).isSome
  fits {st st' : σ} {w : List Char} : spec.Fits st w st' ↔ ∃ a, Denotes w a ∧ st' = put st a

namespace Slot

def name (s : Slot σ) : String := s.spec.field.name

/-- What the entries make of the slot. -/
def Settles (s : Slot σ) (es : List Entry) (st st' : σ) : Prop :=
  Json.Settles s.Denotes (valuesOf es s.name) (s.get st) (s.get st')

def of (name : String) (get : σ → Option α) (put : σ → α → σ) {read : Reader α}
    {R : List Char → α → Prop} (hread : Reads read R) (hasDefault : Bool) : Slot σ where
  spec :=
    { field := ⟨name, fun st ↦ (get st).isSome, fun st s ↦ (read s).map fun (a, r) ↦ (put st a, r),
        hasDefault⟩
      Fits := fun st w st' ↦ ∃ a, R w a ∧ st' = put st a
      reads := fun st ↦ hread.map (put st) }
  Value := α
  get := get
  put := put
  Denotes := R
  isSet _ := rfl
  fits := Iff.rfl

end Slot

/-- Slots that do not touch one another and hold all of a state. -/
structure Separate (slots : List (Slot σ)) : Prop where
  nodup : (slots.map Slot.name).Nodup
  get_put {s : Slot σ} : s ∈ slots → ∀ st a, s.get (s.put st a) = some a
  get_put_of_ne {s t : Slot σ} : s ∈ slots → t ∈ slots → s.name ≠ t.name →
    ∀ st a, t.get (s.put st a) = t.get st
  ext {st st' : σ} : (∀ s ∈ slots, s.get st = s.get st') → st = st'

variable {slots : List (Slot σ)}

theorem Separate.eq_of_name (h : Separate slots) {s t : Slot σ} (hs : s ∈ slots) (ht : t ∈ slots)
    (hname : s.name = t.name) : s = t :=
  List.inj_on_of_nodup_map h.nodup hs ht hname

theorem find?_slot_none (h : (slots.map Slot.spec).find? (·.field.name = k) = none) :
    ∀ s ∈ slots, k ≠ s.name := by
  intro s hs hk
  exact List.find?_eq_none.1 h s.spec (List.mem_map_of_mem hs) (decide_eq_true hk.symm)

theorem find?_slot_some {f : FieldSpec σ}
    (h : (slots.map Slot.spec).find? (·.field.name = k) = some f) :
    ∃ s ∈ slots, s.spec = f ∧ k = s.name := by
  obtain ⟨s, hs, rfl⟩ := List.mem_map.1 (List.mem_of_find?_eq_some h)
  have hk := List.find?_some h
  exact ⟨s, hs, rfl, (of_decide_eq_true hk).symm⟩

theorem Slot.settles_cons_self {s : Slot σ} {e : Entry} (hname : e.name = s.name) :
    s.Settles (e :: es) st st' ↔
      valuesOf es s.name = [] ∧ s.get st = none ∧ ∃ a, s.Denotes e.value a ∧ s.get st' = some a := by
  rw [Slot.Settles, valuesOf_cons_self hname]
  constructor
  · intro h
    generalize hws : e.value :: valuesOf es s.name = ws at h
    generalize hst : s.get st = o at h
    generalize hst' : s.get st' = o' at h
    cases h with
    | kept => cases hws
    | filled ha =>
      obtain ⟨rfl, hnil⟩ := List.cons.inj hws
      exact ⟨hnil, rfl, _, ha, rfl⟩
  · rintro ⟨hnil, hst, a, ha, hst'⟩
    rw [hnil, hst, hst']
    exact .filled ha

theorem Slot.settles_cons_of_ne {s : Slot σ} {e : Entry} (hname : e.name ≠ s.name) :
    s.Settles (e :: es) st st' ↔ s.Settles es st st' := by
  rw [Slot.Settles, Slot.Settles, valuesOf_cons_of_ne hname]

theorem Slot.settles_some {s : Slot σ} {a : s.Value} (h : s.get st = some a) :
    s.Settles es st st' ↔ valuesOf es s.name = [] ∧ s.get st' = some a := by
  rw [Slot.Settles, h]
  constructor
  · intro h
    generalize valuesOf es s.name = ws at h
    generalize s.get st' = o' at h
    cases h
    exact ⟨rfl, rfl⟩
  · rintro ⟨hnil, hst'⟩
    rw [hnil, hst']
    exact .kept

theorem Slot.settles_nil {s : Slot σ} : s.Settles [] st st' ↔ s.get st = s.get st' := by
  rw [Slot.Settles]
  constructor
  · intro h
    generalize s.get st = o at h
    generalize s.get st' = o' at h
    cases h
    rfl
  · intro h
    rw [h]
    exact .kept

/-- The slot of the first entry is filled, and from there on kept; no other slot sees it. -/
theorem Separate.settles_put_iff (hslots : Separate slots) {s : Slot σ} {e : Entry} {a : s.Value}
    (hs : s ∈ slots) (hname : e.name = s.name) (hget : s.get st = none)
    (ha : s.Denotes e.value a) :
    (∀ t ∈ slots, t.Settles es (s.put st a) st') ↔
      s.get st' = some a ∧ ∀ t ∈ slots, t.Settles (e :: es) st st' := by
  have hself : s.Settles es (s.put st a) st' ↔ valuesOf es s.name = [] ∧ s.get st' = some a :=
    Slot.settles_some (hslots.get_put hs st a)
  have hother : ∀ {t}, t ∈ slots → s.name ≠ t.name →
      (t.Settles es (s.put st a) st' ↔ t.Settles (e :: es) st st') := by
    intro t ht hne
    rw [Slot.settles_cons_of_ne (hname ▸ hne), Slot.Settles, Slot.Settles,
      hslots.get_put_of_ne hs ht hne]
  constructor
  · intro h
    obtain ⟨hnil, hst'⟩ := hself.1 (h s hs)
    refine ⟨hst', fun t ht ↦ ?_⟩
    by_cases hne : s.name = t.name
    · obtain rfl := hslots.eq_of_name hs ht hne
      exact (Slot.settles_cons_self hname).2 ⟨hnil, hget, a, ha, hst'⟩
    · exact (hother ht hne).1 (h t ht)
  · rintro ⟨hst', h⟩ t ht
    by_cases hne : s.name = t.name
    · obtain rfl := hslots.eq_of_name hs ht hne
      exact hself.2 ⟨((Slot.settles_cons_self hname).1 (h s hs)).1, hst'⟩
    · exact (hother ht hne).2 (h t ht)

theorem gathers_iff (hslots : Separate slots) (hms : List.Forall₂ Member.Spells ms es) :
    Gathers (slots.map Slot.spec) st ms st' ↔ ∀ s ∈ slots, s.Settles es st st' := by
  induction hms generalizing st with
  | nil =>
    constructor
    · intro h
      cases h
      exact fun s _ ↦ Slot.settles_nil.2 rfl
    · intro h
      obtain rfl := hslots.ext fun s hs ↦ Slot.settles_nil.1 (h s hs)
      exact .done
  | @cons m e ms es hm _ ih =>
    constructor
    · intro h
      cases h with
      | unknown hk hfind _ htail =>
        obtain rfl := hk.key.unique hm.named.key
        intro s hs
        exact (Slot.settles_cons_of_ne (find?_slot_none hfind s hs)).2 (ih.1 htail s hs)
      | known hk hfind hset hfits htail =>
        obtain rfl := hk.key.unique hm.named.key
        obtain ⟨s, hs, rfl, hname⟩ := find?_slot_some hfind
        obtain ⟨a, ha, rfl⟩ := s.fits.1 hfits
        rw [s.isSet, Option.isSome_eq_false_iff, Option.isNone_iff_eq_none] at hset
        exact ((hslots.settles_put_iff hs hname hset (hm.value ▸ ha)).1 (ih.1 htail)).2
    · intro h
      cases hfind : (slots.map Slot.spec).find? (·.field.name = e.name) with
      | none =>
        refine .unknown hm.named hfind (hm.value ▸ e.form) (ih.2 fun s hs ↦ ?_)
        exact (Slot.settles_cons_of_ne (find?_slot_none hfind s hs)).1 (h s hs)
      | some f =>
        obtain ⟨s, hs, rfl, hname⟩ := find?_slot_some hfind
        obtain ⟨-, hget, a, ha, hst'⟩ := (Slot.settles_cons_self hname).1 (h s hs)
        have htail := (hslots.settles_put_iff hs hname hget ha).2 ⟨hst', h⟩
        refine .known hm.named hfind ?_ (s.fits.2 ⟨a, hm.value ▸ ha, rfl⟩) (ih.2 htail)
        rw [s.isSet, hget]
        rfl

section

variable {R : List Char → α → Prop} {a default : α}

def Given (R : List Char → α → Prop) (default : α) : Option (List Char) → α → Prop
  | none, a => a = default
  | some w, a => R w a

def Once (es : List Entry) (k : String) (R : List Char → α → Prop) (a : α) : Prop :=
  ∃ w, valuesOf es k = [w] ∧ R w a

def AtMostOnce (es : List Entry) (k : String) (R : List Char → α → Prop) (default a : α) : Prop :=
  ∃ o : Option (List Char), valuesOf es k = o.toList ∧ Given R default o a

theorem once_iff : Once es k R a ↔ Json.Settles R (valuesOf es k) none (some a) := by
  constructor
  · rintro ⟨w, hw, ha⟩
    rw [hw]
    exact .filled ha
  · intro h
    rw [Once]
    generalize valuesOf es k = ws at h
    cases h with
    | filled ha => exact ⟨_, rfl, ha⟩

theorem atMostOnce_iff :
    AtMostOnce es k R default a ↔ ∃ o, Json.Settles R (valuesOf es k) none o ∧ o.getD default = a := by
  constructor
  · rintro ⟨_ | w, hw, h⟩
    · exact ⟨none, hw ▸ .kept, h.symm⟩
    · exact ⟨some a, hw ▸ .filled h, rfl⟩
  · rintro ⟨o, h, rfl⟩
    rw [AtMostOnce]
    generalize valuesOf es k = ws at h
    cases h with
    | kept => exact ⟨none, rfl, rfl⟩
    | filled ha => exact ⟨some _, rfl, ha⟩

end

theorem once_of_valuesOf {R : List Char → α → Prop} {w : List Char} {a : α} (h : valuesOf es k = [w]) :
    Once es k R a ↔ R w a := by
  rw [Once, h]
  constructor
  · rintro ⟨w', hw, ha⟩
    obtain rfl := List.singleton_inj.1 hw
    exact ha
  · exact fun ha ↦ ⟨w, rfl, ha⟩

theorem denotes_braced_iff {rec : Record σ α} (hslots : Separate slots) (h : Renders es body) {a : α} :
    rec.Denotes (slots.map Slot.spec) (braced body) a ↔
      ∃ st, (∀ s ∈ slots, s.Settles es rec.start st) ∧ rec.finish st = .ok a := by
  obtain ⟨ms, hitems, hms⟩ := h
  constructor
  · intro h
    generalize hw : braced body = w at h
    cases h with
    | list _ _ _ => cases (List.cons.inj hw).1
    | @object ms' body' st a hitems' hgathers hfinish =>
      obtain rfl := braced_inj hw
      obtain rfl := members_unique hitems hitems' (forall_form_of_spells hms) hgathers.form
      exact ⟨st, (gathers_iff hslots hms).1 hgathers, hfinish⟩
  · rintro ⟨st, hsettles, hfinish⟩
    exact .object hitems ((gathers_iff hslots hms).2 hsettles) hfinish

end ScriptEnv.Json
