import ScriptEnv.Proofs.Payload.Fields
import ScriptEnv.Proofs.Runner.Run

namespace ScriptEnv.Payload

open Json (Alone InOrder Items Spells braced listed)

/-- What follows the first six items: a driver, tuning after it, and the standard for what is left
out. -/
inductive Extras : List (List Char) → Driver → Tuning → Prop
  | none : Extras [] default .standard
  | driver {w : List Char} {d : Driver} : DriverForm w d → Extras [w] d .standard
  | both {w v : List Char} {d : Driver} {t : Tuning} :
    DriverForm w d → Tuning.Form v t → Extras [w, v] d t

inductive Listed : List (List Char) → Payload → Prop
  | intro {u w h n d s : List Char} {ws : List (List Char)} {p : Payload} :
    Spells u p.username → Spells w p.password → Spells h p.host → PortForm n p.port →
    Spells d p.database → Spells s p.scriptName → Extras ws p.driver p.tuning →
    Listed (u :: w :: h :: n :: d :: s :: ws) p

theorem listed_iff {ws : List (List Char)} {p : Payload} :
    (∃ st, InOrder specs .empty ws st ∧ st.complete = .ok p) ↔ Listed ws p := by
  constructor
  · rintro ⟨st, horder, hcomplete⟩
    obtain ⟨u, ws, _, rfl, ⟨username, hu, rfl⟩, horder⟩ := horder.exists_cons rfl
    obtain ⟨w, ws, _, rfl, ⟨password, hw, rfl⟩, horder⟩ := horder.exists_cons rfl
    obtain ⟨h, ws, _, rfl, ⟨host, hh, rfl⟩, horder⟩ := horder.exists_cons rfl
    obtain ⟨n, ws, _, rfl, ⟨port, hn, rfl⟩, horder⟩ := horder.exists_cons rfl
    obtain ⟨d, ws, _, rfl, ⟨database, hd, rfl⟩, horder⟩ := horder.exists_cons rfl
    obtain ⟨s, ws, _, rfl, ⟨scriptName, hs, rfl⟩, horder⟩ := horder.exists_cons rfl
    cases horder with
    | stop _ =>
      cases hcomplete
      exact .intro hu hw hh hn hd hs .none
    | item hdriver horder =>
      obtain ⟨driver, hdriver, rfl⟩ := hdriver
      cases horder with
      | stop _ =>
        cases hcomplete
        exact .intro hu hw hh hn hd hs (.driver hdriver)
      | item htuning horder =>
        obtain ⟨tuning, htuning, rfl⟩ := htuning
        cases horder
        cases hcomplete
        exact .intro hu hw hh hn hd hs (.both hdriver htuning)
  · intro h
    obtain ⟨username, password, host, port, database, scriptName, driver, tuning⟩ := p
    obtain @⟨u, w, h, n, d, s, ws, -, hu, hw, hh, hn, hd, hs, hextras⟩ := h
    have hsix : ∀ {st}, InOrder (specs.drop 6)
        ⟨username, password, host, port, database, scriptName, none, none⟩ ws st →
        InOrder specs .empty (u :: w :: h :: n :: d :: s :: ws) st := fun hrest ↦
      .item ⟨_, hu, rfl⟩ <| .item ⟨_, hw, rfl⟩ <| .item ⟨_, hh, rfl⟩ <| .item ⟨_, hn, rfl⟩ <|
        .item ⟨_, hd, rfl⟩ <| .item ⟨_, hs, rfl⟩ hrest
    dsimp only at hextras
    cases hextras with
    | none => exact ⟨_, hsix (.stop (by decide)), rfl⟩
    | driver hdriver => exact ⟨_, hsix (.item ⟨_, hdriver, rfl⟩ (.stop (by decide))), rfl⟩
    | both hdriver htuning =>
      exact ⟨_, hsix (.item ⟨_, hdriver, rfl⟩ (.item ⟨_, htuning, rfl⟩ (.stop (by decide)))), rfl⟩

def IsObject (s : String) : Prop := ∃ body, Json.Form (braced body) ∧ Alone (braced body) s.toList

def IsList (s : String) (p : Payload) : Prop :=
  ∃ ws body, Alone (listed body) s.toList ∧ Items ws body ∧ Listed ws p ∧ p.Valid

variable {s : String} {p : Payload}

theorem IsList.not_isObject (h : IsList s p) : ¬IsObject s := by
  obtain ⟨ws, body, halone, -, -, -⟩ := h
  rintro ⟨body', -, halone'⟩
  exact absurd (halone.head_eq halone' (by decide) (by decide)) (by decide)

theorem ofJson_of_isList (h : IsList s p) : ofJson s = .ok p := by
  obtain ⟨ws, body, halone, hitems, hlisted, hvalid⟩ := h
  obtain ⟨st, horder, hcomplete⟩ := listed_iff.2 hlisted
  exact ofJson_eq_ok.2 ⟨_, halone, .list hitems horder hcomplete, hvalid⟩

theorem isObject_or_isList (h : ofJson s = .ok p) : IsObject s ∨ IsList s p := by
  obtain ⟨w, halone, hform, hvalid⟩ := ofJson_eq_ok.1 h
  cases hform with
  | list hitems horder hcomplete =>
    exact .inr ⟨_, _, halone, hitems, listed_iff.1 ⟨_, horder, hcomplete⟩, hvalid⟩
  | object hitems hms hcomplete =>
    exact .inl ⟨_, Json.form_object hitems hms.form, halone⟩

/-- Refused with a failure of configuration, whatever the handler and before anything happens. -/
def Refused (s : String) : Prop :=
  ∃ detail, ofJson s = .error (.config detail) ∧
    ∀ (handler : Handler) (session : Session),
      (Runner.run handler s).run session = (.error (.error (.config detail)), session)

theorem refused_iff : Refused s ↔ ∀ p, ofJson s ≠ .ok p := by
  constructor
  · rintro ⟨detail, h, -⟩ p hp
    rw [h] at hp
    cases hp
  · intro h
    cases hs : ofJson s with
    | error f =>
      obtain ⟨detail, rfl⟩ := ofJson_eq_error hs
      exact ⟨detail, hs, Runner.run_run_of_error hs⟩
    | ok p => exact absurd hs (h p)

theorem nonObject_refused_iff (hs : ¬IsObject s) :
    (∀ p, ofJson s = .ok p ↔ IsList s p) ∧ (Refused s ↔ ¬∃ p, IsList s p) := by
  have hlist : ∀ p, ofJson s = .ok p ↔ IsList s p := fun p ↦
    ⟨fun h ↦ (isObject_or_isList h).resolve_left hs, ofJson_of_isList⟩
  refine ⟨hlist, ?_⟩
  rw [refused_iff, not_exists]
  exact forall_congr' fun p ↦ not_congr (hlist p)

def sixItems : String := "[\"u\",\"p\",\"h\",5432,\"d\",\"s\"]"

theorem isList_sixItems :
    IsList sixItems ⟨"u", "p", "h", 5432, "d", "s", default, .standard⟩ := by
  have hchar : ∀ {c : Char}, c ≠ '"' ∧ c ≠ '\\' ∧ ¬c.toNat < 0x20 →
      Spells ['"', c, '"'] (String.ofList [c]) := by
    rintro c ⟨hquote, hescape, hcontrol⟩
    refine ⟨[c], rfl, ?_⟩
    rw [String.toList_ofList]
    exact .plain hquote hescape hcontrol .nil
  have hport : Json.Whole ['5', '4', '3', '2'] :=
    ⟨⟨List.cons_ne_nil _ _, List.all_eq_true.1 (by decide)⟩, fun r hr ↦ by cases hr⟩
  have hlisted : Listed
      [['"', 'u', '"'], ['"', 'p', '"'], ['"', 'h', '"'], ['5', '4', '3', '2'], ['"', 'd', '"'],
        ['"', 's', '"']] ⟨"u", "p", "h", 5432, "d", "s", default, .standard⟩ :=
    .intro (hchar (by decide)) (hchar (by decide)) (hchar (by decide)) (.number hport (by decide))
      (hchar (by decide)) (hchar (by decide)) .none
  have hnext : ∀ {w t : List Char} {ws : List (List Char)}, Json.Tail ws t →
      Json.Tail (w :: ws) (',' :: (w ++ t)) := fun ht ↦ .next Json.gap_nil Json.gap_nil ht
  refine ⟨_, _, ⟨[], [], ?_, Json.gap_nil, Json.gap_nil⟩, .some Json.gap_nil <| hnext <| hnext <|
    hnext <| hnext <| hnext <| .last Json.gap_nil, hlisted, by decide, by decide, by decide, by decide⟩
  decide

theorem nonObject_refused_iff_sixItems :
    ¬IsObject sixItems ∧ ofJson sixItems = .ok ⟨"u", "p", "h", 5432, "d", "s", default, .standard⟩ ∧
      ¬Refused sixItems := by
  have hs := isList_sixItems.not_isObject
  obtain ⟨haccepted, hrefused⟩ := nonObject_refused_iff hs
  exact ⟨hs, (haccepted _).2 isList_sixItems, fun h ↦ hrefused.1 h ⟨_, isList_sixItems⟩⟩

end ScriptEnv.Payload
