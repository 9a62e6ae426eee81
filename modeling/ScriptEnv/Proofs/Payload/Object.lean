import ScriptEnv.Proofs.Json.Written
import ScriptEnv.Proofs.Payload.Listed

namespace ScriptEnv

open Json (AtMostOnce Digits Entry Given InOrder Items Natural ObjectOf Once Renders Separate Slot Spells
  Whole atMostOnce_iff braced listed once_iff)
open Decode (required_eq_ok)
open Number (decimalValue)

variable {es : List Entry} {body w : List Char}

namespace Tuning

def Word32 (w : List Char) (a : UInt32) : Prop := Natural (Number.twoTo 32 - 1) w a.toNat

def Word64 (w : List Char) (a : UInt64) : Prop := Natural (Number.twoTo 64 - 1) w a.toNat

/-- An object with these entries stands for the tuning: each of its three numbers is given at most
once, without sign, fraction or exponent, and has its standard value otherwise. -/
structure Tunes (es : List Entry) (t : Tuning) : Prop where
  maxConnections : AtMostOnce es "max_connections" Word32 standard.maxConnections t.maxConnections
  acquireTimeout :
    AtMostOnce es "acquire_timeout_secs" Word64 standard.acquireTimeout t.acquireTimeout
  queryTimeout : AtMostOnce es "query_timeout_secs" Word64 standard.queryTimeout t.queryTimeout

inductive Text : List Char → Tuning → Prop
  | object {es : List Entry} {body : List Char} {t : Tuning} :
    Renders es body → Tunes es t → Text (braced body) t
  | list {ws : List (List Char)} {body : List Char} {t : Tuning} :
    Items ws body → ws.length ≤ 3 →
    Given Word32 standard.maxConnections ws[0]? t.maxConnections →
    Given Word64 standard.acquireTimeout ws[1]? t.acquireTimeout →
    Given Word64 standard.queryTimeout ws[2]? t.queryTimeout → Text (listed body) t

section

variable {Value : Type}

def naturalSlot (name expected : String) {bound : Nat} (hbound : bound ≤ Json.wordMax)
    (get : Partial → Option Value) (put : Partial → Value → Partial) (toNat : Value → Nat)
    (ofNat : Nat → Value) (hto : ∀ n ≤ bound, toNat (ofNat n) = n)
    (hof : ∀ a, ofNat (toNat a) = a) : Slot Partial where
  spec := naturalSpec name expected hbound (fun p ↦ (get p).isSome) fun p n ↦ put p (ofNat n)
  Value := Value
  get := get
  put := put
  Denotes w a := Natural bound w (toNat a)
  isSet _ := rfl
  fits := by
    intro p p' w
    constructor
    · rintro ⟨n, hn, rfl⟩
      exact ⟨ofNat n, (hto n hn.2.2).symm ▸ hn, rfl⟩
    · rintro ⟨a, ha, rfl⟩
      exact ⟨toNat a, ha, congrArg (put p) (hof a).symm⟩

end

theorem word32_le_wordMax : Number.twoTo 32 - 1 ≤ Json.wordMax := by
  decide

theorem word32_toNat_ofNat : ∀ n ≤ Number.twoTo 32 - 1, (UInt32.ofNat n).toNat = n :=
  fun _ hn ↦ UInt32.toNat_ofNat_of_lt' (Nat.lt_of_le_of_lt hn (by decide))

theorem word64_toNat_ofNat : ∀ n ≤ Number.twoTo 64 - 1, (UInt64.ofNat n).toNat = n :=
  fun _ hn ↦ UInt64.toNat_ofNat_of_lt' (Nat.lt_of_le_of_lt hn (by decide))

def slots : List (Slot Partial) :=
  [naturalSlot "max_connections" "u32" word32_le_wordMax (·.maxConnections)
      (fun p a ↦ { p with maxConnections := some a }) UInt32.toNat .ofNat word32_toNat_ofNat
      fun _ ↦ UInt32.ofNat_toNat,
    naturalSlot "acquire_timeout_secs" "u64" (Nat.le_refl _) (·.acquireTimeout)
      (fun p a ↦ { p with acquireTimeout := some a }) UInt64.toNat .ofNat word64_toNat_ofNat
      fun _ ↦ UInt64.ofNat_toNat,
    naturalSlot "query_timeout_secs" "u64" (Nat.le_refl _) (·.queryTimeout)
      (fun p a ↦ { p with queryTimeout := some a }) UInt64.toNat .ofNat word64_toNat_ofNat
      fun _ ↦ UInt64.ofNat_toNat]

theorem specs_eq : specs = slots.map Slot.spec := rfl

theorem separate_slots : Separate slots where
  nodup := by decide
  get_put := by
    intro s hs p a
    simp only [slots, List.mem_cons, List.not_mem_nil, or_false] at hs
    rcases hs with rfl | rfl | rfl <;> rfl
  get_put_of_ne := by
    intro s t hs ht hne p a
    simp only [slots, List.mem_cons, List.not_mem_nil, or_false] at hs ht
    rcases hs with rfl | rfl | rfl <;> rcases ht with rfl | rfl | rfl <;>
      first | rfl | exact absurd rfl hne
  ext := by
    rintro ⟨m, a, q⟩ ⟨m', a', q'⟩ h
    simp only [slots, List.forall_mem_cons, List.not_mem_nil, false_implies, implies_true, and_true] at h
    obtain ⟨rfl, rfl, rfl⟩ : m = m' ∧ a = a' ∧ q = q' := h
    rfl

theorem settled_iff {t : Tuning} :
    (∃ p : Partial, (∀ s ∈ slots, s.Settles es .empty p) ∧ p.complete = t) ↔ Tunes es t := by
  constructor
  · rintro ⟨p, h, rfl⟩
    simp only [slots, List.forall_mem_cons, List.not_mem_nil, false_implies, implies_true, and_true] at h
    obtain ⟨hm, ha, hq⟩ := h
    exact ⟨atMostOnce_iff.2 ⟨_, hm, rfl⟩, atMostOnce_iff.2 ⟨_, ha, rfl⟩,
      atMostOnce_iff.2 ⟨_, hq, rfl⟩⟩
  · rintro ⟨hm, ha, hq⟩
    obtain ⟨m, hm, hmt⟩ := atMostOnce_iff.1 hm
    obtain ⟨a, ha, hat⟩ := atMostOnce_iff.1 ha
    obtain ⟨q, hq, hqt⟩ := atMostOnce_iff.1 hq
    refine ⟨⟨m, a, q⟩, ?_, ?_⟩
    · simp only [slots, List.forall_mem_cons, List.not_mem_nil, false_implies, implies_true, and_true]
      exact ⟨hm, ha, hq⟩
    · rw [Partial.complete, hmt, hat, hqt]

theorem inOrder_iff {ws : List (List Char)} {t : Tuning} :
    (∃ p : Partial, InOrder specs .empty ws p ∧ p.complete = t) ↔ ws.length ≤ 3 ∧
      Given Word32 standard.maxConnections ws[0]? t.maxConnections ∧
      Given Word64 standard.acquireTimeout ws[1]? t.acquireTimeout ∧
      Given Word64 standard.queryTimeout ws[2]? t.queryTimeout := by
  constructor
  · rintro ⟨p, h, rfl⟩
    rw [specs_eq] at h
    cases h with
    | stop _ => exact ⟨Nat.zero_le _, rfl, rfl, rfl⟩
    | item hfits h =>
      obtain ⟨m, hm, rfl⟩ := (Slot.fits _).1 hfits
      cases h with
      | stop _ => exact ⟨Nat.le_add_left _ _, hm, rfl, rfl⟩
      | item hfits h =>
        obtain ⟨a, ha, rfl⟩ := (Slot.fits _).1 hfits
        cases h with
        | stop _ => exact ⟨Nat.le_add_left _ _, hm, ha, rfl⟩
        | item hfits h =>
          obtain ⟨q, hq, rfl⟩ := (Slot.fits _).1 hfits
          cases h
          exact ⟨Nat.le_refl _, hm, ha, hq⟩
  · rintro ⟨hlength, hm, ha, hq⟩
    obtain ⟨m, a, q⟩ := t
    rw [specs_eq]
    match ws, hlength, hm, ha, hq with
    | [], _, hm, ha, hq =>
      obtain ⟨rfl, rfl, rfl⟩ : m = _ ∧ a = _ ∧ q = _ := ⟨hm, ha, hq⟩
      exact ⟨.empty, .stop (by decide), rfl⟩
    | [u], _, hm, ha, hq =>
      obtain ⟨rfl, rfl⟩ : a = _ ∧ q = _ := ⟨ha, hq⟩
      exact ⟨_, .item ((Slot.fits _).2 ⟨m, hm, rfl⟩) (.stop (by decide)), rfl⟩
    | [u, v], _, hm, ha, hq =>
      obtain rfl : q = _ := hq
      exact ⟨_, .item ((Slot.fits _).2 ⟨m, hm, rfl⟩) (.item ((Slot.fits _).2 ⟨a, ha, rfl⟩)
        (.stop (by decide))), rfl⟩
    | [u, v, w], _, hm, ha, hq =>
      exact ⟨_, .item ((Slot.fits _).2 ⟨m, hm, rfl⟩) (.item ((Slot.fits _).2 ⟨a, ha, rfl⟩)
        (.item ((Slot.fits _).2 ⟨q, hq, rfl⟩) (.stop (by decide)))), rfl⟩

theorem form_iff {t : Tuning} : Form w t ↔ Text w t := by
  rw [Form, specs_eq]
  constructor
  · intro h
    cases h with
    | list hitems horder hfinish =>
      obtain ⟨hlength, hm, ha, hq⟩ := inOrder_iff.1 ⟨_, horder, Except.ok.inj hfinish⟩
      exact .list hitems hlength hm ha hq
    | object hitems hgathers hfinish =>
      obtain ⟨es, hes⟩ := hgathers.exists_entries
      have hsettled := (Json.gathers_iff separate_slots hes).1 hgathers
      exact .object ⟨_, hitems, hes⟩ (settled_iff.1 ⟨_, hsettled, Except.ok.inj hfinish⟩)
  · intro h
    cases h with
    | object hes htunes =>
      obtain ⟨p, hsettled, rfl⟩ := settled_iff.2 htunes
      exact (Json.denotes_braced_iff separate_slots hes).2 ⟨p, hsettled, rfl⟩
    | list hitems hlength hm ha hq =>
      obtain ⟨p, horder, rfl⟩ := inOrder_iff.2 ⟨hlength, hm, ha, hq⟩
      exact .list hitems horder rfl

end Tuning

namespace Payload

/-- A number of 16 bits without sign, fraction or exponent, or a text that is, once trimmed, digits
of such a number after an optional plus. -/
def PortText (w : List Char) (p : UInt16) : Prop :=
  Whole w ∧ decimalValue w = p.toNat ∨ ∃ t ds, Spells w t ∧
    (Text.trim t.toList = ds ∨ Text.trim t.toList = '+' :: ds) ∧ Digits ds ∧
    decimalValue ds = p.toNat

def DriverText (w : List Char) (d : Driver) : Prop :=
  d = .postgresql ∧ ∃ t, Spells w t ∧ (t.toList.map Char.toLower = "postgres".toList ∨
    t.toList.map Char.toLower = "postgresql".toList)

/-- The entries make the payload: the six required ones are there once, driver and tuning at most
once, each with a value of its kind, and the texts without which no connection can be tried are not
blank. Entries of other names may be any. -/
structure Described (es : List Entry) (p : Payload) : Prop where
  username : Once es "username" Spells p.username
  password : Once es "password" Spells p.password
  host : Once es "host" Spells p.host
  port : Once es "port" PortText p.port
  database : Once es "database" Spells p.database
  scriptName : Once es "script_name" Spells p.scriptName
  driver : AtMostOnce es "driver" DriverText .postgresql p.driver
  tuning : AtMostOnce es "engine" Tuning.Text .standard p.tuning
  valid : p.Valid

theorem portForm_iff {p : UInt16} : PortForm w p ↔ PortText w p := by
  have hword : ∀ n ≤ 65535, (UInt16.ofNat n).toNat = n :=
    fun _ hn ↦ UInt16.toNat_ofNat_of_lt' (Nat.lt_succ_of_le hn)
  constructor
  · intro h
    cases h with
    | number hw hle => exact .inl ⟨hw, (hword _ hle).symm⟩
    | text hw hp =>
      obtain ⟨n, hn, rfl⟩ := Option.map_eq_some_iff.1 hp
      obtain ⟨ds, hds, hne, hdigits, rfl, hle⟩ := Number.natural?_eq_some_iff.1 hn
      exact .inr ⟨_, ds, hw, hds, ⟨hne, hdigits⟩, (hword _ hle).symm⟩
  · have hle : p.toNat ≤ 65535 := Nat.le_of_lt_succ p.toNat_lt
    rintro (⟨hw, hp⟩ | ⟨t, ds, hw, hds, ⟨hne, hdigits⟩, hp⟩)
    · have hnumber := PortForm.number hw (hp ▸ hle)
      rwa [hp, UInt16.ofNat_toNat] at hnumber
    · refine .text hw (Option.map_eq_some_iff.2 ⟨p.toNat, ?_, UInt16.ofNat_toNat⟩)
      exact Number.natural?_eq_some_iff.2 ⟨ds, hds, hne, hdigits, hp, hle⟩

theorem driverForm_iff {d : Driver} : DriverForm w d ↔ DriverText w d := by
  cases d
  rw [DriverText, and_iff_right rfl]
  refine exists_congr fun t ↦ and_congr_right fun _ ↦ ?_
  rw [← Text.lower_eq_iff (by decide) (by decide), ← Text.lower_eq_iff (by decide) (by decide)]
  unfold Driver.parse?
  dsimp only
  split
  · next h => exact iff_of_true rfl h
  · next h => exact iff_of_false (fun hnone ↦ by cases hnone) h

def slots : List (Slot Partial) :=
  [Slot.of "username" (·.username) (fun p a ↦ { p with username := some a }) Json.reads_text false,
    Slot.of "password" (·.password) (fun p a ↦ { p with password := some a }) Json.reads_text false,
    Slot.of "host" (·.host) (fun p a ↦ { p with host := some a }) Json.reads_text false,
    Slot.of "port" (·.port) (fun p a ↦ { p with port := some a }) reads_port false,
    Slot.of "database" (·.database) (fun p a ↦ { p with database := some a }) Json.reads_text false,
    Slot.of "script_name" (·.scriptName) (fun p a ↦ { p with scriptName := some a })
      Json.reads_text false,
    Slot.of "driver" (·.driver) (fun p a ↦ { p with driver := some a }) reads_driver true,
    Slot.of "engine" (·.tuning) (fun p a ↦ { p with tuning := some a }) Tuning.reads_record true]

theorem specs_eq : specs = slots.map Slot.spec := rfl

theorem separate_slots : Separate slots where
  nodup := by decide
  get_put := by
    intro s hs p a
    simp only [slots, List.mem_cons, List.not_mem_nil, or_false] at hs
    rcases hs with rfl | rfl | rfl | rfl | rfl | rfl | rfl | rfl <;> rfl
  get_put_of_ne := by
    intro s t hs ht hne p a
    simp only [slots, List.mem_cons, List.not_mem_nil, or_false] at hs ht
    rcases hs with rfl | rfl | rfl | rfl | rfl | rfl | rfl | rfl <;>
      rcases ht with rfl | rfl | rfl | rfl | rfl | rfl | rfl | rfl <;>
      first | rfl | exact absurd rfl hne
  ext := by
    rintro ⟨u, w, h, n, d, s, r, t⟩ ⟨u', w', h', n', d', s', r', t'⟩ hslots
    simp only [slots, List.forall_mem_cons, List.not_mem_nil, false_implies, implies_true, and_true]
      at hslots
    obtain ⟨rfl, rfl, rfl, rfl, rfl, rfl, rfl, rfl⟩ :
      u = u' ∧ w = w' ∧ h = h' ∧ n = n' ∧ d = d' ∧ s = s' ∧ r = r' ∧ t = t' := hslots
    rfl

theorem Partial.complete_eq_ok {st : Partial} {p : Payload} :
    st.complete = .ok p ↔ st.username = some p.username ∧ st.password = some p.password ∧
      st.host = some p.host ∧ st.port = some p.port ∧ st.database = some p.database ∧
      st.scriptName = some p.scriptName ∧ st.driver.getD default = p.driver ∧
      st.tuning.getD .standard = p.tuning := by
  constructor
  · intro h
    obtain ⟨u, hu, h⟩ := bind_eq_ok.1 h
    obtain ⟨w, hw, h⟩ := bind_eq_ok.1 h
    obtain ⟨host, hhost, h⟩ := bind_eq_ok.1 h
    obtain ⟨port, hport, h⟩ := bind_eq_ok.1 h
    obtain ⟨d, hd, h⟩ := bind_eq_ok.1 h
    obtain ⟨s, hs, h⟩ := bind_eq_ok.1 h
    cases h
    exact ⟨required_eq_ok.1 hu, required_eq_ok.1 hw, required_eq_ok.1 hhost, required_eq_ok.1 hport,
      required_eq_ok.1 hd, required_eq_ok.1 hs, rfl, rfl⟩
  · obtain ⟨u, w, host, port, d, s, driver, tuning⟩ := st
    rintro ⟨rfl, rfl, rfl, rfl, rfl, rfl, hdriver, htuning⟩
    dsimp only at hdriver htuning
    simp only [Partial.complete, Decode.required, hdriver, htuning]
    rfl

theorem settled_iff {p : Payload} :
    ((∃ st, (∀ s ∈ slots, s.Settles es .empty st) ∧ st.complete = .ok p) ∧ p.Valid) ↔
      Described es p := by
  have hport : PortForm = PortText := funext fun _ ↦ funext fun _ ↦ propext portForm_iff
  have hdriver : DriverForm = DriverText := funext fun _ ↦ funext fun _ ↦ propext driverForm_iff
  have htuning : Tuning.Form = Tuning.Text :=
    funext fun _ ↦ funext fun _ ↦ propext Tuning.form_iff
  constructor
  · rintro ⟨⟨⟨u, w, h, n, d, s, r, t⟩, hslots, hcomplete⟩, hvalid⟩
    obtain ⟨rfl, rfl, rfl, rfl, rfl, rfl, hr, ht⟩ := Partial.complete_eq_ok.1 hcomplete
    simp only [slots, List.forall_mem_cons, List.not_mem_nil, false_implies, implies_true, and_true]
      at hslots
    obtain ⟨hu, hw, hh, hn, hd, hs, hdriver', htuning'⟩ := hslots
    exact ⟨once_iff.2 hu, once_iff.2 hw, once_iff.2 hh, hport ▸ once_iff.2 hn, once_iff.2 hd,
      once_iff.2 hs, hdriver ▸ atMostOnce_iff.2 ⟨r, hdriver', hr⟩,
      htuning ▸ atMostOnce_iff.2 ⟨t, htuning', ht⟩, hvalid⟩
  · rintro ⟨hu, hw, hh, hn, hd, hs, hr, ht, hvalid⟩
    rw [← hport] at hn
    rw [← hdriver] at hr
    rw [← htuning] at ht
    obtain ⟨r, hr, hdriver⟩ := atMostOnce_iff.1 hr
    obtain ⟨t, ht, htuning⟩ := atMostOnce_iff.1 ht
    refine ⟨⟨⟨some p.username, some p.password, some p.host, some p.port, some p.database,
      some p.scriptName, r, t⟩, ?_, ?_⟩, hvalid⟩
    · simp only [slots, List.forall_mem_cons, List.not_mem_nil, false_implies, implies_true, and_true]
      exact ⟨once_iff.1 hu, once_iff.1 hw, once_iff.1 hh, once_iff.1 hn, once_iff.1 hd,
        once_iff.1 hs, hr, ht⟩
    · exact Partial.complete_eq_ok.2 ⟨rfl, rfl, rfl, rfl, rfl, rfl, hdriver, htuning⟩

variable {s : String} {p : Payload}

theorem ofJson_eq_ok_iff_described (hs : ObjectOf es s.toList) : ofJson s = .ok p ↔ Described es p := by
  obtain ⟨body, hes, halone⟩ := hs
  rw [ofJson_eq_ok, ← settled_iff]
  constructor
  · rintro ⟨w, hw, hform, hvalid⟩
    obtain rfl := hw.unique halone (reads_record.form hform) hes.form
    exact ⟨(Json.denotes_braced_iff separate_slots hes).1 hform, hvalid⟩
  · rintro ⟨hsettled, hvalid⟩
    exact ⟨_, halone, (Json.denotes_braced_iff separate_slots hes).2 hsettled, hvalid⟩

/-- A payload that stands as an object is accepted exactly if its entries describe it; else it is
refused, whatever the handler and before anything happens. -/
theorem object_accepted_iff (hs : ObjectOf es s.toList) :
    (∀ p, ofJson s = .ok p ↔ Described es p) ∧ (Refused s ↔ ¬∃ p, Described es p) := by
  have hdescribed : ∀ p, ofJson s = .ok p ↔ Described es p := fun p ↦ ofJson_eq_ok_iff_described hs
  refine ⟨hdescribed, ?_⟩
  rw [refused_iff, not_exists]
  exact forall_congr' fun p ↦ not_congr (hdescribed p)

def scattered : List Entry :=
  [.text "port" " +5432 ", ⟨"note", listed [], .list (.none Json.gap_nil) nofun⟩, .text "host" "h",
    .text "driver" "PostgreSQL", .text "username" "u", .text "database" "d", .text "note" "again",
    .text "script_name" "s", .text "password" ""]

def scatteredText : String :=
  "\x7b\"port\":\" +5432 \",\"note\":[],\"host\":\"h\",\"driver\":\"PostgreSQL\",\"username\":\"u\","
    ++ "\"database\":\"d\",\"note\":\"again\",\"script_name\":\"s\",\"password\":\"\"\x7d"

theorem described_scattered : Described scattered ⟨"u", "", "h", 5432, "d", "s", default, .standard⟩ where
  username := ⟨_, rfl, Json.spells_stringForm "u"⟩
  password := ⟨_, rfl, Json.spells_stringForm ""⟩
  host := ⟨_, rfl, Json.spells_stringForm "h"⟩
  port := ⟨_, rfl, .inr ⟨" +5432 ", "5432".toList, Json.spells_stringForm _, .inr (by decide),
    ⟨by decide, List.all_eq_true.1 (by decide)⟩, by decide⟩⟩
  database := ⟨_, rfl, Json.spells_stringForm "d"⟩
  scriptName := ⟨_, rfl, Json.spells_stringForm "s"⟩
  driver := ⟨some _, rfl, rfl, "PostgreSQL", Json.spells_stringForm _, .inr (by decide)⟩
  tuning := ⟨none, rfl, rfl⟩
  valid := ⟨by decide, by decide, by decide, by decide⟩

theorem object_accepted_iff_scattered :
    ObjectOf scattered scatteredText.toList ∧
      ofJson scatteredText = .ok ⟨"u", "", "h", 5432, "d", "s", default, .standard⟩ ∧
      ¬Refused scatteredText := by
  have htext : scatteredText.toList = Json.compactObject scattered := by decide +kernel
  have hs : ObjectOf scattered scatteredText.toList :=
    ⟨_, Json.renders_compactObject scattered, [], [], by simp [htext, Json.compactObject],
      Json.gap_nil, Json.gap_nil⟩
  obtain ⟨haccepted, hrefused⟩ := object_accepted_iff hs
  exact ⟨hs, (haccepted _).2 described_scattered, fun h ↦ hrefused.1 h ⟨_, described_scattered⟩⟩

end Payload

end ScriptEnv
