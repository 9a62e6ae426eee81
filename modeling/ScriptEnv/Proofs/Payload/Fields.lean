import ScriptEnv.Payload
import ScriptEnv.Proofs.Json.Records
import ScriptEnv.Proofs.Json.Values

namespace ScriptEnv

open Json (FieldSpec Natural Reader Reads Spells Whole)
open Number (decimalValue)

namespace Tuning

def naturalSpec (name expected : String) {bound : Nat} (hbound : bound ≤ Json.wordMax)
    (isSet : Partial → Bool) (put : Partial → Nat → Partial) : FieldSpec Partial where
  field := ⟨name, isSet, fun p s ↦ (Json.naturalUpTo expected bound s).map fun (n, r) ↦ (put p n, r),
    true⟩
  Fits p w p' := ∃ n, Natural bound w n ∧ p' = put p n
  reads p := (Json.reads_naturalUpTo expected hbound).map (put p)

def specs : List (FieldSpec Partial) :=
  [naturalSpec "max_connections" "u32" (show Number.twoTo 32 - 1 ≤ _ by decide)
      (·.maxConnections.isSome) fun p n ↦ { p with maxConnections := some (.ofNat n) },
    naturalSpec "acquire_timeout_secs" "u64" (Nat.le_refl _) (·.acquireTimeout.isSome) fun p n ↦
      { p with acquireTimeout := some (.ofNat n) },
    naturalSpec "query_timeout_secs" "u64" (Nat.le_refl _) (·.queryTimeout.isSome) fun p n ↦
      { p with queryTimeout := some (.ofNat n) }]

def Form : List Char → Tuning → Prop := record.Denotes specs

theorem reads_record : Reads record.read Form := Json.Record.reads rfl

end Tuning

namespace Payload

inductive PortForm : List Char → UInt16 → Prop
  | number {w : List Char} :
    Whole w → decimalValue w ≤ 65535 → PortForm w (.ofNat (decimalValue w))
  | text {w : List Char} {t : String} {p : UInt16} :
    Spells w t → Number.port? (Text.trim t.toList) = some p → PortForm w p

theorem reads_port : Reads readPort PortForm where
  sound := by
    intro s r p h
    obtain ⟨⟨v, r'⟩, hv, hend⟩ := bind_eq_ok.1 h
    cases v with
    | integer n =>
      dsimp only at hend
      split at hend
      · next hn =>
        obtain ⟨rfl, rfl⟩ := Prod.mk.inj (Except.ok.inj hend)
        obtain ⟨g, w, rfl, hg, hw⟩ := Json.any_sound (v := .integer n) (decide_eq_true hn.1) hv
        cases hw with
        | natural hw => exact ⟨g, w, rfl, hg, .number hw (Int.ofNat_le.1 hn.2)⟩
      · cases hend
    | string t =>
      dsimp only at hend
      split at hend
      · next hp =>
        obtain ⟨rfl, rfl⟩ := Prod.mk.inj (Except.ok.inj hend)
        obtain ⟨g, w, rfl, hg, hw⟩ := Json.any_sound rfl hv
        cases hw with
        | string hw => exact ⟨g, w, rfl, hg, .text hw hp⟩
      · cases hend
    | _ => cases hend
  complete := by
    intro g w r p hg hw hr
    cases hw with
    | number hw hle =>
      have hmax : decimalValue w ≤ Json.wordMax := Nat.le_trans hle (by decide)
      refine bind_eq_ok.2 ⟨_, Json.any_whole hg hw hmax hr, ?_⟩
      dsimp only
      rw [if_pos (by omega)]
      rfl
    | text hw hp =>
      refine bind_eq_ok.2 ⟨_, Json.any_string hg hw r, ?_⟩
      dsimp only
      rw [hp]
  form := by
    intro w p h
    cases h with
    | number hw _ => exact hw.form
    | text hw _ => exact Json.reads_text.form hw

def DriverForm (w : List Char) (d : Driver) : Prop := ∃ t, Spells w t ∧ Driver.parse? t = some d

theorem reads_driver : Reads readDriver DriverForm where
  sound := by
    intro s r d h
    obtain ⟨⟨t, r'⟩, ht, hend⟩ := bind_eq_ok.1 h
    dsimp only at hend
    split at hend
    · next hd =>
      obtain ⟨rfl, rfl⟩ := Prod.mk.inj (Except.ok.inj hend)
      obtain ⟨g, w, rfl, hg, hw⟩ := Json.reads_text.sound ht
      exact ⟨g, w, rfl, hg, t, hw, hd⟩
    · cases hend
  complete := by
    rintro g w r d hg ⟨t, hw, hd⟩ hr
    refine bind_eq_ok.2 ⟨_, Json.reads_text.complete hg hw hr, ?_⟩
    dsimp only
    rw [hd]
  form := fun ⟨_, hw, _⟩ ↦ Json.reads_text.form hw

def slotSpec {α : Type} (name : String) (get : Partial → Option α) (put : Partial → α → Partial)
    {read : Reader α} {R : List Char → α → Prop} (hread : Reads read R) (hasDefault : Bool) :
    FieldSpec Partial where
  field := slot name get put read hasDefault
  Fits p w p' := ∃ a, R w a ∧ p' = put p a
  reads p := hread.map (put p)

def specs : List (FieldSpec Partial) :=
  [slotSpec "username" (·.username) (fun p a ↦ { p with username := some a }) Json.reads_text false,
    slotSpec "password" (·.password) (fun p a ↦ { p with password := some a }) Json.reads_text false,
    slotSpec "host" (·.host) (fun p a ↦ { p with host := some a }) Json.reads_text false,
    slotSpec "port" (·.port) (fun p a ↦ { p with port := some a }) reads_port false,
    slotSpec "database" (·.database) (fun p a ↦ { p with database := some a }) Json.reads_text false,
    slotSpec "script_name" (·.scriptName) (fun p a ↦ { p with scriptName := some a })
      Json.reads_text false,
    slotSpec "driver" (·.driver) (fun p a ↦ { p with driver := some a }) reads_driver true,
    slotSpec "engine" (·.tuning) (fun p a ↦ { p with tuning := some a }) Tuning.reads_record true]

def Form : List Char → Payload → Prop := record.Denotes specs

theorem reads_record : Reads record.read Form := Json.Record.reads rfl

structure Valid (p : Payload) : Prop where
  username : ¬Text.Blank p.username
  host : ¬Text.Blank p.host
  database : ¬Text.Blank p.database
  scriptName : ¬Text.Blank p.scriptName

theorem validate_eq_ok {p : Payload} : p.validate = .ok () ↔ p.Valid := by
  rw [validate, requireText_eq_ok]
  simp only [List.forall_mem_cons, List.not_mem_nil, false_implies, implies_true, and_true]
  exact ⟨fun ⟨hu, hh, hd, hs⟩ ↦ ⟨hu, hh, hd, hs⟩, fun ⟨hu, hh, hd, hs⟩ ↦ ⟨hu, hh, hd, hs⟩⟩

theorem ofJson_eq_ok {s : String} {p : Payload} :
    ofJson s = .ok p ↔ ∃ w, Json.Alone w s.toList ∧ Form w p ∧ p.Valid := by
  unfold ofJson
  constructor
  · intro h
    split at h
    · cases h
    · next q hq =>
      obtain ⟨⟨⟩, hvalid, hp⟩ := bind_eq_ok.1 h
      cases hp
      obtain ⟨w, hw, hform⟩ := (Json.decode_eq_ok reads_record).1 hq
      exact ⟨w, hw, hform, validate_eq_ok.1 hvalid⟩
  · rintro ⟨w, hw, hform, hvalid⟩
    rw [(Json.decode_eq_ok reads_record).2 ⟨w, hw, hform⟩]
    exact bind_eq_ok.2 ⟨(), validate_eq_ok.2 hvalid, rfl⟩

theorem ofJson_eq_error {s : String} {f : Failure} (h : ofJson s = .error f) :
    ∃ detail, f = .config detail := by
  unfold ofJson at h
  split at h
  · cases h
    exact ⟨_, rfl⟩
  · next p _ =>
    cases hvalid : p.validate with
    | error g =>
      rw [hvalid] at h
      cases h
      exact requireText_eq_error hvalid
    | ok u =>
      rw [hvalid] at h
      cases h

end Payload

end ScriptEnv
