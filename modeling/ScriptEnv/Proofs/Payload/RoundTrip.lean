import ScriptEnv.Profile
import ScriptEnv.Proofs.Payload.Object

namespace ScriptEnv

open Json (Entry ObjectOf compactObject natural_decimalDigits spells_stringForm)

namespace Tuning

def entries (t : Tuning) : List Entry :=
  [.natural "max_connections" t.maxConnections.toNat,
    .natural "acquire_timeout_secs" t.acquireTimeout.toNat,
    .natural "query_timeout_secs" t.queryTimeout.toNat]

theorem tunes_entries (t : Tuning) : Tunes t.entries t where
  maxConnections := ⟨some _, rfl, natural_decimalDigits (Nat.le_sub_one_of_lt t.maxConnections.toNat_lt)⟩
  acquireTimeout := ⟨some _, rfl, natural_decimalDigits (Nat.le_sub_one_of_lt t.acquireTimeout.toNat_lt)⟩
  queryTimeout := ⟨some _, rfl, natural_decimalDigits (Nat.le_sub_one_of_lt t.queryTimeout.toNat_lt)⟩

end Tuning

namespace Payload

def entries (p : Payload) : List Entry :=
  [.text "username" p.username, .text "password" p.password, .text "host" p.host,
    .natural "port" p.port.toNat, .text "database" p.database, .text "script_name" p.scriptName,
    .text "driver" p.driver.name,
    ⟨"engine", compactObject p.tuning.entries, Json.form_compactObject p.tuning.entries⟩]

theorem toList_toJson (p : Payload) : p.toJson.toList = compactObject p.entries := by
  rw [toJson, Json.compact, String.toList_ofList]
  rfl

theorem objectOf_toJson (p : Payload) : ObjectOf p.entries p.toJson.toList := by
  rw [toList_toJson]
  exact ⟨_, Json.renders_compactObject p.entries, [], [], (List.append_nil _).symm, Json.gap_nil,
    Json.gap_nil⟩

theorem described_entries {p : Payload} (h : p.Valid) : Described p.entries p where
  username := ⟨_, rfl, spells_stringForm p.username⟩
  password := ⟨_, rfl, spells_stringForm p.password⟩
  host := ⟨_, rfl, spells_stringForm p.host⟩
  port := ⟨_, rfl, .inl ⟨Json.whole_decimalDigits _, Number.decimalValue_toDigits _⟩⟩
  database := ⟨_, rfl, spells_stringForm p.database⟩
  scriptName := ⟨_, rfl, spells_stringForm p.scriptName⟩
  driver := by
    refine ⟨some _, rfl, ?_, _, spells_stringForm p.driver.name, .inr ?_⟩ <;> cases p.driver
    · rfl
    · decide
  tuning := ⟨some _, rfl, .object (Json.renders_compactObject _) (Tuning.tunes_entries _)⟩
  valid := h

theorem ofJson_toJson {p : Payload} (h : p.Valid) : ofJson p.toJson = .ok p :=
  (ofJson_eq_ok_iff_described (objectOf_toJson p)).2 (described_entries h)

theorem valid_of_ofJson {s : String} {p : Payload} (h : ofJson s = .ok p) : p.Valid := by
  obtain ⟨-, -, -, hvalid⟩ := ofJson_eq_ok.1 h
  exact hvalid

theorem valid_of_profile {q : Profile} {name : String} {tuning : Tuning} {p : Payload}
    (h : q.payload name tuning = .ok p) : p.Valid := by
  unfold Profile.payload at h
  split at h
  · split at h
    · obtain ⟨⟨⟩, hvalid, hp⟩ := bind_eq_ok.1 h
      cases hp
      exact validate_eq_ok.1 hvalid
    · cases h
  · cases h

/-- A payload that passes its own check comes back from its text, and so does every payload that was
read from a text or put together from a profile. -/
theorem payload_survives_json :
    (∀ p : Payload, p.Valid → ofJson p.toJson = .ok p) ∧
      (∀ (s : String) (p : Payload), ofJson s = .ok p → ofJson p.toJson = .ok p) ∧
      ∀ (q : Profile) (name : String) (tuning : Tuning) (p : Payload),
        q.payload name tuning = .ok p → ofJson p.toJson = .ok p :=
  ⟨fun _ h ↦ ofJson_toJson h, fun _ _ h ↦ ofJson_toJson (valid_of_ofJson h),
    fun _ _ _ _ h ↦ ofJson_toJson (valid_of_profile h)⟩

def extreme : Payload where
  username := "a\"b\\c"
  password := "\x00\x1f\t\n\x7f"
  host := "😀é"
  port := 65535
  database := "/ d"
  scriptName := "\r s"
  driver := default
  tuning := ⟨4294967295, 0, 18446744073709551615⟩

theorem valid_extreme : extreme.Valid := ⟨by decide, by decide, by decide, by decide⟩

theorem payload_survives_json_extreme :
    extreme.Valid ∧ ofJson extreme.toJson = .ok extreme ∧
      Profile.payload ⟨none, none, some "d", some "u", none⟩ "s" .standard =
        .ok ⟨"u", "", "localhost", 5432, "d", "s", default, .standard⟩ ∧
      ofJson (Payload.mk "u" "" "localhost" 5432 "d" "s" default .standard).toJson =
        .ok ⟨"u", "", "localhost", 5432, "d", "s", default, .standard⟩ := by
  obtain ⟨hvalid, hread, hprofile⟩ := payload_survives_json
  have hextreme : ofJson extreme.toJson = .ok extreme := hvalid extreme valid_extreme
  have hmade : Profile.payload ⟨none, none, some "d", some "u", none⟩ "s" .standard =
      .ok ⟨"u", "", "localhost", 5432, "d", "s", default, .standard⟩ :=
    rfl
  exact ⟨valid_extreme, hread extreme.toJson extreme hextreme, hmade, hprofile _ _ _ _ hmade⟩

end Payload

end ScriptEnv
