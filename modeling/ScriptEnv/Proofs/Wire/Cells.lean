import ScriptEnv.Wire.Row

namespace ScriptEnv.Wire

variable {type : String} {b : Bytes} {s : String}

structure Printable (b : Bytes) (s : String) : Prop where
  utf8 : b = s.toList.flatMap String.utf8EncodeChar
  visible : ∀ c ∈ s.toList, Text.isControl c = false

theorem rawCell_of_printable (h : Printable b s) : rawCell b = .text s := by
  have hvisible : s.toList.any Text.isControl = false := by simpa using h.visible
  rw [rawCell, Text.ofBytes?_eq_some_iff.2 h.utf8]
  simp only [hvisible, Bool.false_eq_true, ↓reduceIte]

theorem rawCell_of_not_printable (h : ¬∃ s, Printable b s) : rawCell b = .bytes b := by
  unfold rawCell
  split
  · next s hs =>
    split
    · rfl
    · next hvisible =>
      refine absurd ⟨s, Text.ofBytes?_eq_some_iff.1 hs, ?_⟩ h
      simpa using hvisible
  · rfl

theorem rawCell_eq_text_iff : rawCell b = .text s ↔ Printable b s := by
  refine ⟨fun h ↦ ?_, rawCell_of_printable⟩
  by_cases hprint : ∃ t, Printable b t
  · obtain ⟨t, ht⟩ := hprint
    rw [rawCell_of_printable ht] at h
    exact Cell.text.inj h ▸ ht
  · simp [rawCell_of_not_printable hprint] at h

theorem rawCell_eq_bytes_iff : rawCell b = .bytes b ↔ ¬∃ s, Printable b s := by
  refine ⟨?_, rawCell_of_not_printable⟩
  rintro h ⟨s, hs⟩
  simp [rawCell_of_printable hs] at h

theorem rawCell_ne_null (b : Bytes) : rawCell b ≠ .null := by
  by_cases hprint : ∃ s, Printable b s
  · obtain ⟨s, hs⟩ := hprint
    simp [rawCell_of_printable hs]
  · simp [rawCell_of_not_printable hprint]

theorem Decoded.map_eq_value_iff {α β : Type} {f : α → β} {d : Decoded α} {y : β} :
    d.map f = .value y ↔ ∃ x, d = .value x ∧ f x = y := by
  cases d <;> simp [Decoded.map]

theorem decoder_ne_null (type : String) (b : Bytes) : decoder type b ≠ .value .null := by
  unfold decoder
  dsimp only
  split
  · cases Reading.ofType type <;> simp [Reading.decode, Decoded.map_eq_value_iff]
  · simp

/-- A type that the server does not know by this very name has no decoder, whatever its name is in
another case. -/
theorem decoder_eq_refused (h : ∀ r : Reading, type ∉ r.types) (b : Bytes) : decoder type b = .refused :=
  if_neg (h _)

/-- Where decoding does not break down a cell is null exactly if it is SQL's null, and any other is
the value that its type gives it. Bytes that the type refuses become the text of which they are the
UTF-8 form, if there is one without controls, and stay the bytes that they are if there is none. -/
theorem cell_kept (type : String) (cell : Option Bytes)
    (h : ∀ b, cell = some b → decoder type b ≠ .panic) :
    ∃ c, cell? type cell = some c ∧ (c = .null ↔ cell = none) ∧
      ∀ b, cell = some b → (∀ v, decoder type b = .value v → c = v) ∧
        (decoder type b = .refused →
          (∀ s, c = .text s ↔ Printable b s) ∧ (c = .bytes b ↔ ¬∃ s, Printable b s)) := by
  cases cell with
  | none => exact ⟨.null, rfl, by simp, by simp⟩
  | some b =>
    cases hd : decoder type b with
    | value v =>
      have hv : v ≠ .null := by
        rintro rfl
        exact decoder_ne_null type b hd
      refine ⟨v, by simp [cell?, hd], by simp [hv], ?_⟩
      rintro b' ⟨⟩
      simp [hd]
    | refused =>
      refine ⟨rawCell b, by simp [cell?, hd], by simp [rawCell_ne_null], ?_⟩
      rintro b' ⟨⟩
      simp [hd, rawCell_eq_text_iff, rawCell_eq_bytes_iff]
    | panic => exact absurd hd (h b rfl)

theorem cell_kept_label :
    cell? "Date" (some [0x73, 0xC3, 0xA9]) = some (.text "sé") ∧
      cell? "DATE" (some [0, 0, 0, 0, 0, 0, 0, 0, 9]) = some (.bytes [0, 0, 0, 0, 0, 0, 0, 0, 9]) := by
  have hforeign : ∀ r : Reading, "Date" ∉ r.types := by
    intro r
    cases r <;> decide
  have hlabel := decoder_eq_refused hforeign [0x73, 0xC3, 0xA9]
  have hlong : decoder "DATE" [0, 0, 0, 0, 0, 0, 0, 0, 9] = .refused := by decide
  constructor
  · obtain ⟨c, hc, -, hkept⟩ := cell_kept "Date" (some [0x73, 0xC3, 0xA9]) (by
      rintro b ⟨⟩
      simp [hlabel])
    have hprint : Printable [0x73, 0xC3, 0xA9] "sé" := rawCell_eq_text_iff.1 (by decide)
    rw [hc, (((hkept _ rfl).2 hlabel).1 "sé").2 hprint]
  · obtain ⟨c, hc, -, hkept⟩ := cell_kept "DATE" (some [0, 0, 0, 0, 0, 0, 0, 0, 9]) (by
      rintro b ⟨⟩
      simp [hlong])
    have hcontrol : ¬∃ s, Printable [0, 0, 0, 0, 0, 0, 0, 0, 9] s := rawCell_eq_bytes_iff.1 (by decide)
    rw [hc, ((hkept _ rfl).2 hlong).2.2 hcontrol]

end ScriptEnv.Wire
