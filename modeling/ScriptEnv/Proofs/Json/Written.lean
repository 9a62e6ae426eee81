import ScriptEnv.Json.Writer
import ScriptEnv.Proofs.Json.Entries

namespace ScriptEnv.Json

open Number (decimalDigits)

theorem fourHex?_control {n : Nat} (h : n < 0x20) :
    fourHex? '0' '0' (hexDigit (n / 16)) (hexDigit (n % 16)) = some n := by
  revert n
  decide

theorem spelled_escapeChar {r t : List Char} (c : Char) (h : Spelled r t) :
    Spelled (escapeChar c ++ r) (c :: t) := by
  unfold escapeChar
  split
  · exact .simple rfl h
  · exact .simple rfl h
  · exact .simple rfl h
  · exact .simple rfl h
  · exact .simple rfl h
  · exact .simple rfl h
  · exact .simple rfl h
  · next hquote hescape _ _ _ _ _ =>
    split
    · next hcontrol =>
      have hunicode := Unicode.single (fourHex?_control hcontrol)
        (fun hlow ↦ by have := hlow.1; omega) fun hhigh ↦ by have := hhigh.1; omega
      rw [Char.ofNat_toNat] at hunicode
      exact .unicode hunicode h
    · next hcontrol => exact .plain hquote hescape hcontrol h

theorem spelled_flatMap_escapeChar (s : List Char) : Spelled (s.flatMap escapeChar) s := by
  induction s with
  | nil => exact .nil
  | cons c s ih => exact spelled_escapeChar c ih

theorem spells_stringForm (s : String) : Spells (stringForm s) s :=
  ⟨s.toList.flatMap escapeChar, rfl, spelled_flatMap_escapeChar s.toList⟩

theorem digits_decimalDigits (n : Nat) : Digits (decimalDigits n) :=
  ⟨Nat.toDigits_ne_nil, fun _ ↦ Number.isDigit_of_mem_toDigits⟩

theorem head_toDigits_ne_zero {n : Nat} (hn : 0 < n) (r : List Char) : Nat.toDigits 10 n ≠ '0' :: r := by
  induction n using Nat.strongRecOn generalizing r with
  | _ n ih =>
    by_cases hlt : n < 10
    · rw [Nat.toDigits_of_lt_base hlt]
      intro h
      have hdigit : ∀ n < 10, 0 < n → n.digitChar ≠ '0' := by decide
      exact hdigit n hlt hn (List.cons.inj h).1
    · rw [Nat.toDigits_of_base_le (by decide) (Nat.le_of_not_lt hlt)]
      have hquotient : Nat.toDigits 10 (n / 10) ≠ [] := Nat.toDigits_ne_nil
      obtain ⟨c, t, hc⟩ := List.exists_cons_of_ne_nil hquotient
      rw [hc]
      intro h
      rw [List.cons_append] at h
      exact ih (n / 10) (by omega) (by omega) t (by rw [hc, (List.cons.inj h).1])

theorem whole_decimalDigits (n : Nat) : Whole (decimalDigits n) := by
  refine ⟨digits_decimalDigits n, fun r hr ↦ ?_⟩
  cases n with
  | zero => exact (List.cons.inj hr).2.symm
  | succ n => exact absurd hr (head_toDigits_ne_zero n.succ_pos r)

theorem natural_decimalDigits {bound n : Nat} (h : n ≤ bound) : Natural bound (decimalDigits n) n :=
  ⟨whole_decimalDigits n, Number.decimalValue_toDigits n, h⟩

theorem integer_integerForm {low high n : Int} (hlow : low ≤ n) (hhigh : n ≤ high) :
    Integer low high (integerForm n) n := by
  refine ⟨hlow, hhigh, ?_⟩
  cases n with
  | ofNat n =>
    exact .inl ⟨whole_decimalDigits n, congrArg Int.ofNat (Number.decimalValue_toDigits n).symm⟩
  | negSucc n =>
    refine .inr ⟨_, rfl, whole_decimalDigits (n + 1), ?_, Int.negSucc_lt_zero n⟩
    rw [decimalDigits, Number.decimalValue_toDigits]
    rfl

variable {g g' : List Char}

theorem exists_tail_join (hg : Gap g) (hg' : Gap g') (w : List Char) (ws : List (List Char)) :
    ∃ t, Text.join (',' :: g) (w :: ws) ++ g' = w ++ t ∧ Tail ws t := by
  induction ws generalizing w with
  | nil => exact ⟨g', rfl, .last hg'⟩
  | cons v ws ih =>
    obtain ⟨t, ht, htail⟩ := ih v
    refine ⟨[] ++ ',' :: (g ++ (v ++ t)), ?_, .next gap_nil hg htail⟩
    rw [← ht]
    simp [Text.join]

theorem items_compact (ws : List (List Char)) : Items ws (Text.join [','] ws) := by
  cases ws with
  | nil => exact .none gap_nil
  | cons w ws =>
    obtain ⟨t, ht, htail⟩ := exists_tail_join gap_nil gap_nil w ws
    rw [← List.append_nil (Text.join _ _), ht]
    exact .some gap_nil htail

theorem compactItems_eq (items : List Json) : compactItems items = items.map compactForm := by
  induction items with
  | nil => rfl
  | cons v items ih => rw [compactItems, ih, List.map_cons]

theorem compactForm_array (items : List Json) :
    compactForm (.array items) = listed (Text.join [','] (items.map compactForm)) := by
  rw [← compactItems_eq]
  rfl

theorem gap_newline (depth : Nat) : Gap (newline depth) := by
  intro c hc
  rcases List.mem_cons.1 hc with rfl | hc
  · decide
  · rw [List.eq_of_mem_replicate hc]
    decide

theorem exists_bracketed (left right : Char) (depth : Nat) (ws : List (List Char)) :
    ∃ body, bracketed left right depth ws = left :: (body ++ [right]) ∧ Items ws body := by
  cases ws with
  | nil => exact ⟨[], rfl, .none gap_nil⟩
  | cons w ws =>
    obtain ⟨t, ht, htail⟩ := exists_tail_join (gap_newline (depth + 1)) (gap_newline depth) w ws
    refine ⟨newline (depth + 1) ++ (w ++ t), ?_, .some (gap_newline (depth + 1)) htail⟩
    rw [bracketed, if_neg (List.cons_ne_nil w ws), ← ht]
    simp

def Entry.written (g : List Char) (e : Entry) : Member := ⟨stringForm e.name, [], g, e.value⟩

theorem Entry.spells_written (hg : Gap g) (e : Entry) : (e.written g).Spells e :=
  ⟨⟨spells_stringForm e.name, gap_nil, hg⟩, rfl⟩

theorem renders_written (hg : Gap g) {es : List Entry} {body : List Char}
    (h : Items (es.map fun e ↦ (e.written g).text) body) : Renders es body := by
  refine ⟨es.map (Entry.written g), ?_, ?_⟩
  · rw [List.map_map]
    exact h
  · rw [List.forall₂_map_left_iff, List.forall₂_same]
    exact fun e _ ↦ e.spells_written hg

def Entry.text (name t : String) : Entry :=
  ⟨name, stringForm t, reads_text.form (spells_stringForm t)⟩

def Entry.natural (name : String) (n : Nat) : Entry :=
  ⟨name, decimalDigits n, (whole_decimalDigits n).form⟩

def compactObject (es : List Entry) : List Char :=
  braced (Text.join [','] (es.map fun e ↦ (e.written []).text))

theorem renders_compactObject (es : List Entry) :
    Renders es (Text.join [','] (es.map fun e ↦ (e.written []).text)) :=
  renders_written gap_nil (items_compact _)

theorem form_compactObject (es : List Entry) : Form (compactObject es) :=
  (renders_compactObject es).form

end ScriptEnv.Json
