import ScriptEnv.Url.Basic

namespace ScriptEnv.Url

open Number (hexValue?)

variable {set inner outer : EncodeSet} {s : List Char} {c : Char}

theorem percentEncode_cons (set : EncodeSet) (c : Char) (s : List Char) :
    percentEncode set (c :: s) =
      (if encodes set c then percentChar c else [c]) ++ percentEncode set s :=
  List.flatMap_cons

theorem hexValue?_capitalHex {n : Nat} (h : n < 16) : hexValue? (capitalHex n) = some n := by
  revert n
  decide

theorem percentDecode_percentByte (b : UInt8) (r : List Char) :
    percentDecode (percentByte b ++ r) = b :: percentDecode r := by
  have hb := b.toNat_lt
  have hh : hexValue? (capitalHex (b.toNat / 16)) = some (b.toNat / 16) :=
    hexValue?_capitalHex (by omega)
  have hl : hexValue? (capitalHex (b.toNat % 16)) = some (b.toNat % 16) :=
    hexValue?_capitalHex (by omega)
  simp only [percentByte, List.cons_append, List.nil_append, percentDecode, hh, hl]
  rw [show b.toNat / 16 * 16 + b.toNat % 16 = b.toNat by omega, UInt8.ofNat_toNat]

theorem percentDecode_bytes (bs : List UInt8) (r : List Char) :
    percentDecode (bs.flatMap percentByte ++ r) = bs ++ percentDecode r := by
  induction bs with
  | nil => rfl
  | cons b bs ih =>
    rw [List.flatMap_cons, List.append_assoc, percentDecode_percentByte, ih, List.cons_append]

theorem percentDecode_cons (h : c ≠ '%') (r : List Char) :
    percentDecode (c :: r) = String.utf8EncodeChar c ++ percentDecode r := by
  rw [percentDecode]
  intro _ _ _ hc
  exact absurd hc h

theorem percentDecode_percentEncode (h : set '%' = true) (s : List Char) :
    percentDecode (percentEncode set s) = s.flatMap String.utf8EncodeChar := by
  induction s with
  | nil => rfl
  | cons c s ih =>
    rw [percentEncode_cons, List.flatMap_cons]
    cases hc : encodes set c with
    | true => rw [if_pos rfl, percentChar, percentDecode_bytes, ih]
    | false =>
      have hne : c ≠ '%' := by
        rintro rfl
        simp [encodes, h] at hc
      rw [if_neg Bool.false_ne_true, List.singleton_append, percentDecode_cons hne, ih]

theorem percentText?_percentEncode (h : set '%' = true) (s : String) :
    percentText? (percentEncode set s.toList) = some s := by
  rw [percentText?, percentDecode_percentEncode h, Text.ofBytes?_utf8, String.ofList_toList]

theorem eq_of_percentDecode (h : set '%' = true) {s t : List Char}
    (hd : percentDecode (percentEncode set s) = t.flatMap String.utf8EncodeChar) : s = t := by
  rw [percentDecode_percentEncode h] at hd
  have ho := congrArg Text.ofBytes? hd
  rw [Text.ofBytes?_utf8, Text.ofBytes?_utf8, Option.some_inj, String.ofList_inj] at ho
  exact ho

def Settled (set : EncodeSet) (s : List Char) : Prop := ∀ c ∈ s, encodes set c = false

theorem percentEncode_eq_self (h : Settled set s) : percentEncode set s = s := by
  induction s with
  | nil => rfl
  | cons c s ih =>
    have hc := h c List.mem_cons_self
    have hs := ih fun d hd ↦ h d (List.mem_cons_of_mem c hd)
    rw [percentEncode_cons, hc, if_neg Bool.false_ne_true, hs, List.singleton_append]

theorem notMem_of_forall_false {f : Char → Bool} (h : ∀ d ∈ s, f d = false) (hc : f c = true) :
    c ∉ s :=
  fun hm ↦ Bool.false_ne_true ((h c hm).symm.trans hc)

theorem Settled.notMem (h : Settled set s) (hc : set c = true) : c ∉ s :=
  notMem_of_forall_false h (by simp [encodes, hc])

def escapeCharacters : List Char := "%0123456789ABCDEF".toList

theorem capitalHex_mem {n : Nat} (h : n < 16) : capitalHex n ∈ escapeCharacters := by
  revert n
  decide

theorem mem_percentChar {d : Char} (h : d ∈ percentChar c) : d ∈ escapeCharacters := by
  obtain ⟨b, -, hd⟩ := List.mem_flatMap.1 h
  have hb := b.toNat_lt
  simp only [percentByte, List.mem_cons, List.not_mem_nil, or_false] at hd
  rcases hd with rfl | rfl | rfl
  · decide
  · exact capitalHex_mem (by omega)
  · exact capitalHex_mem (by omega)

theorem mem_percentEncode {d : Char} (h : d ∈ percentEncode set s) :
    d ∈ escapeCharacters ∨ (d ∈ s ∧ encodes set d = false) := by
  obtain ⟨c, hc, hd⟩ := List.mem_flatMap.1 h
  cases he : encodes set c with
  | true =>
    rw [he, if_pos rfl] at hd
    exact .inl (mem_percentChar hd)
  | false =>
    rw [he, if_neg Bool.false_ne_true, List.mem_singleton] at hd
    subst hd
    exact .inr ⟨hc, he⟩

/-- The inner set encodes all that the outer one does, and the outer one leaves escapes alone. -/
structure Covers (inner outer : EncodeSet) : Prop where
  encoded : ∀ c, outer c = true → inner c = true
  escapes : escapeCharacters.all (fun c ↦ !encodes outer c) = true

theorem Covers.settled (h : Covers inner outer) (s : List Char) :
    Settled outer (percentEncode inner s) := by
  intro d hd
  rcases mem_percentEncode hd with hx | ⟨-, hi⟩
  · simpa using List.all_eq_true.1 h.escapes d hx
  · simp only [encodes, Bool.or_eq_false_iff] at hi ⊢
    refine ⟨hi.1, Bool.eq_false_iff.2 fun ho ↦ ?_⟩
    exact Bool.false_ne_true (hi.2.symm.trans (h.encoded d ho))

theorem settled_controls_encoded (s : List Char) : Settled controls (percentEncode controls s) :=
  Covers.settled ⟨fun _ h ↦ h, by decide⟩ s

theorem allowed_percentEncode (h : ∀ c ∈ s, forbiddenInHost c = false) :
    ∀ c ∈ percentEncode set s, forbiddenInHost c = false := by
  have hescapes : escapeCharacters.all (fun c ↦ !forbiddenInHost c) = true := by decide
  intro c hc
  rcases mem_percentEncode hc with hx | ⟨hm, -⟩
  · simpa using List.all_eq_true.1 hescapes c hx
  · exact h c hm

theorem percentEncode_ne_nil (h : s ≠ []) : percentEncode set s ≠ [] := by
  obtain ⟨c, r, rfl⟩ := List.exists_cons_of_ne_nil h
  intro he
  have hc := (List.flatMap_eq_nil_iff.1 he) c List.mem_cons_self
  split at hc
  · obtain ⟨b, bs, hb⟩ := List.exists_cons_of_ne_nil (String.utf8EncodeChar_ne_nil (c := c))
    simp [percentChar, hb, percentByte] at hc
  · exact List.cons_ne_nil c [] hc

end ScriptEnv.Url
