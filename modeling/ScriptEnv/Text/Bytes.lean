namespace ScriptEnv.Text

def byteCount (s : List Char) : Nat := s.foldl (fun n c ↦ n + c.utf8Size) 0

theorem length_le_byteCount (s : List Char) : s.length ≤ byteCount s := by
  have hfold : ∀ n, n + s.length ≤ s.foldl (fun n c ↦ n + c.utf8Size) n := by
    induction s with
    | nil => exact fun n ↦ Nat.le_refl n
    | cons c s ih =>
      intro n
      have hc := c.utf8Size_pos
      have hs := ih (n + c.utf8Size)
      rw [List.length_cons, List.foldl_cons]
      omega
  have h := hfold 0
  rwa [Nat.zero_add] at h

def ofBytes? (b : List UInt8) : Option String := String.fromUTF8? ⟨b.toArray⟩

theorem ofBytes?_utf8 (s : List Char) :
    ofBytes? (s.flatMap String.utf8EncodeChar) = some (String.ofList s) := by
  have h : (⟨(s.flatMap String.utf8EncodeChar).toArray⟩ : ByteArray) = s.utf8Encode :=
    ByteArray.ext List.data_toByteArray.symm
  have hv : s.utf8Encode.IsValidUTF8 := ByteArray.isValidUTF8_utf8Encode
  rw [ofBytes?, h, String.fromUTF8?, dif_pos hv]
  rfl

theorem ofBytes?_eq_some_iff {b : List UInt8} {s : String} :
    ofBytes? b = some s ↔ b = s.toList.flatMap String.utf8EncodeChar := by
  constructor
  · intro h
    rw [ofBytes?, String.fromUTF8?] at h
    split at h
    · next hvalid =>
      cases h
      have hencode : (String.fromUTF8 ⟨b.toArray⟩ hvalid).toList.utf8Encode = ⟨b.toArray⟩ :=
        String.utf8Encode_toList
      have hbytes := congrArg (fun a : ByteArray ↦ a.data.toList) hencode
      rw [List.utf8Encode, List.data_toByteArray] at hbytes
      exact hbytes.symm
    · cases h
  · rintro rfl
    rw [ofBytes?_utf8, String.ofList_toList]

/-- What the first byte of a character asks of the bytes after it: how many there are, and the
bounds of the first of them. -/
def continuation? (b : Nat) : Option (Nat × Nat × Nat) :=
  if b < 0x80 then some (0, 0, 0)
  else if 0xC2 ≤ b ∧ b ≤ 0xDF then some (1, 0x80, 0xBF)
  else if b = 0xE0 then some (2, 0xA0, 0xBF)
  else if b = 0xED then some (2, 0x80, 0x9F)
  else if 0xE1 ≤ b ∧ b ≤ 0xEF then some (2, 0x80, 0xBF)
  else if b = 0xF0 then some (3, 0x90, 0xBF)
  else if 0xF1 ≤ b ∧ b ≤ 0xF3 then some (3, 0x80, 0xBF)
  else if b = 0xF4 then some (3, 0x80, 0x8F)
  else none

def continued : Nat → Nat → Nat → List UInt8 → Nat
  | 0, _, _, _ => 0
  | _, _, _, [] => 0
  | n + 1, low, high, b :: r =>
    if low ≤ b.toNat ∧ b.toNat ≤ high then continued n 0x80 0xBF r + 1 else 0

/-- The text of some bytes, with U+FFFD for every longest run that begins a character and does not
complete it, and for every byte that cannot begin one. The fuel covers one byte a step. -/
def lossy : Nat → List UInt8 → List Char
  | 0, _ => []
  | _, [] => []
  | fuel + 1, b :: r =>
    match continuation? b.toNat with
    | none => '\uFFFD' :: lossy fuel r
    | some (n, low, high) =>
      let k := continued n low high r
      let c := ((ofBytes? (b :: r.take k)).bind fun s ↦ s.toList.head?).getD '\uFFFD'
      (if k = n then c else '\uFFFD') :: lossy fuel (r.drop k)

def ofBytesLossy (b : List UInt8) : String := String.ofList (lossy b.length b)

end ScriptEnv.Text
