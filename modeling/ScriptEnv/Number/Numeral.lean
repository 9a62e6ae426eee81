namespace ScriptEnv.Number

def digitValue? (c : Char) : Option Nat :=
  if '0' ≤ c ∧ c ≤ '9' then some (c.toNat - '0'.toNat) else none

def hexValue? (c : Char) : Option Nat :=
  if '0' ≤ c ∧ c ≤ '9' then some (c.toNat - '0'.toNat)
  else if 'a' ≤ c ∧ c ≤ 'f' then some (c.toNat - 'a'.toNat + 10)
  else if 'A' ≤ c ∧ c ≤ 'F' then some (c.toNat - 'A'.toNat + 10)
  else none

def isDigit (c : Char) : Bool := (digitValue? c).isSome

def isHexDigit (c : Char) : Bool := (hexValue? c).isSome

def valueOf (base : Nat) (digit? : Char → Option Nat) (acc : Nat) (s : List Char) : Nat :=
  s.foldl (fun n c ↦ n * base + (digit? c).getD 0) acc

def decimalValue (s : List Char) : Nat := valueOf 10 digitValue? 0 s

/-- One or more decimal digits, after an optional `+`, of a value up to `bound`. -/
def natural? (bound : Nat) (s : List Char) : Option Nat :=
  let digits := match s with
    | '+' :: r => r
    | _ => s
  if digits ≠ [] ∧ digits.all isDigit then
    let n := decimalValue digits
    if n ≤ bound then some n else none
  else none

def integer? (low high : Int) (s : List Char) : Option Int :=
  let (sign, digits) : Int × List Char := match s with
    | '+' :: r => (1, r)
    | '-' :: r => (-1, r)
    | _ => (1, s)
  if digits ≠ [] ∧ digits.all isDigit then
    let n := sign * decimalValue digits
    if low ≤ n ∧ n ≤ high then some n else none
  else none

def port? (s : List Char) : Option UInt16 := (natural? 65535 s).map UInt16.ofNat

theorem isDigit_iff {c : Char} : isDigit c = true ↔ c.isDigit = true := by
  simp only [isDigit, digitValue?, Char.isDigit]
  split <;> simp_all [Char.le_def]

theorem isDigit_of_mem_toDigits {n : Nat} {c : Char} (h : c ∈ Nat.toDigits 10 n) :
    isDigit c = true :=
  isDigit_iff.2 (Nat.isDigit_of_mem_toDigits (by decide) (by decide) h)

theorem valueOf_eq_ofDigitChars {s : List Char} (h : ∀ c ∈ s, isDigit c = true) (acc : Nat) :
    valueOf 10 digitValue? acc s = Nat.ofDigitChars 10 s acc := by
  induction s generalizing acc with
  | nil => rfl
  | cons c s ih =>
    simp only [List.forall_mem_cons] at h
    have hc : (digitValue? c).getD 0 = c.toNat - '0'.toNat := by
      have hd := h.1
      simp only [isDigit, digitValue?] at hd ⊢
      split <;> simp_all
    have hs := ih h.2 (acc * 10 + (c.toNat - '0'.toNat))
    simpa [valueOf, Nat.ofDigitChars, hc, Nat.mul_comm] using hs

theorem decimalValue_toDigits (n : Nat) : decimalValue (Nat.toDigits 10 n) = n := by
  rw [decimalValue, valueOf_eq_ofDigitChars fun _ ↦ isDigit_of_mem_toDigits]
  exact Nat.ofDigitChars_ten_toDigits

theorem natural?_eq_some_iff {bound n : Nat} {s : List Char} :
    natural? bound s = some n ↔ ∃ ds, (s = ds ∨ s = '+' :: ds) ∧ ds ≠ [] ∧
      (∀ c ∈ ds, isDigit c = true) ∧ decimalValue ds = n ∧ n ≤ bound := by
  have hdigits : ∀ ds : List Char,
      (if ds ≠ [] ∧ ds.all isDigit then
        if decimalValue ds ≤ bound then some (decimalValue ds) else none
      else none) = some n ↔
        ds ≠ [] ∧ (∀ c ∈ ds, isDigit c = true) ∧ decimalValue ds = n ∧ n ≤ bound := by
    intro ds
    simp only [List.all_eq_true]
    split
    · next h =>
      split
      · next hle =>
        rw [Option.some_inj]
        exact ⟨fun hn ↦ ⟨h.1, h.2, hn, hn ▸ hle⟩, fun hn ↦ hn.2.2.1⟩
      · next hle => exact iff_of_false (fun hn ↦ by cases hn) fun hn ↦ hle (hn.2.2.1 ▸ hn.2.2.2)
    · next h => exact iff_of_false (fun hn ↦ by cases hn) fun hn ↦ h ⟨hn.1, hn.2.1⟩
  by_cases hplus : ∃ r, s = '+' :: r
  · obtain ⟨r, rfl⟩ := hplus
    refine (hdigits r).trans ⟨fun h ↦ ⟨r, .inr rfl, h⟩, ?_⟩
    rintro ⟨ds, rfl | hds, h⟩
    · exact absurd (h.2.1 '+' List.mem_cons_self) (by decide)
    · rwa [(List.cons.inj hds).2]
  · have hself : natural? bound s = if s ≠ [] ∧ s.all isDigit then
        if decimalValue s ≤ bound then some (decimalValue s) else none else none := by
      simp only [natural?]
      split
      · exact absurd ⟨_, rfl⟩ hplus
      · rfl
    rw [hself]
    refine (hdigits s).trans ⟨fun h ↦ ⟨s, .inl rfl, h⟩, ?_⟩
    rintro ⟨ds, rfl | hds, h⟩
    · exact h
    · exact absurd ⟨ds, hds⟩ hplus

end ScriptEnv.Number
