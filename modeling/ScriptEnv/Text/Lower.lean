namespace ScriptEnv.Text

/-- Lower case, as far as ASCII letters come out of it. Any other character becomes text in which no ASCII
letter is followed by another one, so a search for ASCII words may leave it alone. -/
def lowerChar (c : Char) : Char :=
  if 'A' ≤ c ∧ c ≤ 'Z' then Char.ofNat (c.toNat + 32)
  else if c = '\u212A' then 'k'
  else c

def lower (s : String) : List Char := s.toList.map lowerChar

theorem lower_append (s t : String) : lower (s ++ t) = lower s ++ lower t := by
  rw [lower, String.toList_append, List.map_append]
  rfl

theorem lowerChar_eq_toLower {c : Char} (h : c ≠ '\u212A') : lowerChar c = c.toLower := by
  by_cases hc : c.toNat < 128
  · have hascii : ∀ n < 128, lowerChar (Char.ofNat n) = (Char.ofNat n).toLower := by decide
    rw [← Char.ofNat_toNat c, hascii c.toNat hc]
  · have hupper : ¬c ≤ 'Z' := by
      intro hle
      exact hc (Nat.lt_of_le_of_lt (UInt32.le_iff_toNat_le.1 hle) (by decide))
    have hkept : c.toLower = c := dif_neg fun h : c.val ≥ 'A'.val ∧ c.val ≤ 'Z'.val ↦ hupper h.2
    rw [lowerChar, if_neg fun h ↦ hupper h.2, if_neg h, hkept]

theorem lower_eq_iff {word : List Char} (hk : 'k' ∉ word) (hkelvin : '\u212A' ∉ word) {s : String} :
    lower s = word ↔ s.toList.map Char.toLower = word := by
  have hmap : ∀ f : Char → Char, f '\u212A' ∉ word → s.toList.map f = word →
      lower s = s.toList.map Char.toLower := by
    intro f hf h
    refine List.map_congr_left fun c hc ↦ lowerChar_eq_toLower ?_
    rintro rfl
    exact hf (h ▸ List.mem_map_of_mem hc)
  constructor
  · intro h
    exact (hmap lowerChar hk h).symm.trans h
  · intro h
    exact (hmap Char.toLower hkelvin h).trans h

def mentions (word : List Char) : List Char → Bool
  | [] => word.isEmpty
  | c :: r => word.isPrefixOf (c :: r) || mentions word r

theorem mentions_iff {word s : List Char} :
    mentions word s = true ↔ ∃ a b, s = a ++ word ++ b := by
  induction s with
  | nil => cases word <;> simp [mentions]
  | cons c r ih =>
    simp only [mentions, Bool.or_eq_true, ih, List.isPrefixOf_iff_prefix]
    constructor
    · rintro (⟨b, h⟩ | ⟨a, b, h⟩)
      · exact ⟨[], b, by simpa using h.symm⟩
      · exact ⟨c :: a, b, by simp [h]⟩
    · rintro ⟨a, b, h⟩
      cases a with
      | nil => exact .inl ⟨b, by simpa using h.symm⟩
      | cons d a =>
        simp only [List.cons_append, List.cons.injEq] at h
        exact .inr ⟨a, b, by simpa using h.2⟩

theorem prefix_append_cons {sep : Char} {word : List Char} (h : sep ∉ word) (a b : List Char) :
    word <+: a ++ sep :: b ↔ word <+: a := by
  induction word generalizing a with
  | nil => simp
  | cons w word ih =>
    simp only [List.mem_cons, not_or] at h
    cases a with
    | nil => simp [List.cons_prefix_cons, Ne.symm h.1]
    | cons c a => simp [List.cons_prefix_cons, ih h.2]

theorem mentions_append_cons {sep : Char} {word : List Char} (h : sep ∉ word) (hw : word ≠ [])
    (a b : List Char) :
    mentions word (a ++ sep :: b) = (mentions word a || mentions word b) := by
  have hp (a : List Char) : word.isPrefixOf (a ++ sep :: b) = word.isPrefixOf a := by
    rw [Bool.eq_iff_iff, List.isPrefixOf_iff_prefix, List.isPrefixOf_iff_prefix,
      prefix_append_cons h]
  induction a with
  | nil =>
    have hnil := hp []
    rw [List.nil_append] at hnil ⊢
    simp only [mentions, hnil]
    cases word with
    | nil => exact absurd rfl hw
    | cons w word => rfl
  | cons c a ih =>
    have hcons := hp (c :: a)
    rw [List.cons_append] at hcons ⊢
    simp only [mentions, hcons, ih, Bool.or_assoc]

theorem mentions_cons_of_ne {w c : Char} (h : w ≠ c) (r s : List Char) :
    mentions (w :: r) (c :: s) = mentions (w :: r) s := by
  rw [mentions, List.isPrefixOf_cons_cons, beq_false_of_ne h, Bool.false_and, Bool.false_or]

end ScriptEnv.Text
