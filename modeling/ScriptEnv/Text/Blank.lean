namespace ScriptEnv.Text

def isBlank (c : Char) : Bool :=
  let n := c.toNat
  (0x09 ≤ n && n ≤ 0x0D) || n == 0x20 || n == 0x85 || n == 0xA0 || n == 0x1680
    || (0x2000 ≤ n && n ≤ 0x200A) || n == 0x2028 || n == 0x2029 || n == 0x202F || n == 0x205F
    || n == 0x3000

def trimStart (s : List Char) : List Char := s.dropWhile isBlank

def trimEnd (s : List Char) : List Char := (s.reverse.dropWhile isBlank).reverse

def trim (s : List Char) : List Char := trimEnd (trimStart s)

/-- A text of blanks only, the empty text included. -/
def Blank (s : String) : Prop := ∀ c ∈ s.toList, isBlank c = true

instance (s : String) : Decidable (Blank s) := List.decidableBAll (isBlank · = true) s.toList

theorem ne_nil_of_not_blank {s : String} (h : ¬Blank s) : s.toList ≠ [] := by
  intro he
  apply h
  intro c hc
  rw [he] at hc
  exact absurd hc List.not_mem_nil

/-- The C0 and C1 controls and DEL. -/
def isControl (c : Char) : Bool := c.toNat < 0x20 || (0x7F ≤ c.toNat && c.toNat < 0xA0)

theorem trimEnd_append_blanks (s t : List Char) (h : ∀ c ∈ t, isBlank c = true) :
    trimEnd (s ++ t) = trimEnd s := by
  unfold trimEnd
  rw [List.reverse_append, List.dropWhile_append_of_pos]
  intro c hc
  exact h c (List.mem_reverse.1 hc)

theorem trimEnd_append_cons {c : Char} (h : isBlank c = false) (s t : List Char) :
    trimEnd (s ++ c :: t) = s ++ c :: trimEnd t := by
  have hstop : (c :: s.reverse).dropWhile isBlank = c :: s.reverse := by simp [h]
  unfold trimEnd
  rw [List.reverse_append, List.reverse_cons, List.append_assoc, List.singleton_append,
    List.dropWhile_append, hstop]
  split
  · next hblank => simp [List.isEmpty_iff.1 hblank]
  · simp

theorem trimEnd_cons (c : Char) (s : List Char) :
    trimEnd (c :: s) = if trimEnd s = [] ∧ isBlank c = true then [] else c :: trimEnd s := by
  by_cases hs : s.reverse.dropWhile isBlank = []
  · cases hc : isBlank c <;> simp [trimEnd, List.dropWhile_append, hs, hc]
  · simp [trimEnd, List.dropWhile_append, hs]

theorem trimEnd_drop (s : List Char) (k : Nat) : trimEnd (s.drop k) = (trimEnd s).drop k := by
  induction s generalizing k with
  | nil => simp [trimEnd]
  | cons c s ih =>
    cases k with
    | zero => rfl
    | succ k =>
      rw [List.drop_succ_cons, ih, trimEnd_cons]
      split
      · next h => simp [h.1]
      · rfl

theorem exists_append_trimEnd (s : List Char) :
    ∃ u, s = trimEnd s ++ u ∧ ∀ c ∈ u, isBlank c = true := by
  refine ⟨(s.reverse.takeWhile isBlank).reverse, ?_, ?_⟩
  · rw [trimEnd, ← List.reverse_append, List.takeWhile_append_dropWhile, List.reverse_reverse]
  · intro c hc
    exact List.all_eq_true.1 List.all_takeWhile c (List.mem_reverse.1 hc)

end ScriptEnv.Text
