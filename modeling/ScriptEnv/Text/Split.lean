namespace ScriptEnv.Text

/-- The parts between separators, one more than there are separators. -/
def splitOn (sep : Char) : List Char → List (List Char)
  | [] => [[]]
  | c :: r =>
    if c = sep then [] :: splitOn sep r
    else
      match splitOn sep r with
      | [] => [[c]]
      | p :: ps => (c :: p) :: ps

def join (sep : List Char) : List (List Char) → List Char
  | [] => []
  | [x] => x
  | x :: r => x ++ sep ++ join sep r

theorem join_cons_cons (sep x y : List Char) (r : List (List Char)) :
    join sep (x :: y :: r) = x ++ sep ++ join sep (y :: r) := rfl

theorem notMem_join {c : Char} {sep : List Char} {parts : List (List Char)} (hsep : c ∉ sep)
    (h : ∀ p ∈ parts, c ∉ p) : c ∉ join sep parts := by
  induction parts with
  | nil => exact List.not_mem_nil
  | cons x r ih =>
    obtain ⟨hx, hr⟩ := List.forall_mem_cons.1 h
    cases r with
    | nil => exact hx
    | cons y r =>
      rw [join_cons_cons, List.mem_append, List.mem_append]
      rintro ((hc | hc) | hc)
      · exact hx hc
      · exact hsep hc
      · exact ih hr hc

def cutFirst (sep : Char) : List Char → Option (List Char × List Char)
  | [] => none
  | c :: r =>
    if c = sep then some ([], r)
    else (cutFirst sep r).map fun (a, b) ↦ (c :: a, b)

def cutLast (sep : Char) : List Char → Option (List Char × List Char)
  | [] => none
  | c :: r =>
    match cutLast sep r with
    | some (a, b) => some (c :: a, b)
    | none => if c = sep then some ([], r) else none

theorem cutFirst_eq_none {sep : Char} {s : List Char} : cutFirst sep s = none ↔ sep ∉ s := by
  induction s with
  | nil => simp [cutFirst]
  | cons c r ih =>
    simp only [cutFirst, List.mem_cons, not_or]
    by_cases hc : c = sep
    · simp [hc]
    · simp [hc, ih, Ne.symm hc]

theorem cutLast_eq_none {sep : Char} {s : List Char} : cutLast sep s = none ↔ sep ∉ s := by
  induction s with
  | nil => simp [cutLast]
  | cons c r ih =>
    simp only [cutLast, List.mem_cons, not_or]
    cases h : cutLast sep r with
    | none =>
      have hr := ih.1 h
      by_cases hc : c = sep
      · simp [hc]
      · simp [hc, hr, Ne.symm hc]
    | some p =>
      by_cases hr : sep ∈ r
      · simp [hr]
      · simp [ih.2 hr] at h

theorem cutFirst_append {sep : Char} {a : List Char} (h : sep ∉ a) (b : List Char) :
    cutFirst sep (a ++ sep :: b) = some (a, b) := by
  induction a with
  | nil => simp [cutFirst]
  | cons c a ih =>
    simp only [List.mem_cons, not_or] at h
    simp [cutFirst, Ne.symm h.1, ih h.2]

theorem cutLast_append {sep : Char} {b : List Char} (h : sep ∉ b) (a : List Char) :
    cutLast sep (a ++ sep :: b) = some (a, b) := by
  induction a with
  | nil => simp [cutLast, cutLast_eq_none.2 h]
  | cons c a ih => simp [cutLast, ih]

theorem splitOn_of_notMem {sep : Char} {s : List Char} (h : sep ∉ s) : splitOn sep s = [s] := by
  induction s with
  | nil => rfl
  | cons c r ih =>
    simp only [List.mem_cons, not_or] at h
    simp [splitOn, Ne.symm h.1, ih h.2]

theorem splitOn_append {sep : Char} {a : List Char} (h : sep ∉ a) (b : List Char) :
    splitOn sep (a ++ sep :: b) = a :: splitOn sep b := by
  induction a with
  | nil => simp [splitOn]
  | cons c a ih =>
    simp only [List.mem_cons, not_or] at h
    simp [splitOn, Ne.symm h.1, ih h.2]

theorem splitOn_flatMap {sep : Char} {lines : List (List Char)} {last : List Char}
    (h : ∀ l ∈ lines, sep ∉ l) (hlast : sep ∉ last) :
    splitOn sep (lines.flatMap (· ++ [sep]) ++ last) = lines ++ [last] := by
  induction lines with
  | nil => exact splitOn_of_notMem hlast
  | cons l lines ih =>
    obtain ⟨hl, hlines⟩ := List.forall_mem_cons.1 h
    rw [List.flatMap_cons, List.append_assoc, List.append_assoc, List.singleton_append,
      splitOn_append hl, ih hlines, List.cons_append]

end ScriptEnv.Text
