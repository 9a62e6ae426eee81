import ScriptEnv.Entity

namespace ScriptEnv

namespace Identifier

variable {name s t : List Char} {c : Char}

theorem lexBody_cons_of_ne (h : c ≠ '"') (r : List Char) :
    lexBody (c :: r) = (lexBody r).map fun (name, rest) ↦ (c :: name, rest) := by
  cases r <;> simp [lexBody, h]

theorem lexBody_close (h : s.head? ≠ some '"') : lexBody ('"' :: s) = some ([], s) := by
  cases s with
  | nil => rfl
  | cons d s =>
    have hd : d ≠ '"' := by simpa using h
    simp [lexBody, hd]

/-- A pair of quotes is read before a closing one, so a run of quotes pairs up from its start. -/
theorem lexBody_double (h : s.head? ≠ some '"') : lexBody (double name ++ '"' :: s) = some (name, s) := by
  induction name with
  | nil => exact lexBody_close h
  | cons c name ih =>
    rw [double]
    split
    · next hc =>
      subst hc
      simp [lexBody, ih]
    · next hc =>
      rw [List.cons_append, lexBody_cons_of_ne hc, ih]
      rfl

theorem eq_double_of_lexBody (h : lexBody t = some (name, s)) :
    t = double name ++ '"' :: s ∧ s.head? ≠ some '"' := by
  induction t using lexBody.induct generalizing name with
  | case1 => simp [lexBody] at h
  | case2 r ih =>
    rw [lexBody, Option.map_eq_some_iff] at h
    obtain ⟨⟨body, rest⟩, hbody, heq⟩ := h
    obtain ⟨rfl, rfl⟩ := Prod.mk.inj heq
    obtain ⟨rfl, hrest⟩ := ih hbody
    simpa [double] using hrest
  | case3 r hr =>
    have hhead : r.head? ≠ some '"' := by
      intro hquote
      obtain ⟨u, rfl⟩ := List.head?_eq_some_iff.1 hquote
      exact hr u rfl
    rw [lexBody_close hhead] at h
    obtain ⟨rfl, rfl⟩ := Prod.mk.inj (Option.some.inj h)
    exact ⟨rfl, hhead⟩
  | case4 c r _ hc ih =>
    have hne : c ≠ '"' := by simpa using hc
    rw [lexBody_cons_of_ne hne, Option.map_eq_some_iff] at h
    obtain ⟨⟨body, rest⟩, hbody, heq⟩ := h
    obtain ⟨rfl, rfl⟩ := Prod.mk.inj heq
    obtain ⟨rfl, hrest⟩ := ih hbody
    simpa [double, hne] using hrest

theorem lex_eq_some_iff : lex t = some (name, s) ↔ t = quote name ++ s ∧ s.head? ≠ some '"' := by
  constructor
  · intro h
    cases t with
    | nil => simp [lex] at h
    | cons c r =>
      by_cases hc : c = '"'
      · subst hc
        obtain ⟨rfl, hs⟩ := eq_double_of_lexBody h
        simpa [quote] using hs
      · simp [lex, hc] at h
  · rintro ⟨rfl, hs⟩
    simpa [quote, lex] using lexBody_double hs

theorem quote_inj (h : quote name = quote t) : name = t := by
  have hname : lex (quote name) = some (name, []) := lex_eq_some_iff.2 ⟨by simp, by simp⟩
  have ht : lex (quote t) = some (t, []) := lex_eq_some_iff.2 ⟨by simp, by simp⟩
  rw [h, ht] at hname
  exact (Prod.mk.inj (Option.some.inj hname)).1.symm

end Identifier

open Identifier (lex)

theorem toList_quoteIdentifier (name : String) :
    (quoteIdentifier name).toList = Identifier.quote name.toList := String.toList_ofList

/-- A name in quotes followed by any text that does not begin with a quote is read as the name, with
that text left over, and no other text is read so. The statement on a table ends with one such name,
the table's, so tables of different names have different statements. -/
theorem quoted_name_closed (name s u : String) (t t' : Table) :
    (lex u.toList = some (name.toList, s.toList) ↔
      u = quoteIdentifier name ++ s ∧ s.toList.head? ≠ some '"') ∧
    (∃ q : String, t.select = "SELECT * FROM " ++ q ∧ lex q.toList = some (t.name.toList, [])) ∧
    (t.select = t'.select ↔ t.name = t'.name) := by
  refine ⟨?_, ?_, ?_⟩
  · rw [Identifier.lex_eq_some_iff, ← toList_quoteIdentifier, ← String.toList_append, String.toList_inj]
  · refine ⟨quoteIdentifier t.name, rfl, Identifier.lex_eq_some_iff.2 ⟨?_, by simp⟩⟩
    rw [toList_quoteIdentifier, List.append_nil]
  · constructor
    · intro h
      have hquoted : quoteIdentifier t.name = quoteIdentifier t'.name :=
        (String.append_right_inj _).1 h
      have hname := congrArg String.toList hquoted
      rw [toList_quoteIdentifier, toList_quoteIdentifier] at hname
      exact String.toList_inj.1 (Identifier.quote_inj hname)
    · intro h
      rw [Table.select, Table.select, h]

example : lex (quoteIdentifier "\"; DROP\"\"\" --\"" ++ "; \"").toList =
    some ("\"; DROP\"\"\" --\"".toList, "; \"".toList) := by decide

end ScriptEnv
