import Mathlib.Data.List.Nodup
import Mathlib.Data.List.Perm.Subperm
import ScriptEnv.Frame.Records
import ScriptEnv.Number.Numeral

namespace ScriptEnv.Frame

variable {taken names : List String} {name key : String} {i j k : Nat} {f : Frame}

def numbered (name : String) (k : Nat) : String := s!"{name}_{k}"

theorem numbered_inj (h : numbered name j = numbered name k) : j = k := by
  have hdigits : j.repr = k.repr := by
    simpa [numbered, String.append_assoc, String.append_right_inj] using h
  have hvalue := congrArg (fun s ↦ Number.decimalValue s.toList) hdigits
  simpa [Number.decimalValue_toDigits] using hvalue

theorem numbered_ne (name : String) (k : Nat) : numbered name k ≠ name := by
  intro h
  have hlength := congrArg String.length h
  simp only [numbered, String.length_append] at hlength
  have hmark : (toString "_").length = 1 := rfl
  have hself : (toString name).length = name.length := rfl
  omega

/-- The name and the numbered names are pairwise distinct, so not all of them can be taken. -/
theorem exists_numbered_notMem (h : name ∈ taken) :
    ∃ k, 1 ≤ k ∧ k ≤ taken.length ∧ numbered name k ∉ taken := by
  by_contra! hall
  let candidates := name :: (List.range taken.length).map fun k ↦ numbered name (k + 1)
  have hnodup : candidates.Nodup := by
    refine List.nodup_cons.2 ⟨?_, ?_⟩
    · simpa using fun k _ ↦ numbered_ne name (k + 1)
    · refine List.nodup_range.map fun j k hjk ↦ ?_
      simpa using numbered_inj hjk
  have hsubset : candidates ⊆ taken := by
    intro key hkey
    rcases List.mem_cons.1 hkey with rfl | hkey
    · exact h
    · obtain ⟨k, hk, rfl⟩ := List.mem_map.1 hkey
      exact hall (k + 1) (Nat.le_add_left 1 k) (List.mem_range.1 hk)
  have hlength := (hnodup.subperm hsubset).length_le
  simp only [candidates, List.length_cons, List.length_map, List.length_range] at hlength
  omega

/-- The key that a column gets, where some keys are taken: its name, or else the name with the least
number that makes it free. No more numbers are tried than there are keys taken. -/
inductive KeyFor (taken : List String) (name : String) : String → Prop
  | plain : name ∉ taken → KeyFor taken name name
  | numbered {k : Nat} : name ∈ taken → 1 ≤ k → k ≤ taken.length →
    (∀ j, 1 ≤ j → j < k → numbered name j ∈ taken) → numbered name k ∉ taken →
    KeyFor taken name (numbered name k)

theorem KeyFor.notMem (h : KeyFor taken name key) : key ∉ taken := by
  cases h <;> assumption

theorem keyFor_freshKey (taken : List String) (name : String) :
    KeyFor taken name (freshKey taken name) := by
  unfold freshKey
  split
  · next hname =>
    obtain ⟨k, hk, hlength, hfree⟩ := exists_numbered_notMem hname
    cases hfind : (List.range (taken.length + 1)).find? fun k ↦ numbered name (k + 1) ∉ taken with
    | none =>
      have hall := List.find?_eq_none.1 hfind (k - 1) (List.mem_range.2 (by omega))
      simp [Nat.sub_add_cancel hk, hfree] at hall
    | some n =>
      obtain ⟨hn, -, hleast⟩ := List.find?_range_eq_some.1 hfind
      have htaken : ∀ j, 1 ≤ j → j < n + 1 → numbered name j ∈ taken := by
        intro j hj hjn
        have hbefore := hleast (j - 1) (by omega)
        simpa [Nat.sub_add_cancel hj] using hbefore
      have hbound : n + 1 ≤ taken.length := by
        by_contra hlong
        exact hfree (htaken k hk (by omega))
      have hkey := KeyFor.numbered hname (Nat.le_add_left 1 n) hbound htaken (by simpa using hn)
      dsimp only
      rw [List.find?_map]
      change KeyFor taken name (((List.find? (fun k ↦ numbered name (k + 1) ∉ taken) _).map _).getD name)
      rw [hfind]
      exact hkey
  · next hname => exact .plain hname

theorem length_keysFor (taken names : List String) : (keysFor taken names).length = names.length := by
  induction names generalizing taken with
  | nil => rfl
  | cons name names ih => simp [keysFor, ih]

theorem nodup_keysFor (h : taken.Nodup) (names : List String) :
    (taken ++ keysFor taken names).Nodup := by
  induction names generalizing taken with
  | nil => simpa [keysFor] using h
  | cons name names ih =>
    have hfree := (keyFor_freshKey taken name).notMem
    have htaken : (taken ++ [freshKey taken name]).Nodup := by
      simp [List.nodup_append, h]
      grind
    simpa [keysFor] using ih htaken

theorem keyFor_keysFor (hname : names[i]? = some name) (hkey : (keysFor taken names)[i]? = some key) :
    KeyFor (taken ++ (keysFor taken names).take i) name key := by
  induction names generalizing taken i with
  | nil => simp at hname
  | cons n names ih =>
    cases i with
    | zero =>
      simp only [List.getElem?_cons_zero, Option.some.injEq, keysFor] at hname hkey
      subst hname hkey
      simpa using keyFor_freshKey taken n
    | succ i =>
      simp only [List.getElem?_cons_succ, keysFor] at hname hkey
      simpa [keysFor] using ih hname hkey

theorem length_recordKeys (f : Frame) : f.recordKeys.length = f.numColumns := by
  simp [recordKeys, length_keysFor, columnNames, numColumns]

theorem nodup_recordKeys (f : Frame) : f.recordKeys.Nodup := nodup_keysFor List.nodup_nil f.columnNames

section

variable {row : List Cell} {cell : Cell} (hrow : row.length = f.numColumns)

include hrow

theorem keys_zip :
    Keyed.keys (f.recordKeys.zip (row.map Cell.plainJson)) = f.recordKeys := by
  apply List.map_fst_zip
  simp [length_recordKeys, hrow]

theorem perm_members :
    (Keyed.ofList (f.recordKeys.zip (row.map Cell.plainJson))).Perm
      (f.recordKeys.zip (row.map Cell.plainJson)) := by
  apply Keyed.perm_ofList
  rw [keys_zip hrow]
  exact nodup_recordKeys f

theorem length_members :
    (Keyed.ofList (f.recordKeys.zip (row.map Cell.plainJson))).length = f.numColumns := by
  rw [(perm_members hrow).length_eq]
  simp [length_recordKeys, hrow]

theorem find?_members (hkey : f.recordKeys[i]? = some key) (hcell : row[i]? = some cell) :
    Keyed.find? key (Keyed.ofList (f.recordKeys.zip (row.map Cell.plainJson))) =
      some cell.plainJson := by
  apply Keyed.find?_eq_some_of_mem (Keyed.sorted_ofList _).nodup_keys
  apply (perm_members hrow).mem_iff.2
  apply List.mem_of_getElem? (i := i)
  simp [List.getElem?_zip_eq_some, hkey, hcell]

end

theorem getElem?_records {r : Nat} {row : List Cell} (h : f.rows[r]? = some row) :
    f.records[r]? = some (.object (Keyed.ofList (f.recordKeys.zip (row.map Cell.plainJson)))) := by
  simp [records, record, h]

theorem get?_eq_some {r : Nat} {row : List Cell} {cell : Cell} (hi : f.columnIndex? name = some i)
    (hr : f.rows[r]? = some row) (hcell : row[i]? = some cell) : f.get? r name = some cell := by
  simp [get?, hi, hr, hcell]

def doubled : Frame where
  columns := [⟨"?column?", "INT4"⟩, ⟨"?column?", "INT4"⟩, ⟨"?column?_1", "INT4"⟩]
  rows := [[.int 1, .int 2, .int 3], [.null, .text "", .bytes []]]
  elapsed := 0

/-- Every column has a key of its own, the first candidate that no column before it has taken. If all
rows have a cell for each column, there is a record for each row, with these cells under these keys
and nothing else. -/
theorem records_keep_cells (f : Frame) :
    (f.recordKeys.length = f.numColumns ∧ f.recordKeys.Nodup ∧
      ∀ i name, f.columnNames[i]? = some name →
        ∃ key, f.recordKeys[i]? = some key ∧ KeyFor (f.recordKeys.take i) name key) ∧
    (f.Rectangular → f.records.length = f.numRows ∧
      ∀ r row, f.rows[r]? = some row → ∃ members, f.records[r]? = some (.object members) ∧
        members.length = f.numColumns ∧ (Keyed.keys members).Nodup ∧
        (∀ i, i < f.numColumns → ∃ key cell, f.recordKeys[i]? = some key ∧ row[i]? = some cell ∧
          Keyed.find? key members = some cell.plainJson) ∧
        ∀ name i, f.columnIndex? name = some i → ∃ key cell, f.recordKeys[i]? = some key ∧
          f.get? r name = some cell ∧ Keyed.find? key members = some cell.plainJson) := by
  refine ⟨⟨length_recordKeys f, nodup_recordKeys f, ?_⟩, ?_⟩
  · intro i name hname
    obtain ⟨hi, -⟩ := List.getElem?_eq_some_iff.1 hname
    have hlength : i < f.recordKeys.length := by
      simpa [length_recordKeys, numColumns, columnNames] using hi
    have hkey : (keysFor [] f.columnNames)[i]? = some f.recordKeys[i] :=
      List.getElem?_eq_getElem hlength
    exact ⟨_, hkey, keyFor_keysFor hname hkey⟩
  · intro hrect
    refine ⟨by simp [records, numRows], fun r row hr ↦ ?_⟩
    have hrow : row.length = f.numColumns := hrect row (List.mem_of_getElem? hr)
    have hcolumn : ∀ i, i < f.numColumns → ∃ key cell, f.recordKeys[i]? = some key ∧
        row[i]? = some cell ∧
        Keyed.find? key (Keyed.ofList (f.recordKeys.zip (row.map Cell.plainJson))) =
          some cell.plainJson := by
      intro i hi
      have hkey := List.getElem?_eq_getElem (l := f.recordKeys) (by rwa [length_recordKeys])
      have hcell := List.getElem?_eq_getElem (l := row) (by rwa [hrow])
      exact ⟨_, _, hkey, hcell, find?_members hrow hkey hcell⟩
    refine ⟨_, getElem?_records hr, length_members hrow, (Keyed.sorted_ofList _).nodup_keys, hcolumn, ?_⟩
    intro name i hi
    obtain ⟨hlt, -⟩ := List.findIdx?_eq_some_iff_getElem.1 hi
    obtain ⟨key, cell, hkey, hcell, hfind⟩ := hcolumn i hlt
    exact ⟨key, cell, hkey, get?_eq_some hi hr hcell, hfind⟩

theorem records_keep_cells_doubled :
    doubled.recordKeys = ["?column?", "?column?_1", "?column?_1_1"] ∧ doubled.Rectangular ∧
      doubled.records.length = 2 ∧
      ∃ members, doubled.records[0]? = some (.object members) ∧ members.length = 3 ∧
        ∃ key cell, doubled.recordKeys[2]? = some key ∧
          doubled.get? 0 "?column?_1" = some cell ∧ Keyed.find? key members = some cell.plainJson := by
  have hrect : doubled.Rectangular := by decide
  obtain ⟨hrecords, hrow⟩ := (records_keep_cells doubled).2 hrect
  obtain ⟨members, hmembers, hlength, -, -, hget⟩ := hrow 0 _ rfl
  exact ⟨by decide, hrect, hrecords, members, hmembers, hlength, hget "?column?_1" 2 (by decide)⟩

end ScriptEnv.Frame
