import ScriptEnv.Proofs.Frame.Elapsed
import ScriptEnv.Proofs.Frame.Keys

namespace ScriptEnv.Frame

variable {f : Frame} {name : String} {i r : Nat}

/-- The column of that name has a cell for each row, the one that is found in that row. -/
def ColumnWhole (f : Frame) (name : String) : Prop :=
  ∃ cells, f.column? name = some cells ∧ cells.length = f.numRows ∧
    ∀ r < f.numRows, ∃ c, cells[r]? = some c ∧ f.get? r name = some c

theorem getElem?_filterMap_of_isSome {α β : Type} {g : α → Option β} {as : List α}
    (h : ∀ a ∈ as, (g a).isSome) (r : Nat) : (as.filterMap g)[r]? = as[r]?.bind g := by
  induction as generalizing r with
  | nil => simp
  | cons a as ih =>
    obtain ⟨ha, has⟩ := List.forall_mem_cons.1 h
    obtain ⟨b, hb⟩ := Option.isSome_iff_exists.1 ha
    rw [List.filterMap_cons_some hb]
    cases r with
    | zero => simp [hb]
    | succ r => simpa using ih has r

theorem column?_eq_some (h : f.columnIndex? name = some i) :
    f.column? name = some (f.rows.filterMap (·[i]?)) := by
  simp [column?, h]

theorem get?_eq_bind (h : f.columnIndex? name = some i) (r : Nat) :
    f.get? r name = f.rows[r]?.bind (·[i]?) := by
  simp [get?, h]

theorem columnWhole_iff (h : f.columnIndex? name = some i) :
    f.ColumnWhole name ↔ ∀ row ∈ f.rows, i < row.length := by
  have hreach : (∀ row ∈ f.rows, i < row.length) ↔ ∀ row ∈ f.rows, (row[i]?).isSome := by simp
  rw [hreach]
  constructor
  · rintro ⟨cells, hcells, hlength, -⟩
    obtain rfl := Option.some.inj ((column?_eq_some h).symm.trans hcells)
    exact List.filterMap_length_eq_length.1 hlength
  · intro hsome
    refine ⟨_, column?_eq_some h, List.filterMap_length_eq_length.2 hsome, fun r hr ↦ ?_⟩
    rw [getElem?_filterMap_of_isSome hsome, get?_eq_bind h]
    have hrow : f.rows[r]? = some f.rows[r] := List.getElem?_eq_getElem hr
    obtain ⟨c, hc⟩ := Option.isSome_iff_exists.1 (hsome _ (List.getElem_mem hr))
    exact ⟨c, by simp [hrow, hc], by simp [hrow, hc]⟩

theorem exists_columnIndex? (h : name ∈ f.columnNames) :
    ∃ i, f.columnIndex? name = some i ∧ i < f.columns.length := by
  obtain ⟨c, hc, hname⟩ := List.mem_map.1 h
  have hsome : (f.columnIndex? name).isSome := by
    rw [columnIndex?, List.findIdx?_isSome, List.any_eq_true]
    exact ⟨c, hc, by simpa using hname⟩
  obtain ⟨i, hi⟩ := Option.isSome_iff_exists.1 hsome
  obtain ⟨hlt, -⟩ := List.findIdx?_eq_some_iff_getElem.1 hi
  exact ⟨i, hi, hlt⟩

/-- The record of the row has a member for each column, and each cell of the row is among them. -/
def RecordWhole (f : Frame) (r : Nat) : Prop :=
  ∃ row members, f.rows[r]? = some row ∧ f.records[r]? = some (.object members) ∧
    members.length = f.numColumns ∧
    ∀ (i : Nat) (c : Cell), row[i]? = some c → ∃ key, f.recordKeys[i]? = some key ∧
      Keyed.find? key members = some c.plainJson

theorem recordWhole_iff :
    f.RecordWhole r ↔ ∃ row, f.rows[r]? = some row ∧ row.length = f.numColumns := by
  constructor
  · rintro ⟨row, members, hrow, hrecord, hlength, hcells⟩
    refine ⟨row, hrow, Nat.le_antisymm ?_ ?_⟩
    · by_contra! hlong
      obtain ⟨key, hkey, -⟩ := hcells f.numColumns _ (List.getElem?_eq_getElem hlong)
      obtain ⟨hlt, -⟩ := List.getElem?_eq_some_iff.1 hkey
      rw [length_recordKeys] at hlt
      omega
    · rw [getElem?_records hrow] at hrecord
      cases hrecord
      have hle := Keyed.length_ofList_le (f.recordKeys.zip (row.map Cell.plainJson))
      rw [List.length_zip, List.length_map] at hle
      omega
  · rintro ⟨row, hrow, hlength⟩
    refine ⟨row, _, hrow, getElem?_records hrow, length_members hlength, fun i c hc ↦ ?_⟩
    obtain ⟨hi, -⟩ := List.getElem?_eq_some_iff.1 hc
    have hkey : f.recordKeys[i]? = some _ :=
      List.getElem?_eq_getElem (by rwa [length_recordKeys, ← hlength])
    exact ⟨_, hkey, find?_members hlength hkey hc⟩

theorem rectangular_iff_recordWhole : f.Rectangular ↔ ∀ r < f.numRows, f.RecordWhole r := by
  simp only [recordWhole_iff]
  constructor
  · intro h r hr
    exact ⟨_, List.getElem?_eq_getElem hr, h _ (List.getElem_mem hr)⟩
  · intro h row hrow
    obtain ⟨r, hr, rfl⟩ := List.mem_iff_getElem.1 hrow
    obtain ⟨_, hget, hlength⟩ := h r hr
    rw [List.getElem?_eq_getElem hr] at hget
    cases hget
    exact hlength

def blank (columns : List Column) (lengths : List Nat) : Frame :=
  ⟨columns, lengths.map fun n ↦ List.replicate n .null, 0⟩

theorem written_blank (columns : List Column) (lengths : List Nat) :
    Written (blank columns lengths).toJson columns (blank columns lengths).rows 0 := by
  refine written_toJson (List.forall₂_same.2 fun row hrow ↦ List.forall₂_same.2 fun c hc ↦ ?_)
  obtain ⟨n, -, rfl⟩ := List.mem_map.1 hrow
  obtain rfl := List.eq_of_mem_replicate hc
  exact cellText_self nofun

/-- The lengths of rows have no part in whether a text is read: one that gives columns, rows and a
time that fits is read as these, and there are texts for rows of any lengths under any columns. A
frame has whole records exactly if it is rectangular, and a whole column exactly if all rows reach
that far. -/
theorem any_shape_read (f : Frame) :
    (∀ text cs rs n, Written text cs rs n → n < 2 ^ 128 → ofJson text = .ok ⟨cs, rs, n % 2 ^ 64⟩) ∧
    (∀ cs lengths, ∃ text g, ofJson text = .ok g ∧ g.columns = cs ∧ g.rows.map List.length = lengths) ∧
    (f.Rectangular ↔ ∀ r < f.numRows, f.RecordWhole r) ∧
    (∀ name i, f.columnIndex? name = some i →
      (f.ColumnWhole name ↔ ∀ row ∈ f.rows, i < row.length)) ∧
    (f.Rectangular → ∀ name ∈ f.columnNames, f.ColumnWhole name) := by
  have hread : ∀ text cs rs n, Written text cs rs n → n < 2 ^ 128 →
      ofJson text = .ok ⟨cs, rs, n % 2 ^ 64⟩ := by
    intro text cs rs n h hlt
    exact ofJson_eq_ok_iff.2 ⟨n, h, hlt, rfl⟩
  refine ⟨hread, ?_, rectangular_iff_recordWhole, fun name i ↦ columnWhole_iff, ?_⟩
  · intro cs lengths
    have hlt : 0 < 2 ^ 128 := by decide
    refine ⟨_, _, hread _ _ _ _ (written_blank cs lengths) hlt, rfl, ?_⟩
    simp [blank, Function.comp_def]
  · intro h name hname
    obtain ⟨i, hi, hlt⟩ := exists_columnIndex? hname
    refine (columnWhole_iff hi).2 fun row hrow ↦ ?_
    rwa [h row hrow]

def cutShort : Frame := ⟨[⟨"a", "INT4"⟩], [[.int 1], []], 0⟩

theorem any_shape_read_cutShort :
    cutShort.toJson = "\x7b\"columns\":[\x7b\"name\":\"a\",\"data_type\":\"INT4\"\x7d]," ++
        "\"rows\":[[\x7b\"Int\":1\x7d],[]],\"execution_time\":0\x7d" ∧
      ofJson cutShort.toJson = .ok cutShort ∧ ¬cutShort.Rectangular ∧
      (¬∀ r < cutShort.numRows, cutShort.RecordWhole r) ∧ ¬cutShort.ColumnWhole "a" := by
  obtain ⟨hread, -, hrecords, hcolumn, -⟩ := any_shape_read cutShort
  have hwritten : Written cutShort.toJson cutShort.columns cutShort.rows 0 := by
    refine written_toJson (List.forall₂_same.2 fun row hrow ↦ List.forall₂_same.2 fun c hc ↦ ?_)
    apply cellText_self
    rintro x rfl
    simp only [cutShort, List.mem_cons, List.not_mem_nil, or_false] at hrow
    rcases hrow with rfl | rfl <;> simp at hc
  have huneven : ¬cutShort.Rectangular := by decide
  refine ⟨by decide, hread _ _ _ _ hwritten (by decide), huneven, mt hrecords.2 huneven, ?_⟩
  rw [hcolumn "a" 0 (by decide)]
  decide

end ScriptEnv.Frame
