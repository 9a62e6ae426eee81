import ScriptEnv.Proofs.Frame.Cells

namespace ScriptEnv.Frame

open Decode (required_eq_ok)
open Json (Entry ListOf Natural Once Reads Renders Separate Slot Spells braced compactForm compactObject
  once_iff once_of_valuesOf)

variable {es : List Entry} {body w : List Char} {f g : Frame}

def columnSlots : List (Slot PartialColumn) :=
  [Slot.of "name" (·.name) (fun p a ↦ { p with name := some a }) Json.reads_text false,
    Slot.of "data_type" (·.type) (fun p a ↦ { p with type := some a }) Json.reads_text false]

def ColumnText : List Char → Column → Prop := columnRecord.Denotes (columnSlots.map Slot.spec)

theorem reads_column : Reads columnRecord.read ColumnText := Json.Record.reads rfl

theorem separate_columnSlots : Separate columnSlots where
  nodup := by decide
  get_put := by
    intro s hs p a
    simp only [columnSlots, List.mem_cons, List.not_mem_nil, or_false] at hs
    rcases hs with rfl | rfl <;> rfl
  get_put_of_ne := by
    intro s t hs ht hne p a
    simp only [columnSlots, List.mem_cons, List.not_mem_nil, or_false] at hs ht
    rcases hs with rfl | rfl <;> rcases ht with rfl | rfl <;> first | rfl | exact absurd rfl hne
  ext := by
    rintro ⟨n, t⟩ ⟨n', t'⟩ h
    simp only [columnSlots, List.forall_mem_cons, List.not_mem_nil, false_implies, implies_true, and_true]
      at h
    obtain ⟨rfl, rfl⟩ : n = n' ∧ t = t' := h
    rfl

theorem column_finish_eq_ok {p : PartialColumn} {c : Column} :
    columnRecord.finish p = .ok c ↔ p = ⟨some c.name, some c.type⟩ := by
  constructor
  · intro h
    obtain ⟨n, hn, h⟩ := bind_eq_ok.1 h
    obtain ⟨t, ht, h⟩ := bind_eq_ok.1 h
    cases h
    obtain ⟨_, _⟩ := p
    obtain rfl := required_eq_ok.1 hn
    obtain rfl := required_eq_ok.1 ht
    rfl
  · rintro rfl
    rfl

theorem columnText_braced_iff (h : Renders es body) {c : Column} :
    ColumnText (braced body) c ↔ Once es "name" Spells c.name ∧ Once es "data_type" Spells c.type := by
  rw [ColumnText, Json.denotes_braced_iff separate_columnSlots h, once_iff, once_iff]
  simp only [column_finish_eq_ok, exists_eq_right, columnSlots, List.forall_mem_cons, List.not_mem_nil,
    false_implies, implies_true, and_true]
  rfl

def columnEntries (c : Column) : List Entry := [.text "name" c.name, .text "data_type" c.type]

theorem columnText_columnJson {c c' : Column} : ColumnText (compactForm (columnJson c)) c' ↔ c = c' := by
  have hself : ColumnText (compactForm (columnJson c)) c := by
    refine (columnText_braced_iff (Json.renders_compactObject (columnEntries c))).2 ⟨?_, ?_⟩
    · exact (once_of_valuesOf rfl).2 (Json.spells_stringForm c.name)
    · exact (once_of_valuesOf rfl).2 (Json.spells_stringForm c.type)
  exact ⟨fun h ↦ reads_column.unique hself h, fun h ↦ h ▸ hself⟩

/-- The texts of a time: a natural number of 128 bits, of which 64 are kept. -/
def ElapsedText (w : List Char) (n : Nat) : Prop :=
  ∃ m, Natural (Number.twoTo 128 - 1) w m ∧ n = m % Number.twoTo 64

theorem reads_elapsed : Reads readElapsed ElapsedText :=
  Json.reads_natural128.map fun n ↦ n % Number.twoTo 64

theorem reads_columns : Reads (Json.list columnRecord.read) (ListOf ColumnText) :=
  Json.reads_list reads_column

theorem reads_rows : Reads (Json.list (Json.list readCell)) (ListOf (ListOf CellText)) :=
  Json.reads_list (Json.reads_list reads_cell)

def slots : List (Slot Partial) :=
  [Slot.of "columns" (·.columns) (fun p a ↦ { p with columns := some a }) reads_columns false,
    Slot.of "rows" (·.rows) (fun p a ↦ { p with rows := some a }) reads_rows false,
    Slot.of "execution_time" (·.elapsed) (fun p a ↦ { p with elapsed := some a }) reads_elapsed false]

def FrameText : List Char → Frame → Prop := codec.Denotes (slots.map Slot.spec)

theorem reads_frame : Reads codec.read FrameText := Json.Record.reads rfl

theorem separate_slots : Separate slots where
  nodup := by decide
  get_put := by
    intro s hs p a
    simp only [slots, List.mem_cons, List.not_mem_nil, or_false] at hs
    rcases hs with rfl | rfl | rfl <;> rfl
  get_put_of_ne := by
    intro s t hs ht hne p a
    simp only [slots, List.mem_cons, List.not_mem_nil, or_false] at hs ht
    rcases hs with rfl | rfl | rfl <;> rcases ht with rfl | rfl | rfl <;>
      first | rfl | exact absurd rfl hne
  ext := by
    rintro ⟨c, r, n⟩ ⟨c', r', n'⟩ h
    simp only [slots, List.forall_mem_cons, List.not_mem_nil, false_implies, implies_true, and_true] at h
    obtain ⟨rfl, rfl, rfl⟩ : c = c' ∧ r = r' ∧ n = n' := h
    rfl

theorem finish_eq_ok {p : Partial} :
    codec.finish p = .ok f ↔ p = ⟨some f.columns, some f.rows, some f.elapsed⟩ := by
  constructor
  · intro h
    obtain ⟨c, hc, h⟩ := bind_eq_ok.1 h
    obtain ⟨r, hr, h⟩ := bind_eq_ok.1 h
    obtain ⟨n, hn, h⟩ := bind_eq_ok.1 h
    cases h
    obtain ⟨_, _, _⟩ := p
    obtain rfl := required_eq_ok.1 hc
    obtain rfl := required_eq_ok.1 hr
    obtain rfl := required_eq_ok.1 hn
    rfl
  · rintro rfl
    rfl

theorem frameText_braced_iff (h : Renders es body) :
    FrameText (braced body) f ↔ Once es "columns" (ListOf ColumnText) f.columns ∧
      Once es "rows" (ListOf (ListOf CellText)) f.rows ∧
      Once es "execution_time" ElapsedText f.elapsed := by
  rw [FrameText, Json.denotes_braced_iff separate_slots h, once_iff, once_iff, once_iff]
  simp only [finish_eq_ok, exists_eq_right, slots, List.forall_mem_cons, List.not_mem_nil, false_implies,
    implies_true, and_true]
  rfl

def rowJson (r : List Cell) : Json := .array (r.map Cell.taggedJson)

theorem form_columnJson (c : Column) : Json.Form (compactForm (columnJson c)) :=
  Json.form_compactObject (columnEntries c)

theorem form_rowJson (r : List Cell) : Json.Form (compactForm (rowJson r)) :=
  Json.form_written form_cellText r

def entries (f : Frame) : List Entry :=
  [⟨"columns", compactForm (.array (f.columns.map columnJson)), Json.form_written form_columnJson _⟩,
    ⟨"rows", compactForm (.array (f.rows.map rowJson)), Json.form_written form_rowJson _⟩,
    .natural "execution_time" f.elapsed]

theorem toList_toJson (f : Frame) : f.toJson.toList = compactObject f.entries := by
  rw [toJson, Json.compact, String.toList_ofList]
  rfl

theorem columns_written {cs : List Column} :
    ListOf ColumnText (compactForm (.array (f.columns.map columnJson))) cs ↔ cs = f.columns := by
  rw [Json.listOf_written_iff reads_column form_columnJson]
  simp only [columnText_columnJson, List.forall₂_eq_eq_eq]
  exact eq_comm

theorem rows_written {rs : List (List Cell)} :
    ListOf (ListOf CellText) (compactForm (.array (f.rows.map rowJson))) rs ↔
      List.Forall₂ (List.Forall₂ fun c c' ↦ CellText (cellText c) c') f.rows rs := by
  rw [Json.listOf_written_iff (Json.reads_list reads_cell) form_rowJson]
  simp only [rowJson, Json.listOf_written_iff reads_cell form_cellText]
  rfl

theorem elapsed_written {n m : Nat} : ElapsedText (Number.decimalDigits n) m ↔
    n < Number.twoTo 128 ∧ m = n % Number.twoTo 64 := by
  constructor
  · rintro ⟨_, ⟨-, rfl, hle⟩, rfl⟩
    rw [Number.decimalDigits, Number.decimalValue_toDigits] at hle ⊢
    exact ⟨Nat.lt_of_le_sub_one (by decide) hle, rfl⟩
  · rintro ⟨hlt, rfl⟩
    exact ⟨n, Json.natural_decimalDigits (Nat.le_sub_one_of_lt hlt), rfl⟩

theorem ofJson_toJson_iff : ofJson f.toJson = .ok g ↔ g.columns = f.columns ∧
    List.Forall₂ (List.Forall₂ fun c c' ↦ CellText (cellText c) c') f.rows g.rows ∧
    f.elapsed < Number.twoTo 128 ∧ g.elapsed = f.elapsed % Number.twoTo 64 := by
  have hes := Json.renders_compactObject f.entries
  have halone : Json.Alone (compactObject f.entries) f.toJson.toList :=
    ⟨[], [], by rw [toList_toJson, List.nil_append, List.append_nil], Json.gap_nil, Json.gap_nil⟩
  -- The text is one object with nothing around it, so nothing else can be read from it.
  have hframe : ofJson f.toJson = .ok g ↔ FrameText (compactObject f.entries) g := by
    rw [ofJson, Json.decode_eq_ok reads_frame]
    constructor
    · rintro ⟨w, hw, hg⟩
      exact hw.unique halone (reads_frame.form hg) hes.form ▸ hg
    · exact fun hg ↦ ⟨_, halone, hg⟩
  rw [hframe, compactObject, frameText_braced_iff hes, once_of_valuesOf rfl, once_of_valuesOf rfl,
    once_of_valuesOf rfl]
  exact and_congr columns_written (and_congr rows_written elapsed_written)

def Finite (f : Frame) : Prop := ∀ r ∈ f.rows, ∀ x, Cell.float x ∈ r → x.isFinite = true

def Timed (f : Frame) : Prop := f.elapsed < 2 ^ 64 * 10 ^ 9

/-- The columns are the same, and so are the numbers of rows and of cells in each of them; each cell
is of the same kind, and the same if that is not the kind of floats. -/
structure Kept (f g : Frame) : Prop where
  columns : g.columns = f.columns
  cells : List.Forall₂ (List.Forall₂ CellKept) f.rows g.rows

theorem exists_forall₂_iff {α β : Type} {R : α → β → Prop} {as : List α} :
    (∃ bs, List.Forall₂ R as bs) ↔ ∀ a ∈ as, ∃ b, R a b := by
  induction as with
  | nil => exact iff_of_true ⟨[], .nil⟩ nofun
  | cons a as ih =>
    rw [List.forall_mem_cons, ← ih]
    constructor
    · rintro ⟨_, _ | ⟨ha, has⟩⟩
      exact ⟨⟨_, ha⟩, _, has⟩
    · rintro ⟨⟨_, ha⟩, _, has⟩
      exact ⟨_, .cons ha has⟩

theorem exists_rows_iff : (∃ rs, List.Forall₂ (List.Forall₂ fun c c' ↦ CellText (cellText c) c') f.rows rs) ↔
    f.Finite := by
  simp only [exists_forall₂_iff, exists_cellText_iff]
  refine forall₂_congr fun r _ ↦ ⟨fun h x hx ↦ h _ hx x rfl, ?_⟩
  rintro h _ hc x rfl
  exact h x hc

/-- A frame is read back from its own text exactly if its floats are finite, and then with its
columns, its rows and cells of the same kinds. -/
theorem reads_back_iff_finite (h : f.Timed) :
    ((∃ g, ofJson f.toJson = .ok g) ↔ f.Finite) ∧ ∀ g, ofJson f.toJson = .ok g → f.Kept g := by
  constructor
  · rw [← exists_rows_iff]
    constructor
    · rintro ⟨g, hg⟩
      exact ⟨g.rows, (ofJson_toJson_iff.1 hg).2.1⟩
    · rintro ⟨rs, hrs⟩
      have htime : f.elapsed < Number.twoTo 128 := Nat.lt_of_lt_of_le h (by decide)
      exact ⟨⟨f.columns, rs, _⟩, ofJson_toJson_iff.2 ⟨rfl, hrs, htime, rfl⟩⟩
  · intro g hg
    obtain ⟨hcolumns, hrows, -⟩ := ofJson_toJson_iff.1 hg
    exact ⟨hcolumns, hrows.imp fun _ _ hr ↦ hr.imp fun _ _ ↦ cellKept_of_cellText⟩

def mixed : Frame :=
  ⟨[⟨"x", "FLOAT8"⟩, ⟨"\"", ""⟩],
    [[.float (.ofBits 1), .null, .bool false], [.int (-9223372036854775808), .text "é\n"], [],
      [.float (.ofBits 9218868437227405311), .bytes [0, 255]]], 18446744073709551616⟩

def undefined : Frame := ⟨[⟨"x", "FLOAT8"⟩], [[.float .nan]], 0⟩

theorem reads_back_iff_finite_mixed :
    mixed.Timed ∧ (∃ g, ofJson mixed.toJson = .ok g ∧ mixed.Kept g) ∧
      undefined.Timed ∧ ¬∃ g, ofJson undefined.toJson = .ok g := by
  have hmixed : mixed.Timed := by
    unfold Timed
    decide
  have hundefined : undefined.Timed := by
    unfold Timed
    decide
  have hfinite : mixed.Finite := by
    intro r hr x hx
    simp only [mixed, List.mem_cons, List.not_mem_nil, or_false] at hr
    rcases hr with rfl | rfl | rfl | rfl <;> simp at hx <;> rw [hx] <;> decide
  have hnan : ¬undefined.Finite := fun h ↦ absurd (h _ (.head _) _ (.head _)) (by decide)
  obtain ⟨hread, hkept⟩ := reads_back_iff_finite hmixed
  obtain ⟨g, hg⟩ := hread.2 hfinite
  exact ⟨hmixed, ⟨g, hg, hkept g hg⟩, hundefined, fun h ↦ hnan ((reads_back_iff_finite hundefined).1.1 h)⟩

end ScriptEnv.Frame
