import ScriptEnv.Engine.Statement
import ScriptEnv.Proofs.Wire.Moments

namespace ScriptEnv

namespace Wire

variable {columns : List Column} {rows : List (List (Option Bytes))} {cells : List (List Cell)}

section Reading

variable {α β : Type} {f : α → Option β} {l : List α} {l' : List β}

theorem mapM_eq_some_iff : l.mapM f = some l' ↔ l.map f = l'.map some := by
  induction l generalizing l' with
  | nil => cases l' <;> simp
  | cons a l ih =>
    rw [List.mapM_cons]
    cases hfirst : f a with
    | none => cases l' <;> simp [hfirst]
    | some b =>
      cases hrest : l.mapM f with
      | none => cases l' <;> simp [hfirst, ← ih, hrest]
      | some r => cases l' <;> simp [hfirst, ← ih, hrest]

theorem mapM_eq_none_iff : l.mapM f = none ↔ ∃ a ∈ l, f a = none := by
  induction l with
  | nil => simp
  | cons a l ih =>
    rw [List.mapM_cons]
    cases hfirst : f a with
    | none => simp [hfirst]
    | some b => cases hrest : l.mapM f <;> simp [hfirst, ← ih, hrest]

theorem getElem?_of_mapM {i : Nat} {a : α} (h : l.mapM f = some l') (ha : l[i]? = some a) :
    ∃ b, l'[i]? = some b ∧ f a = some b := by
  have hi := congrArg (·[i]?) (mapM_eq_some_iff.1 h)
  simp only [List.getElem?_map, ha, Option.map_some] at hi
  obtain ⟨b, hb, hab⟩ := Option.map_eq_some_iff.1 hi.symm
  exact ⟨b, hb, hab.symm⟩

end Reading

/-- A cell that holds a moment, under a column of its type. -/
def Sends (m : Moment) (cell : Column × Option Bytes) : Prop :=
  cell.1.type = m.type ∧ cell.2 = some m.bytes

def Undated (cell : Column × Option Bytes) : Prop := ∃ m, Sends m cell ∧ ¬m.Dated

/-- Bytes that are no moment and that the reading of their type does not survive. -/
def Unreadable (cell : Column × Option Bytes) : Prop :=
  (¬∃ m, Sends m cell) ∧ cell? cell.1.type cell.2 = none

variable {cell : Column × Option Bytes} {m : Moment}

theorem cell?_of_sends (h : Sends m cell) : cell? cell.1.type cell.2 = m.text?.map .text := by
  rw [h.1, h.2, m.cell?_bytes]

theorem cell?_eq_none_iff : cell? cell.1.type cell.2 = none ↔ Undated cell ∨ Unreadable cell := by
  constructor
  · intro h
    by_cases hsends : ∃ m, Sends m cell
    · obtain ⟨m, hm⟩ := hsends
      refine .inl ⟨m, hm, ?_⟩
      rw [cell?_of_sends hm, Option.map_eq_none_iff] at h
      rw [← Moment.text?_isSome_iff, h]
      decide
    · exact .inr ⟨hsends, h⟩
  · rintro (⟨m, hm, hdated⟩ | h)
    · rw [← Moment.text?_isSome_iff, Option.not_isSome_iff_eq_none] at hdated
      rw [cell?_of_sends hm, hdated]
      rfl
    · exact h.2

theorem rows?_eq_none_iff : rows? columns rows = none ↔
    ∃ row ∈ rows, ∃ cell ∈ columns.zip row, Undated cell ∨ Unreadable cell := by
  simp only [rows?, row?, mapM_eq_none_iff, cell?_eq_none_iff]

theorem getElem?_of_rows? (h : rows? columns rows = some cells) {r i : Nat}
    {row : List (Option Bytes)} (hrow : rows[r]? = some row)
    (hcell : (columns.zip row)[i]? = some cell) :
    ∃ v, cells[r]?.bind (·[i]?) = some v ∧ cell? cell.1.type cell.2 = some v := by
  obtain ⟨shown, hshown, hread⟩ := getElem?_of_mapM h hrow
  obtain ⟨v, hv, hcell?⟩ := getElem?_of_mapM hread hcell
  rw [hshown, Option.bind_some]
  exact ⟨v, hv, hcell?⟩

end Wire

namespace Connection

def query (c : Connection) (peer : Peer) (sql : String) : Except (Halt Failure) Frame :=
  c.queried (c.outcome peer sql)

variable {c : Connection} {peer : Peer} {sql tag : String} {columns : List Column}
  {rows : List (List (Option Wire.Bytes))}

theorem queried_eq_panic_iff {o : Outcome} : c.queried o = .error .panic ↔
    ∃ columns rows tag, o = .rows columns rows tag ∧ Wire.rows? columns rows = none := by
  cases o with
  | rows columns rows tag =>
    simp only [queried, Outcome.rows.injEq]
    cases hrows : Wire.rows? columns rows <;> simp [hrows]
  | _ => simp [queried]

theorem queried_rows {cells : List (List Cell)} (h : Wire.rows? columns rows = some cells) :
    c.queried (.rows columns rows tag) = .ok ⟨columns, cells, 0⟩ := by
  simp only [queried, h]

/-- A query breaks down exactly if a moment without a date is among the rows, or other bytes that cannot
be read. Where it does not, every moment comes back as its text, in its place. -/
theorem query_breaks_iff (c : Connection) (peer : Peer) (sql : String) :
    (c.query peer sql = .error .panic ↔ ∃ columns rows tag,
      c.outcome peer sql = .rows columns rows tag ∧
        ∃ row ∈ rows, ∃ cell ∈ columns.zip row, Wire.Undated cell ∨ Wire.Unreadable cell) ∧
    ∀ columns rows tag, c.outcome peer sql = .rows columns rows tag →
      c.query peer sql ≠ .error .panic →
        ∃ f, c.query peer sql = .ok f ∧ f.columns = columns ∧
          ∀ (r i : Nat) row cell m, rows[r]? = some row → (columns.zip row)[i]? = some cell →
            Wire.Sends m cell →
              ∃ t, m.text? = some t ∧ f.rows[r]?.bind (·[i]?) = some (.text t) := by
  have hpanic : c.query peer sql = .error .panic ↔ ∃ columns rows tag,
      c.outcome peer sql = .rows columns rows tag ∧ Wire.rows? columns rows = none :=
    queried_eq_panic_iff
  refine ⟨?_, ?_⟩
  · simp only [hpanic, Wire.rows?_eq_none_iff]
  · intro columns rows tag hsent hwhole
    cases hrows : Wire.rows? columns rows with
    | none => exact absurd (hpanic.2 ⟨columns, rows, tag, hsent, hrows⟩) hwhole
    | some cells =>
      have hframe : c.query peer sql = .ok ⟨columns, cells, 0⟩ := by
        rw [query, hsent]
        exact queried_rows hrows
      refine ⟨_, hframe, rfl, ?_⟩
      intro r i row cell m hrow hcell hsends
      obtain ⟨v, hshown, hread⟩ := Wire.getElem?_of_rows? hrows hrow hcell
      rw [Wire.cell?_of_sends hsends] at hread
      obtain ⟨t, ht, rfl⟩ := Option.map_eq_some_iff.1 hread
      exact ⟨t, ht, hshown⟩

def calendarServer : Peer :=
  .server ⟨[], [
    ("SELECT 'infinity'::date",
      .rows [⟨"date", "DATE"⟩] [[some [0x7F, 0xFF, 0xFF, 0xFF]]] "SELECT 1"),
    ("SELECT '2000-01-01Z'::timestamptz",
      .rows [⟨"timestamptz", "TIMESTAMPTZ"⟩] [[some (List.replicate 8 0)]] "SELECT 1")]⟩

theorem query_breaks_iff_infinity :
    Connection.query ⟨30, true⟩ calendarServer "SELECT 'infinity'::date" = .error .panic ∧
      ∃ f, Connection.query ⟨30, true⟩ calendarServer "SELECT '2000-01-01Z'::timestamptz" = .ok f ∧
        f.rows[0]?.bind (·[0]?) = some (.text "2000-01-01T00:00:00+00:00") := by
  constructor
  · apply (query_breaks_iff ⟨30, true⟩ calendarServer "SELECT 'infinity'::date").1.2
    refine ⟨_, _, _, rfl, _, List.mem_cons_self, _, List.mem_cons_self, .inl ?_⟩
    refine ⟨.date 0x7FFFFFFF, ⟨rfl, by decide⟩, ?_⟩
    unfold Wire.Moment.Dated
    decide
  · have hread : Wire.rows? [⟨"timestamptz", "TIMESTAMPTZ"⟩] [[some (List.replicate 8 0)]] =
        some [[.text "2000-01-01T00:00:00+00:00"]] := by decide
    have hwhole : Connection.query ⟨30, true⟩ calendarServer "SELECT '2000-01-01Z'::timestamptz" ≠
        .error .panic := by
      change Connection.queried _ (.rows _ _ _) ≠ _
      rw [queried_rows hread]
      nofun
    obtain ⟨f, hf, -, hshown⟩ := (query_breaks_iff ⟨30, true⟩ calendarServer
      "SELECT '2000-01-01Z'::timestamptz").2 _ _ _ rfl hwhole
    obtain ⟨t, ht, hcell⟩ := hshown 0 0 _ _ (.timestampZone 0) rfl rfl ⟨rfl, by decide⟩
    have htext : Wire.Moment.text? (.timestampZone 0) = some "2000-01-01T00:00:00+00:00" := by decide
    rw [htext] at ht
    cases ht
    exact ⟨f, hf, hcell⟩

end Connection

end ScriptEnv
