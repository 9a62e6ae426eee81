import ScriptEnv.Proofs.Frame.Stored

namespace ScriptEnv.Frame

open Json (Alone InOrder Items ListOf Natural ObjectOf Once Whole braced listed)
open Number (decimalValue)

variable {text : String} {f g : Frame} {cs cs' : List Column} {rs rs' : List (List Cell)} {n n' : Nat}
  {w : List Char}

structure Counts (w : List Char) (n : Nat) : Prop where
  whole : Whole w
  value : decimalValue w = n

/-- What a text says of a frame: as an object with columns, rows and a time by name, or as a list of
the three. -/
inductive Written (text : String) (cs : List Column) (rs : List (List Cell)) (n : Nat) : Prop
  | object {es : List Json.Entry} : ObjectOf es text.toList →
    Once es "columns" (ListOf ColumnText) cs → Once es "rows" (ListOf (ListOf CellText)) rs →
    Once es "execution_time" Counts n → Written text cs rs n
  | list {u v w body : List Char} : Items [u, v, w] body → Alone (listed body) text.toList →
    ListOf ColumnText u cs → ListOf (ListOf CellText) v rs → Counts w n → Written text cs rs n

theorem elapsedText_iff : ElapsedText w n ↔ ∃ m, Counts w m ∧ m < 2 ^ 128 ∧ n = m % 2 ^ 64 := by
  have hbound : ∀ m, m ≤ Number.twoTo 128 - 1 ↔ m < 2 ^ 128 := fun m ↦
    Nat.le_sub_one_iff_lt (by decide)
  constructor
  · rintro ⟨m, ⟨hw, hm, hle⟩, hn⟩
    exact ⟨m, ⟨hw, hm⟩, (hbound m).1 hle, hn⟩
  · rintro ⟨m, ⟨hw, hm⟩, hlt, hn⟩
    exact ⟨m, ⟨hw, hm, (hbound m).2 hlt⟩, hn⟩

theorem written_of_frameText (halone : Alone w text.toList) (h : FrameText w f) :
    ∃ n, Written text f.columns f.rows n ∧ n < 2 ^ 128 ∧ f.elapsed = n % 2 ^ 64 := by
  cases h with
  | list hitems horder hfinish =>
    obtain ⟨u, ws, _, rfl, ⟨columns, hu, rfl⟩, horder⟩ := horder.exists_cons rfl
    obtain ⟨v, ws, _, rfl, ⟨rows, hv, rfl⟩, horder⟩ := horder.exists_cons rfl
    obtain ⟨w, ws, _, rfl, ⟨elapsed, hw, rfl⟩, horder⟩ := horder.exists_cons rfl
    cases horder
    cases finish_eq_ok.1 hfinish
    obtain ⟨n, hw, hlt, hn⟩ := elapsedText_iff.1 hw
    exact ⟨n, .list hitems halone hu hv hw, hlt, hn⟩
  | object hitems hgathers hfinish =>
    obtain ⟨es, hes⟩ := hgathers.exists_entries
    have hframe := (frameText_braced_iff ⟨_, hitems, hes⟩).1 (.object hitems hgathers hfinish)
    obtain ⟨hcolumns, hrows, w, hvalues, hw⟩ := hframe
    obtain ⟨n, hw, hlt, hn⟩ := elapsedText_iff.1 hw
    exact ⟨n, .object ⟨_, ⟨_, hitems, hes⟩, halone⟩ hcolumns hrows ⟨w, hvalues, hw⟩, hlt, hn⟩

theorem Written.exists_frameText (h : Written text cs rs n) (hn : n < 2 ^ 128) :
    ∃ w, Alone w text.toList ∧ FrameText w ⟨cs, rs, n % 2 ^ 64⟩ := by
  cases h with
  | object hes hcolumns hrows htime =>
    obtain ⟨body, hrenders, halone⟩ := hes
    obtain ⟨w, hvalues, hw⟩ := htime
    refine ⟨_, halone, (frameText_braced_iff hrenders).2 ⟨hcolumns, hrows, w, hvalues, ?_⟩⟩
    exact elapsedText_iff.2 ⟨n, hw, hn, rfl⟩
  | list hitems halone hu hv hw =>
    have htime := elapsedText_iff.2 ⟨n, hw, hn, rfl⟩
    have horder : InOrder (slots.map Json.Slot.spec) codec.start _ ⟨some cs, some rs, some (n % 2 ^ 64)⟩ :=
      .item ⟨_, hu, rfl⟩ <| .item ⟨_, hv, rfl⟩ <| .item ⟨_, htime, rfl⟩ <| .stop (by simp)
    exact ⟨_, halone, .list hitems horder rfl⟩

theorem ofJson_eq_ok_iff : ofJson text = .ok f ↔
    ∃ n, Written text f.columns f.rows n ∧ n < 2 ^ 128 ∧ f.elapsed = n % 2 ^ 64 := by
  rw [ofJson, Json.decode_eq_ok reads_frame]
  constructor
  · rintro ⟨w, halone, hf⟩
    exact written_of_frameText halone hf
  · rintro ⟨n, h, hlt, helapsed⟩
    obtain ⟨w, halone, hw⟩ := h.exists_frameText hlt
    refine ⟨w, halone, ?_⟩
    rwa [← helapsed] at hw

theorem Written.unique (h : Written text cs rs n) (h' : Written text cs' rs' n') : n = n' := by
  cases h with
  | object hes _ _ htime =>
    obtain ⟨body, hrenders, halone⟩ := hes
    cases h' with
    | object hes' _ _ htime' =>
      obtain ⟨body', hrenders', halone'⟩ := hes'
      obtain rfl := Json.braced_inj (halone.unique halone' hrenders.form hrenders'.form)
      obtain rfl := hrenders.unique hrenders'
      obtain ⟨w, hw, -, hn⟩ := htime
      obtain ⟨w', hw', -, hn'⟩ := htime'
      obtain rfl := List.singleton_inj.1 (hw.symm.trans hw')
      exact hn.symm.trans hn'
    | list _ halone' _ _ _ => exact absurd (halone.head_eq halone' (by decide) (by decide)) (by decide)
  | list hitems halone hu hv hw =>
    have hforms : ∀ {u v w : List Char} {cs rs n}, ListOf ColumnText u cs →
        ListOf (ListOf CellText) v rs → Counts w n → ∀ t ∈ [u, v, w], Json.Form t := by
      intro u v w cs rs n hu hv hw
      simp [reads_columns.form hu, reads_rows.form hv, hw.whole.form]
    cases h' with
    | object hes' _ _ _ =>
      obtain ⟨_, -, halone'⟩ := hes'
      exact absurd (halone.head_eq halone' (by decide) (by decide)) (by decide)
    | list hitems' halone' hu' hv' hw' =>
      have hall := hforms hu hv hw
      have hall' := hforms hu' hv' hw'
      obtain rfl := Json.listed_inj
        (halone.unique halone' (.list hitems hall) (.list hitems' hall'))
      have hitem := hitems.unique Json.tokens_form hitems' hall hall'
      simp only [List.cons.injEq, and_true] at hitem
      obtain ⟨-, -, rfl⟩ := hitem
      exact hw.value.symm.trans hw'.value

theorem Written.ofJson_eq_ok_iff (h : Written text cs rs n) :
    (∃ f, ofJson text = .ok f) ↔ n < 2 ^ 128 := by
  constructor
  · rintro ⟨f, hf⟩
    obtain ⟨m, hm, hlt, -⟩ := Frame.ofJson_eq_ok_iff.1 hf
    rwa [h.unique hm]
  · intro hlt
    exact ⟨⟨cs, rs, n % 2 ^ 64⟩, Frame.ofJson_eq_ok_iff.2 ⟨n, h, hlt, rfl⟩⟩

theorem Written.elapsed_eq (h : Written text cs rs n) (hf : ofJson text = .ok f) :
    f.elapsed = n % 2 ^ 64 := by
  obtain ⟨m, hm, -, helapsed⟩ := Frame.ofJson_eq_ok_iff.1 hf
  rw [helapsed, h.unique hm]

theorem mod_eq_self_iff_lt (n : Nat) : n % 2 ^ 64 = n ↔ n < 2 ^ 64 := by omega

theorem objectOf_toJson (f : Frame) : ObjectOf f.entries f.toJson.toList := by
  refine ⟨_, Json.renders_compactObject f.entries, [], [], ?_, Json.gap_nil, Json.gap_nil⟩
  rw [toList_toJson, List.nil_append, List.append_nil]
  rfl

theorem counts_decimalDigits (n : Nat) : Counts (Number.decimalDigits n) n :=
  ⟨Json.whole_decimalDigits n, Number.decimalValue_toDigits n⟩

theorem written_toJson (h : List.Forall₂ (List.Forall₂ fun c c' ↦ CellText (cellText c) c') f.rows rs) :
    Written f.toJson f.columns rs f.elapsed := by
  refine .object (objectOf_toJson f) ?_ ?_ ?_
  · exact (Json.once_of_valuesOf rfl).2 (columns_written.2 rfl)
  · exact (Json.once_of_valuesOf rfl).2 (rows_written.2 h)
  · exact (Json.once_of_valuesOf rfl).2 (counts_decimalDigits f.elapsed)

/-- Every accepted text has a number of nanoseconds below `2 ^ 128` for the time of its frame. That
number is kept exactly if it is below `2 ^ 64`; of any other the multiples of `2 ^ 64` are lost. So of
the times that a frame can have, those survive being written and read that fit into 64 bits. -/
theorem elapsed_kept_iff (text : String) (f : Frame) :
    (ofJson text = .ok f → ∃ n, Written text f.columns f.rows n) ∧
    (∀ cs rs n, Written text cs rs n → ((∃ g, ofJson text = .ok g) ↔ n < 2 ^ 128) ∧
      ∀ g, ofJson text = .ok g → g.elapsed = n % 2 ^ 64 ∧ (g.elapsed = n ↔ n < 2 ^ 64)) ∧
    (f.Timed → f.Finite → ∃ g, ofJson f.toJson = .ok g ∧
      (g.elapsed = f.elapsed ↔ f.elapsed < 2 ^ 64)) := by
  refine ⟨?_, ?_, ?_⟩
  · intro hf
    obtain ⟨n, hn, -⟩ := ofJson_eq_ok_iff.1 hf
    exact ⟨n, hn⟩
  · intro cs rs n hn
    refine ⟨hn.ofJson_eq_ok_iff, fun g hg ↦ ?_⟩
    have helapsed := hn.elapsed_eq hg
    exact ⟨helapsed, helapsed ▸ mod_eq_self_iff_lt n⟩
  · intro htimed hfinite
    obtain ⟨rs, hrs⟩ := exists_rows_iff.2 hfinite
    have hwritten := written_toJson hrs
    have hlt : f.elapsed < 2 ^ 128 := Nat.lt_trans htimed (by decide)
    obtain ⟨g, hg⟩ := hwritten.ofJson_eq_ok_iff.2 hlt
    have helapsed := hwritten.elapsed_eq hg
    exact ⟨g, hg, helapsed ▸ mod_eq_self_iff_lt f.elapsed⟩

def centuries : Frame := ⟨[], [], 18446744073709551616⟩

theorem elapsed_kept_iff_centuries :
    centuries.Timed ∧ centuries.Finite ∧ Written centuries.toJson [] [] 18446744073709551616 ∧
      ∃ g, ofJson centuries.toJson = .ok g ∧ g.elapsed = 0 := by
  have htimed : centuries.Timed := by
    unfold Timed
    decide
  have hfinite : centuries.Finite := by simp [Finite, centuries]
  have hwritten : Written centuries.toJson [] [] 18446744073709551616 := written_toJson .nil
  obtain ⟨-, hread, hback⟩ := elapsed_kept_iff centuries.toJson centuries
  obtain ⟨g, hg, -⟩ := hback htimed hfinite
  obtain ⟨-, helapsed⟩ := hread _ _ _ hwritten
  exact ⟨htimed, hfinite, hwritten, g, hg, (helapsed g hg).1⟩

end ScriptEnv.Frame
