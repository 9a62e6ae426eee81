import Mathlib.Algebra.GroupWithZero.Nat
import Mathlib.Data.List.Forall2
import ScriptEnv.Frame.Table
import ScriptEnv.Number.Numeral

namespace ScriptEnv.Frame

open Text (join trimEnd)

variable {sep : List Char} {ps texts : List (List Char)} {ws : List Nat} {t : List Char}
  {f : Frame} {i w : Nat}

def offset (ws : List Nat) (i : Nat) : Nat := ((ws.take i).map (· + 3)).sum

theorem offset_cons_succ (w : Nat) (ws : List Nat) (i : Nat) :
    offset (w :: ws) (i + 1) = w + 3 + offset ws i := by
  simp [offset]

theorem offset_succ (h : ws[i]? = some w) : offset ws (i + 1) = offset ws i + w + 3 := by
  simp [offset, List.take_add_one, h, Nat.add_assoc]

theorem drop_join (hsep : sep.length = 3) (h : i < ps.length) :
    (join sep ps).drop (offset (ps.map List.length) i) = join sep (ps.drop i) := by
  induction i generalizing ps with
  | zero => simp [offset]
  | succ i ih =>
    cases ps with
    | nil => simp at h
    | cons p ps =>
      cases ps with
      | nil => simp at h
      | cons q ps =>
        have hrest : (join sep (q :: ps)).drop _ = _ := ih (by simpa using h)
        have hlength : p.length + 3 = (p ++ sep).length := by rw [List.length_append, hsep]
        rw [List.map_cons, offset_cons_succ, Text.join_cons_cons, hlength, List.drop_length_add_append,
          hrest, List.drop_succ_cons]

theorem drop_join_of_succ_lt {a m b : Char} (h : i + 1 < ps.length) :
    ∃ p rest, ps[i]? = some p ∧
      (join [a, m, b] ps).drop (offset (ps.map List.length) i) = (p ++ [a]) ++ m :: b :: rest := by
  have hi : i < ps.length := by omega
  refine ⟨ps[i], join [a, m, b] (ps.drop (i + 1)), List.getElem?_eq_getElem hi, ?_⟩
  rw [drop_join rfl hi, List.drop_eq_getElem_cons hi, List.drop_eq_getElem_cons h, Text.join_cons_cons,
    List.append_assoc, List.append_assoc]
  rfl

theorem length_join (hsep : sep.length = 3) (ps : List (List Char)) :
    (join sep ps).length = offset (ps.map List.length) ps.length - 3 := by
  induction ps with
  | nil => rfl
  | cons p ps ih =>
    cases ps with
    | nil => simp [join, offset]
    | cons q ps =>
      have hmore : 3 ≤ offset ((q :: ps).map List.length) (q :: ps).length := by
        rw [List.map_cons, List.length_cons, offset_cons_succ]
        omega
      have hend : offset ((p :: q :: ps).map List.length) (p :: q :: ps).length =
          p.length + 3 + offset ((q :: ps).map List.length) (q :: ps).length :=
        offset_cons_succ ..
      rw [Text.join_cons_cons, List.length_append, List.length_append, hsep, ih, hend]
      omega

theorem getElem?_of_drop {s u v : List Char} {c : Char} {k : Nat} (h : s.drop k = u ++ c :: v) :
    s[k + u.length]? = some c := by
  rw [← List.getElem?_drop, h]
  simp

/-- A line with a text in each column. A text begins where its column does and is filled up with
spaces; the last lacks the blanks at its end. There is a bar between two columns, and the line is no
longer than a rule. -/
structure Aligned (ws : List Nat) (texts : List (List Char)) (l : List Char) : Prop where
  bar : ∀ i, 1 ≤ i → i < ws.length → l[offset ws i - 2]? = some '|'
  filled : ∀ i t w, i + 1 < ws.length → texts[i]? = some t → ws[i]? = some w →
    (l.drop (offset ws i)).take w = t ++ List.replicate (w - t.length) ' '
  last : ∀ i t, i + 1 = ws.length → texts[i]? = some t → l.drop (offset ws i) = trimEnd t
  length_le : l.length ≤ (rule ws).length

abbrev Fits (texts : List (List Char)) (ws : List Nat) : Prop :=
  List.Forall₂ (fun t w ↦ t.length ≤ w) texts ws

def padded (texts : List (List Char)) (ws : List Nat) : List (List Char) :=
  (texts.zip ws).map fun (t, n) ↦ padRight n t

theorem line_eq (ws : List Nat) (texts : List (List Char)) :
    line ws texts = trimEnd (join [' ', '|', ' '] (padded texts ws)) := rfl

theorem length_padRight (h : t.length ≤ w) : (padRight w t).length = w := by
  simp [padRight, h]

theorem trimEnd_padRight (w : Nat) (t : List Char) : trimEnd (padRight w t) = trimEnd t := by
  apply Text.trimEnd_append_blanks
  intro c hc
  rw [List.eq_of_mem_replicate hc]
  rfl

theorem Fits.map_length_padded (h : Fits texts ws) : (padded texts ws).map List.length = ws := by
  induction h with
  | nil => rfl
  | cons hle _ ih => simpa [padded, length_padRight hle] using ih

theorem map_length_dashes (ws : List Nat) :
    (ws.map fun n ↦ List.replicate n '-').map List.length = ws := by
  simp [Function.comp_def]

theorem getElem?_padded (ht : texts[i]? = some t) (hw : ws[i]? = some w) :
    (padded texts ws)[i]? = some (padRight w t) := by
  have hpair : (texts.zip ws)[i]? = some (t, w) := List.getElem?_zip_eq_some.2 ⟨ht, hw⟩
  rw [padded, List.getElem?_map, hpair]
  rfl

section

variable (h : Fits texts ws)

include h

theorem Fits.length_padded : (padded texts ws).length = ws.length := by
  rw [← List.length_map, h.map_length_padded]

/-- A column before the last and the bar after it are left alone, for the bar is no blank. -/
theorem Fits.drop_line (ht : texts[i]? = some t) (hw : ws[i]? = some w) (hi : i + 1 < ws.length) :
    ∃ rest, (line ws texts).drop (offset ws i) = (padRight w t ++ [' ']) ++ '|' :: rest := by
  have hlt : i + 1 < (padded texts ws).length := by rwa [h.length_padded]
  obtain ⟨p, rest, hp, hdrop⟩ := drop_join_of_succ_lt (a := ' ') (m := '|') (b := ' ') hlt
  obtain rfl := Option.some.inj ((getElem?_padded ht hw).symm.trans hp)
  rw [h.map_length_padded] at hdrop
  refine ⟨trimEnd (' ' :: rest), ?_⟩
  rw [line_eq, ← Text.trimEnd_drop, hdrop, Text.trimEnd_append_cons (by decide)]

theorem Fits.drop_line_last (ht : texts[i]? = some t) (hi : i + 1 = ws.length) :
    (line ws texts).drop (offset ws i) = trimEnd t := by
  have hlt : i < (padded texts ws).length := by rw [h.length_padded]; omega
  obtain ⟨w, hw⟩ : ∃ w, ws[i]? = some w := ⟨_, List.getElem?_eq_getElem (by omega)⟩
  have hdrop : (join [' ', '|', ' '] (padded texts ws)).drop _ = _ := drop_join rfl hlt
  rw [h.map_length_padded] at hdrop
  have hone : (padded texts ws).drop i = [padRight w t] := by
    rw [List.drop_eq_getElem?_toList_append, getElem?_padded ht hw, List.drop_eq_nil_of_le]
    · rfl
    · rw [h.length_padded]; omega
  rw [line_eq, ← Text.trimEnd_drop, hdrop, hone]
  exact trimEnd_padRight w t

theorem Fits.length_line_le : (line ws texts).length ≤ (rule ws).length := by
  have hjoin : (join [' ', '|', ' '] (padded texts ws)).length = (rule ws).length := by
    rw [rule, length_join rfl, length_join rfl, h.map_length_padded, map_length_dashes,
      h.length_padded, List.length_map]
  obtain ⟨u, hu, -⟩ := Text.exists_append_trimEnd (join [' ', '|', ' '] (padded texts ws))
  rw [← hjoin, hu, line_eq, List.length_append]
  exact Nat.le_add_right _ _

theorem Fits.length_le (ht : texts[i]? = some t) (hw : ws[i]? = some w) : t.length ≤ w := by
  obtain ⟨hi, rfl⟩ := List.getElem?_eq_some_iff.1 ht
  obtain ⟨hi', rfl⟩ := List.getElem?_eq_some_iff.1 hw
  exact (List.forall₂_iff_get.1 h).2 i hi hi'

theorem Fits.aligned : Aligned ws texts (line ws texts) where
  bar := by
    intro i hi hlt
    obtain ⟨j, rfl⟩ := Nat.exists_eq_add_of_le' hi
    have hw : ws[j]? = some ws[j] := List.getElem?_eq_getElem (by omega)
    have ht : texts[j]? = some _ := List.getElem?_eq_getElem (by have := h.length_eq; omega)
    obtain ⟨rest, hdrop⟩ := h.drop_line ht hw hlt
    have hbar := getElem?_of_drop hdrop
    rw [List.length_append, length_padRight (h.length_le ht hw), List.length_singleton] at hbar
    rw [offset_succ hw]
    exact hbar
  filled := by
    intro i t w hi ht hw
    obtain ⟨rest, hdrop⟩ := h.drop_line ht hw hi
    rw [hdrop, List.append_assoc, List.take_left' (length_padRight (h.length_le ht hw))]
    rfl
  last := fun i t hi ht ↦ h.drop_line_last ht hi
  length_le := h.length_line_le

end

def columnTexts (f : Frame) (i : Nat) : List (List Char) :=
  (f.columnNames[i]?.map String.toList).toList ++ f.texts.filterMap (·[i]?)

def IsWidth (f : Frame) (i w : Nat) : Prop := ((f.columnTexts i).map List.length).max? = some w

theorem IsWidth.length_le (h : f.IsWidth i w) (ht : t ∈ f.columnTexts i) : t.length ≤ w :=
  (List.max?_eq_some_iff.1 h).2 _ (List.mem_map_of_mem ht)

theorem length_widths (f : Frame) : f.widths.length = f.numColumns := List.length_mapIdx

theorem isWidth_of_widths (h : f.widths[i]? = some w) : f.IsWidth i w := by
  rw [widths, List.getElem?_mapIdx, Option.map_eq_some_iff] at h
  obtain ⟨c, hc, rfl⟩ := h
  have hname : f.columnNames[i]? = some c.name := by rw [columnNames, List.getElem?_map, hc]; rfl
  rw [IsWidth, columnTexts, hname]
  exact List.max?_cons'

theorem fits_of_mem (hlength : texts.length = f.numColumns)
    (hmem : ∀ i t, texts[i]? = some t → t ∈ f.columnTexts i) : Fits texts f.widths := by
  refine List.forall₂_iff_get.2 ⟨hlength.trans f.length_widths.symm, fun i hi hi' ↦ ?_⟩
  have hw : f.IsWidth i f.widths[i] := isWidth_of_widths (List.getElem?_eq_getElem hi')
  exact hw.length_le (hmem i texts[i] (List.getElem?_eq_getElem hi))

theorem fits_names (f : Frame) : Fits (f.columnNames.map String.toList) f.widths := by
  refine fits_of_mem (by simp [columnNames, numColumns]) fun i t ht ↦ List.mem_append_left _ ?_
  rw [← List.getElem?_map, ht]
  exact List.mem_singleton_self t

theorem Rectangular.fits (h : f.Rectangular) (ht : texts ∈ f.texts) : Fits texts f.widths := by
  refine fits_of_mem ?_ fun i t hi ↦ List.mem_append_right _ (List.mem_filterMap.2 ⟨texts, ht, hi⟩)
  obtain ⟨row, hrow, rfl⟩ := List.mem_map.1 ht
  rw [List.length_map, h row hrow, numColumns]

theorem newline_notMem_padRight (h : '\n' ∉ t) : '\n' ∉ padRight w t := by
  rw [padRight, List.mem_append]
  rintro (ht | hspace)
  · exact h ht
  · exact absurd (List.eq_of_mem_replicate hspace) (by decide)

theorem newline_notMem_line (h : ∀ t ∈ texts, '\n' ∉ t) : '\n' ∉ line ws texts := by
  have hjoin : '\n' ∉ join [' ', '|', ' '] (padded texts ws) := by
    refine Text.notMem_join (by decide) fun p hp ↦ ?_
    obtain ⟨⟨t, w⟩, hpair, rfl⟩ := List.mem_map.1 hp
    exact newline_notMem_padRight (h t (List.of_mem_zip hpair).1)
  obtain ⟨u, hu, -⟩ := Text.exists_append_trimEnd (join [' ', '|', ' '] (padded texts ws))
  exact fun hline ↦ hjoin (hu ▸ List.mem_append_left u hline)

theorem newline_notMem_rule (ws : List Nat) : '\n' ∉ rule ws := by
  refine Text.notMem_join (by decide) fun p hp ↦ ?_
  obtain ⟨n, -, rfl⟩ := List.mem_map.1 hp
  exact fun hmem ↦ absurd (List.eq_of_mem_replicate hmem) (by decide)

theorem newline_notMem_countLine (n : Nat) : '\n' ∉ countLine n := by
  have hopen : '\n' ∉ (toString "(").toList := by decide
  have hdigits : '\n' ∉ Nat.toDigits 10 n := fun hmem ↦
    absurd (Number.isDigit_of_mem_toDigits hmem) (by decide)
  have hnoun : '\n' ∉ (toString " row").toList := by decide
  have hending : '\n' ∉ (if n = 1 then "" else "s").toList := by split <;> decide
  simp [countLine, hopen, hdigits, hnoun, hending]

theorem getElem?_rule (hi : 1 ≤ i) (hlt : i < ws.length) :
    (rule ws)[offset ws i - 2]? = some '+' := by
  obtain ⟨j, rfl⟩ := Nat.exists_eq_add_of_le' hi
  have hj : ws[j]? = some ws[j] := List.getElem?_eq_getElem (by omega)
  have hlt' : j + 1 < (ws.map fun n ↦ List.replicate n '-').length := by rwa [List.length_map]
  obtain ⟨p, rest, hp, hdrop⟩ := drop_join_of_succ_lt (a := '-') (m := '+') (b := '-') hlt'
  obtain rfl : List.replicate ws[j] '-' = p := by
    rw [List.getElem?_map, hj] at hp
    exact Option.some.inj hp
  rw [map_length_dashes] at hdrop
  have hplus := getElem?_of_drop hdrop
  rw [List.length_append, List.length_replicate, List.length_singleton] at hplus
  rw [offset_succ hj]
  exact hplus

theorem splitOn_table (hnames : ∀ c ∈ f.columns, '\n' ∉ c.name.toList)
    (hcells : ∀ row ∈ f.rows, ∀ c ∈ row, '\n' ∉ c.display.toList) :
    Text.splitOn '\n' f.table.toList =
      line f.widths (f.columnNames.map String.toList) :: rule f.widths ::
        f.texts.map (line f.widths) ++ [countLine f.numRows] := by
  have hheader : ∀ t ∈ f.columnNames.map String.toList, '\n' ∉ t := by
    simpa [columnNames] using hnames
  have htexts : ∀ texts ∈ f.texts, ∀ t ∈ texts, '\n' ∉ t := by
    simpa [texts] using hcells
  have hlines : f.tableLines = line f.widths (f.columnNames.map String.toList) :: rule f.widths ::
      f.texts.map (line f.widths) := by
    simp [tableLines, columnNames, Function.comp_def]
  rw [table, String.toList_ofList, Text.splitOn_flatMap _ (newline_notMem_countLine _), hlines]
  rw [hlines, List.forall_mem_cons, List.forall_mem_cons, List.forall_mem_map]
  exact ⟨newline_notMem_line hheader, newline_notMem_rule _,
    fun texts ht ↦ newline_notMem_line (htexts texts ht)⟩

def sizes : Frame :=
  ⟨[⟨"größe", "TEXT"⟩, ⟨"n", "TEXT"⟩, ⟨"note", "TEXT"⟩],
    [[.text "x ", .int 12, .text "ok  "], [.null, .text "  ", .text " "]], 0⟩

end ScriptEnv.Frame
