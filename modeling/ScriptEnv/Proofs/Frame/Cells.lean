import ScriptEnv.Frame.Codec
import ScriptEnv.Proofs.Json.Entries
import ScriptEnv.Proofs.Json.Floats
import ScriptEnv.Proofs.Json.Lists

namespace ScriptEnv.Frame

open Json (Entry Gap Integer ListOf Member Natural Reads Renders Signed Spells braced exists_gap
  skipSpace_append_cons)
open Number (Binary64)

variable {s r w : List Char} {k : Kind} {c : Cell}

def kindNamed? (name : String) : Option Kind := (kinds.find? (·.1 = name)).map Prod.snd

def kindOf : Cell → Kind
  | .null => .null
  | .bool _ => .bool
  | .int _ => .int
  | .float _ => .float
  | .text _ => .text
  | .bytes _ => .bytes

theorem readKind_sound (h : readKind s = .ok (k, r)) :
    ∃ g w name, s = g ++ (w ++ r) ∧ Gap g ∧ Spells w name ∧ kindNamed? name = some k := by
  obtain ⟨⟨name, r'⟩, hname, hkind⟩ := bind_eq_ok.1 h
  obtain ⟨g, w, rfl, hg, hw⟩ := (Json.reads_textNamed _).sound hname
  dsimp only at hkind
  split at hkind
  · next p hp =>
    obtain ⟨rfl, rfl⟩ := Prod.mk.inj (Except.ok.inj hkind)
    exact ⟨g, w, name, rfl, hg, hw, congrArg (Option.map Prod.snd) hp⟩
  · cases hkind

theorem readKind_complete {g : List Char} {name : String} (hg : Gap g) (hw : Spells w name)
    (hk : kindNamed? name = some k) (r : List Char) : readKind (g ++ (w ++ r)) = .ok (k, r) := by
  obtain ⟨p, hp, rfl⟩ := Option.map_eq_some_iff.1 hk
  obtain ⟨body, rfl, hbody⟩ := hw
  have hname : Json.textNamed "variant identifier" (g ++ (Json.quoted body ++ r)) = .ok (name, r) := by
    rw [Json.quoted, List.cons_append, List.append_assoc, Json.textNamed,
      skipSpace_append_cons hg (by decide)]
    exact Json.readString_complete hbody r
  refine bind_eq_ok.2 ⟨_, hname, ?_⟩
  dsimp only
  rw [hp]

def Content : Kind → List Char → Cell → Prop
  | .null, w, c => w = Json.nullForm ∧ c = .null
  | .bool, w, c => ∃ b, w = Json.wordForm b ∧ c = .bool b
  | .int, w, c => ∃ n, Integer (-Number.twoTo 63) (Number.twoTo 63 - 1) w n ∧ c = .int (.ofInt n)
  | .float, w, c => ∃ x, (∃ y, Signed w y ∧ y.rounded = x) ∧ c = .float x
  | .text, w, c => ∃ t, Spells w t ∧ c = .text t
  | .bytes, w, c => ∃ b, ListOf (Natural 255) w b ∧ c = .bytes (b.map .ofNat)

theorem reads_int64 : Reads (Json.wholeBetween "i64" (-Number.twoTo 63) (Number.twoTo 63 - 1))
    (Integer (-Number.twoTo 63) (Number.twoTo 63 - 1)) :=
  Json.reads_wholeBetween "i64" (Int.le_refl _) (by decide)

theorem reads_byte : Reads (Json.naturalUpTo "u8" 255) (Natural 255) :=
  Json.reads_naturalUpTo "u8" (by decide)

theorem reads_content (k : Kind) : Reads (readContent k) (Content k) := by
  cases k with
  | null =>
    refine (Json.reads_nothing.map fun _ ↦ Cell.null).congr fun w c ↦ ?_
    exact ⟨fun ⟨_, hw, hc⟩ ↦ ⟨hw, hc⟩, fun ⟨hw, hc⟩ ↦ ⟨(), hw, hc⟩⟩
  | bool => exact Json.reads_boolean.map Cell.bool
  | int => exact reads_int64.map fun n ↦ Cell.int (.ofInt n)
  | float => exact Json.reads_binary64.map Cell.float
  | text => exact Json.reads_text.map Cell.text
  | bytes =>
    exact (Json.reads_list reads_byte).map fun b ↦ Cell.bytes (b.map .ofNat)

/-- The texts of a cell: a bare name for the kind without content, and for any other kind an object
of one entry, the content under the name. -/
inductive CellText : List Char → Cell → Prop
  | bare {w : List Char} {name : String} :
    Spells w name → kindNamed? name = some .null → CellText w .null
  | tagged {e : Entry} {body : List Char} {k : Kind} {c : Cell} :
    Renders [e] body → kindNamed? e.name = some k → Content k e.value c → CellText (braced body) c

theorem CellText.form (h : CellText w c) : Json.Form w := by
  cases h with
  | bare hw _ => exact Json.reads_text.form hw
  | tagged hbody _ _ => exact hbody.form

theorem readCell_sound (h : readCell s = .ok (c, r)) : ∃ g w, s = g ++ (w ++ r) ∧ Gap g ∧ CellText w c := by
  obtain ⟨g, hg, hs⟩ := exists_gap s
  rw [hs]
  unfold readCell at h
  split at h
  · cases h
  · next heq =>
    obtain ⟨⟨k, r'⟩, hkind, hend⟩ := bind_eq_ok.1 h
    obtain ⟨g', w, name, htext, hg', hw, hk⟩ := readKind_sound hkind
    dsimp only at hend
    split at hend
    · next hnull =>
      obtain ⟨rfl, rfl⟩ := Prod.mk.inj (Except.ok.inj hend)
      refine ⟨g ++ g', w, ?_, hg.append hg', .bare hw (hnull ▸ hk)⟩
      rw [heq, htext, List.append_assoc]
    · cases hend
  · next u heq =>
    obtain ⟨⟨k, u₁⟩, hkind, hrest⟩ := bind_eq_ok.1 h
    obtain ⟨u₂, hcolon, hrest'⟩ := bind_eq_ok.1 hrest
    obtain ⟨⟨c', u₃⟩, hcontent, hend⟩ := bind_eq_ok.1 hrest'
    obtain ⟨a, key, name, rfl, ha, hkey, hk⟩ := readKind_sound hkind
    obtain ⟨b, rfl, hb⟩ := Json.colon_eq_ok.1 hcolon
    obtain ⟨g', v, rfl, hg', hv⟩ := (reads_content k).sound hcontent
    obtain ⟨b', hb', hu₃⟩ := exists_gap u₃
    dsimp only at hend
    split at hend
    · cases hend
    · next hclose =>
      obtain ⟨rfl, rfl⟩ := Prod.mk.inj (Except.ok.inj hend)
      have hrenders : Renders [⟨name, v, (reads_content k).form hv⟩]
          (a ++ ((Member.mk key b g' v).text ++ b')) :=
        ⟨[⟨key, b, g', v⟩], .some ha (.last hb'), .cons ⟨⟨hkey, hb, hg'⟩, rfl⟩ .nil⟩
      refine ⟨g, _, ?_, hg, .tagged hrenders hk hv⟩
      rw [heq, hu₃, hclose]
      simp [Member.text, braced]
    · cases hend
  · cases h

theorem readCell_complete {g : List Char} (hg : Gap g) (h : CellText w c) (r : List Char) :
    readCell (g ++ (w ++ r)) = .ok (c, r) := by
  cases h with
  | bare hw hk =>
    have hkind := readKind_complete Json.gap_nil hw hk r
    obtain ⟨body, rfl, -⟩ := hw
    rw [Json.quoted, List.nil_append, List.cons_append] at hkind
    rw [Json.quoted, List.cons_append, readCell, skipSpace_append_cons hg (by decide)]
    exact bind_eq_ok.2 ⟨_, hkind, rfl⟩
  | @tagged e body k c hbody hk hv =>
    obtain ⟨ms, hitems, hms⟩ := hbody
    obtain ⟨m, hm, rfl⟩ : ∃ m, m.Spells e ∧ ms = [m] := by
      cases hms with
      | cons hm hnil =>
        cases hnil
        exact ⟨_, hm, rfl⟩
    cases hitems with
    | @some a w t ws ha ht =>
      cases ht with
      | last hb =>
        rw [braced, List.cons_append, readCell, skipSpace_append_cons hg (by decide)]
        simp only [Member.text, List.append_assoc, List.cons_append, List.nil_append]
        refine bind_eq_ok.2 ⟨_, readKind_complete ha hm.named.key hk _, ?_⟩
        refine bind_eq_ok.2 ⟨_, Json.colon_eq_ok.2 ⟨m.before, rfl, hm.named.before⟩, ?_⟩
        refine bind_eq_ok.2 ⟨_, (reads_content k).complete hm.named.after (hm.value ▸ hv)
          (hb.stops_append (Json.stops_cons (.inr (.inr rfl)))), ?_⟩
        dsimp only
        rw [skipSpace_append_cons hb (by decide)]
        rfl

theorem reads_cell : Reads readCell CellText where
  sound := readCell_sound
  complete hg h _ := readCell_complete hg h _
  form := CellText.form

def cellText (c : Cell) : List Char := Json.compactForm c.taggedJson

def taggedEntry (name : String) (v : Json) (h : Json.Form (Json.compactForm v)) : Entry :=
  ⟨name, Json.compactForm v, h⟩

theorem renders_tagged (name : String) {v : Json} (h : Json.Form (Json.compactForm v)) :
    ∃ body, Json.compactForm (.object [(name, v)]) = braced body ∧ Renders [taggedEntry name v h] body :=
  ⟨_, rfl, Json.renders_compactObject [taggedEntry name v h]⟩

theorem cellText_tagged {name : String} {v : Json} (h : Json.Form (Json.compactForm v)) :
    CellText (Json.compactForm (.object [(name, v)])) c ↔
      ∃ k, kindNamed? name = some k ∧ Content k (Json.compactForm v) c := by
  obtain ⟨body, htext, hbody⟩ := renders_tagged name h
  rw [htext]
  constructor
  · intro hcell
    generalize hw : braced body = w at hcell
    cases hcell with
    | bare hspells _ =>
      obtain ⟨_, hquoted, -⟩ := hspells
      cases (List.cons.inj (hw.trans hquoted)).1
    | tagged hbody' hk hv =>
      obtain rfl := Json.braced_inj hw
      obtain ⟨rfl, -⟩ := List.cons.inj (hbody.unique hbody')
      exact ⟨_, hk, hv⟩
  · rintro ⟨k, hk, hv⟩
    exact .tagged hbody hk hv

theorem content_int (n : Int64) : Content .int (Json.compactForm (.integer n.toInt)) (.int n) :=
  ⟨n.toInt, Json.integer_integerForm n.le_toInt (Int.le_sub_one_of_lt n.toInt_lt), by simp⟩

theorem content_bytes (b : List UInt8) : Content .bytes (Json.compactForm (Cell.byteItems b)) (.bytes b) := by
  have hbyte : ∀ x : UInt8, Natural 255 (Json.compactForm (.natural x.toNat)) x.toNat :=
    fun x ↦ Json.natural_decimalDigits (Nat.le_of_lt_succ x.toNat_lt)
  have hitems : ListOf (Natural 255) (Json.compactForm (Cell.byteItems b)) (b.map UInt8.toNat) := by
    refine (Json.listOf_written_iff reads_byte fun x ↦ reads_byte.form (hbyte x)).2 ?_
    rw [List.forall₂_map_right_iff, List.forall₂_same]
    exact fun x _ ↦ hbyte x
  refine ⟨_, hitems, congrArg Cell.bytes ?_⟩
  rw [List.map_map]
  exact (List.map_id'' (fun x ↦ UInt8.ofNat_toNat) b).symm

theorem cellText_self (h : ∀ x, c ≠ .float x) : CellText (cellText c) c := by
  cases c with
  | null => exact .bare (Json.spells_stringForm "Null") rfl
  | bool b => exact (cellText_tagged (Json.reads_boolean.form rfl)).2 ⟨.bool, rfl, b, rfl, rfl⟩
  | int n =>
    have hn := content_int n
    exact (cellText_tagged ((reads_content .int).form hn)).2 ⟨.int, rfl, hn⟩
  | float x => exact absurd rfl (h x)
  | text s =>
    have hs : Content .text (Json.compactForm (.string s)) (.text s) :=
      ⟨s, Json.spells_stringForm s, rfl⟩
    exact (cellText_tagged ((reads_content .text).form hs)).2 ⟨.text, rfl, hs⟩
  | bytes b =>
    have hb := content_bytes b
    exact (cellText_tagged ((reads_content .bytes).form hb)).2 ⟨.bytes, rfl, hb⟩

theorem not_signed_null (y : Json.Numeral) : ¬Signed Json.nullForm y := by
  intro h
  generalize hw : Json.nullForm = w at h
  cases h with
  | unsigned h _ =>
    obtain ⟨c, t, rfl, hc⟩ := h.exists_cons
    rw [← (List.cons.inj hw).1] at hc
    exact absurd hc (by decide)
  | negative _ _ => cases (List.cons.inj hw).1

theorem compactForm_finite {x : Binary64} (h : x.isFinite = true) :
    Json.compactForm (.ofBinary64 x) = (Json.numberLayout.render x).toList := by
  rw [Json.ofBinary64, if_pos h]
  rfl

theorem compactForm_not_finite {x : Binary64} (h : ¬x.isFinite = true) :
    Json.compactForm (.ofBinary64 x) = Json.nullForm := by
  rw [Json.ofBinary64, if_neg h]
  rfl

theorem signed_ofBinary64 {x : Binary64} :
    (∃ y, Signed (Json.compactForm (.ofBinary64 x)) y) ↔ x.isFinite = true := by
  by_cases hx : x.isFinite = true
  · obtain ⟨y, hy⟩ := Json.signed_render hx
    exact iff_of_true ⟨_, compactForm_finite hx ▸ hy⟩ hx
  · rw [compactForm_not_finite hx]
    exact iff_of_false (fun ⟨y, hy⟩ ↦ not_signed_null y hy) hx

theorem form_ofBinary64 (x : Binary64) : Json.Form (Json.compactForm (.ofBinary64 x)) := by
  by_cases hx : x.isFinite = true
  · obtain ⟨_, hy⟩ := signed_ofBinary64.2 hx
    exact hy.form
  · rw [compactForm_not_finite hx]
    exact .null

theorem cellText_float {x : Binary64} :
    CellText (cellText (.float x)) c ↔
      ∃ y, Signed (Json.compactForm (.ofBinary64 x)) y ∧ c = .float y.rounded := by
  have hkind : ∀ k, kindNamed? "Float" = some k → k = .float := by decide
  rw [cellText, Cell.taggedJson, cellText_tagged (form_ofBinary64 x)]
  constructor
  · rintro ⟨k, hk, hcontent⟩
    obtain rfl := hkind k hk
    obtain ⟨_, ⟨y, hy, rfl⟩, rfl⟩ := hcontent
    exact ⟨y, hy, rfl⟩
  · rintro ⟨y, hy, rfl⟩
    exact ⟨.float, rfl, _, ⟨y, hy, rfl⟩, rfl⟩

theorem form_cellText (c : Cell) : Json.Form (cellText c) := by
  by_cases hc : ∃ x, c = .float x
  · obtain ⟨x, rfl⟩ := hc
    exact Json.form_compactObject [taggedEntry "Float" (.ofBinary64 x) (form_ofBinary64 x)]
  · exact (cellText_self fun x hx ↦ hc ⟨x, hx⟩).form

/-- What a cell that was written is read as: itself, unless it is a float; then some float. -/
structure CellKept (c c' : Cell) : Prop where
  kind : kindOf c' = kindOf c
  eq : kindOf c ≠ .float → c' = c

theorem cellKept_of_cellText {c' : Cell} (h : CellText (cellText c) c') : CellKept c c' := by
  by_cases hc : ∃ x, c = .float x
  · obtain ⟨x, rfl⟩ := hc
    obtain ⟨y, -, rfl⟩ := cellText_float.1 h
    exact ⟨rfl, fun hne ↦ absurd rfl hne⟩
  · obtain rfl := reads_cell.unique h (cellText_self fun x hx ↦ hc ⟨x, hx⟩)
    exact ⟨rfl, fun _ ↦ rfl⟩

theorem exists_cellText_iff : (∃ c', CellText (cellText c) c') ↔ ∀ x, c = .float x → x.isFinite = true := by
  by_cases hc : ∃ x, c = .float x
  · obtain ⟨x, rfl⟩ := hc
    have hfinite : (∀ y, Cell.float x = .float y → y.isFinite = true) ↔ x.isFinite = true :=
      ⟨fun h ↦ h x rfl, fun h y hy ↦ Cell.float.inj hy ▸ h⟩
    rw [hfinite, ← signed_ofBinary64]
    constructor
    · rintro ⟨_, hc'⟩
      obtain ⟨y, hy, -⟩ := cellText_float.1 hc'
      exact ⟨y, hy⟩
    · exact fun ⟨y, hy⟩ ↦ ⟨_, cellText_float.2 ⟨y, hy, rfl⟩⟩
  · exact iff_of_true ⟨c, cellText_self fun x hx ↦ hc ⟨x, hx⟩⟩ fun x hx ↦ absurd ⟨x, hx⟩ hc

end ScriptEnv.Frame
