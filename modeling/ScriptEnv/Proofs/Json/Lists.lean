import Mathlib.Data.List.Forall2
import ScriptEnv.Proofs.Json.Written

namespace ScriptEnv.Json

variable {α : Type} {item : Reader α} {R : List Char → α → Prop} {s s' t r w body : List Char}
  {first : Bool} {ws : List (List Char)} {as : List α} {n : Nat}

def ListOf (R : List Char → α → Prop) (w : List Char) (as : List α) : Prop :=
  ∃ ws body, w = listed body ∧ Items ws body ∧ List.Forall₂ R ws as

theorem items_sound (hitem : Reads item R) (h : items item n first s = .ok (as, s')) :
    ∃ ws t r, s = t ++ ']' :: r ∧ s' = ']' :: r ∧ Rest first ws t ∧ List.Forall₂ R ws as := by
  induction n generalizing first s as with
  | zero => cases h
  | succ n ih =>
    obtain ⟨⟨more, u⟩, hnext, hitems⟩ := bind_eq_ok.1 h
    cases more with
    | false =>
      obtain ⟨rfl, rfl⟩ := Prod.mk.inj (Except.ok.inj hitems)
      obtain ⟨a, r, rfl, ha, rfl⟩ := nextItem_none hnext
      exact ⟨[], a, r, rfl, rfl, rest_nil ha, .nil⟩
    | true =>
      obtain ⟨pre, rfl, hpre⟩ := nextItem_more hnext
      obtain ⟨⟨a, v⟩, hread, htail⟩ := bind_eq_ok.1 hitems
      obtain ⟨⟨as', v'⟩, hrest, heq⟩ := bind_eq_ok.1 htail
      obtain ⟨rfl, rfl⟩ := Prod.mk.inj (Except.ok.inj heq)
      obtain ⟨g, w, rfl, hg, hw⟩ := hitem.sound hread
      obtain ⟨ws, t, r, rfl, rfl, ht, hws⟩ := ih hrest
      exact ⟨w :: ws, pre ++ (g ++ (w ++ t)), r, by simp, rfl, rest_cons hpre hg ht, .cons hw hws⟩

theorem items_complete (hitem : Reads item R) (h : List.Forall₂ R ws as) (ht : Rest first ws t)
    (hn : ws.length < n) (r : List Char) :
    items item n first (t ++ ']' :: r) = .ok (as, ']' :: r) := by
  induction h generalizing n first t with
  | nil =>
    obtain ⟨n, rfl⟩ := Nat.exists_eq_add_one.2 (Nat.zero_lt_of_lt hn)
    exact bind_eq_ok.2 ⟨_, nextItem_gap ht.gap r, rfl⟩
  | @cons w a ws as hw _ ih =>
    obtain ⟨n, rfl⟩ := Nat.exists_eq_add_one.2 (Nat.zero_lt_of_lt hn)
    obtain ⟨pre, t, rfl, hpre, htail⟩ := ht.exists_append
    have hread := hitem.complete gap_nil hw (htail.stops (.inl rfl) r)
    have hrest := ih (show Rest false ws t from htail) (Nat.lt_of_succ_lt_succ hn)
    obtain ⟨c, u, rfl, hc⟩ := (hitem.form hw).exists_cons
    simp only [List.append_assoc, List.cons_append, List.nil_append] at hread ⊢
    refine bind_eq_ok.2 ⟨_, nextItem_opens hpre hc _, ?_⟩
    exact bind_eq_ok.2 ⟨_, hread, bind_eq_ok.2 ⟨_, hrest, rfl⟩⟩

theorem forall_form_of_forall₂ (hitem : Reads item R) (h : List.Forall₂ R ws as) : ∀ w ∈ ws, Form w := by
  induction h with
  | nil => exact fun w hw ↦ absurd hw List.not_mem_nil
  | cons hw _ ih => exact List.forall_mem_cons.2 ⟨hitem.form hw, ih⟩

theorem reads_list (hitem : Reads item R) : Reads (list item) (ListOf R) where
  sound := by
    intro s r as h
    obtain ⟨g, hg, hs⟩ := exists_gap s
    rw [hs]
    unfold list at h
    split at h
    · cases h
    · next heq =>
      obtain ⟨s', hitems, hclose⟩ := enclosed_eq_ok.1 h
      obtain ⟨ws, t, r', rfl, rfl, ht, hws⟩ := items_sound hitem hitems
      obtain rfl : r' = r := by simpa [closeList, skipSpace_cons, isSpace] using hclose
      exact ⟨g, listed t, by simp [heq, listed], hg, ws, t, rfl, ht, hws⟩
    · cases h
  complete := by
    rintro g w r as hg ⟨ws, body, rfl, hitems, hws⟩ -
    have hlength := hitems.length_le
    have hread := items_complete hitem hws (show Rest true ws body from hitems)
      (n := (body ++ ']' :: r).length + 1)
      (by simp only [List.length_append, List.length_cons]; omega) r
    rw [listed, List.cons_append, list, skipSpace_append_cons hg (by decide), List.append_assoc]
    exact enclosed_eq_ok.2 ⟨_, hread, closeList_eq_none.2 ⟨[], rfl, gap_nil⟩⟩
  form := by
    rintro w as ⟨ws, body, rfl, hitems, hws⟩
    exact .list hitems (forall_form_of_forall₂ hitem hws)

theorem listOf_listed_iff (hitem : Reads item R) (hitems : Items ws body) (hws : ∀ w ∈ ws, Form w) :
    ListOf R (listed body) as ↔ List.Forall₂ R ws as := by
  constructor
  · rintro ⟨ws', body', heq, hitems', h⟩
    obtain rfl := listed_inj heq
    obtain rfl := hitems.unique tokens_form hitems' hws (forall_form_of_forall₂ hitem h)
    exact h
  · exact fun h ↦ ⟨ws, body, rfl, hitems, h⟩

theorem form_written {β : Type} {write : β → Json} (h : ∀ b, Form (compactForm (write b))) (bs : List β) :
    Form (compactForm (.array (bs.map write))) := by
  rw [compactForm_array]
  refine .list (items_compact _) ?_
  rw [List.map_map]
  exact List.forall_mem_map.2 fun b _ ↦ h b

theorem listOf_written_iff {β : Type} (hitem : Reads item R) {write : β → Json}
    (hform : ∀ b, Form (compactForm (write b))) {bs : List β} :
    ListOf R (compactForm (.array (bs.map write))) as ↔
      List.Forall₂ (fun b a ↦ R (compactForm (write b)) a) bs as := by
  have hforms : ∀ w ∈ bs.map fun b ↦ compactForm (write b), Form w :=
    List.forall_mem_map.2 fun b _ ↦ hform b
  have hmap : (bs.map write).map compactForm = bs.map fun b ↦ compactForm (write b) := List.map_map
  rw [compactForm_array, hmap, listOf_listed_iff hitem (items_compact _) hforms,
    List.forall₂_map_left_iff]

end ScriptEnv.Json
