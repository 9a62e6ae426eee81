import ScriptEnv.Proofs.Json.Written

namespace ScriptEnv.Json

open Number (isDigit)

variable {s t r w body : List Char} {first : Bool} {d n : Nat} {v : Json}

/-- A text with at most `d` brackets inside one another, and the value it stands for. -/
inductive Stands : Nat → List Char → Json → Prop
  | null {d : Nat} : Stands d nullForm .null
  | bool {d : Nat} {b : Bool} : Stands d (wordForm b) (.bool b)
  | integer {d : Nat} {w : List Char} {n : Int} : Signed w (.whole n) → Stands d w (.integer n)
  | number {d : Nat} {w : List Char} {x : Number.Binary64} :
    Signed w (.float x) → Stands d w (.number x)
  | string {d : Nat} {w : List Char} {t : String} : Spells w t → Stands d w (.string t)
  | list {d : Nat} {ps : List (List Char × Json)} {body : List Char} :
    Items (ps.map Prod.fst) body → (∀ p ∈ ps, Stands d p.1 p.2) →
    Stands (d + 1) (listed body) (.array (ps.map Prod.snd))
  | object {d : Nat} {ps : List (Member × String × Json)} {body : List Char} :
    Items (ps.map (·.1.text)) body → (∀ p ∈ ps, p.1.Named p.2.1) →
    (∀ p ∈ ps, Stands d p.1.value p.2.2) →
    Stands (d + 1) (braced body) (.object (Keyed.ofList (ps.map Prod.snd)))

theorem Stands.form (h : Stands d w v) : Form w := by
  induction h with
  | null => exact .null
  | @bool d b => exact reads_boolean.form (a := b) rfl
  | integer h => exact h.form
  | number h => exact h.form
  | string h => exact reads_text.form h
  | list h _ ih => exact .list h (List.forall_mem_map.2 ih)
  | @object d ps body h hnamed _ ih =>
    have hmembers : Items ((ps.map Prod.fst).map Member.text) body := by rwa [List.map_map]
    refine form_object hmembers ?_
    exact List.forall_mem_map.2 fun p hp ↦ ⟨(hnamed p hp).keyed, ih p hp⟩

def Parses (d : Nat) (w : List Char) (v : Json) : Prop :=
  ∀ n a r, Gap a → Stops r → w.length ≤ n → value n (d + 1) (a ++ (w ++ r)) = .ok (v, r)

theorem value_gap {a : List Char} (ha : Gap a) (n d : Nat) (s : List Char) :
    value (n + 1) d (a ++ s) = value (n + 1) d s := by
  rw [value, value, ha.skipSpace_append]

def Numeral.value : Numeral → Json
  | .whole n => .integer n
  | .float x => .number x

theorem map_numeral (y : Except Fault (Numeral × List Char)) : (y.map fun
      | (.whole n, r) => (Json.integer n, r)
      | (.float x, r) => (Json.number x, r)) = y.map fun (y, r) ↦ (y.value, r) := by
  obtain _ | ⟨_ | _, _⟩ := y <;> rfl

theorem value_digit {c : Char} (hc : isDigit c = true) (n d : Nat) (s : List Char) :
    value (n + 1) d (c :: s) =
      (readNumber false (c :: s)).map fun (y, r) ↦ (y.value, r) := by
  rw [value, skipSpace_cons (begins_of_isDigit hc).1]
  dsimp only
  split
  case h_9 heq =>
    obtain ⟨rfl, rfl⟩ := List.cons.inj heq
    rw [if_pos hc]
    exact map_numeral _
  case h_1 heq => cases heq
  all_goals
    next heq => exact absurd (List.cons.inj heq).1 (ne_of_isDigit hc (by decide))

theorem value_minus (n d : Nat) (s : List Char) : value (n + 1) d ('-' :: s) =
    (readNumber true s).map fun (y, r) ↦ (y.value, r) := by
  rw [value, skipSpace_cons (by decide)]
  exact map_numeral _

theorem Signed.parses {y : Numeral} (h : Signed w y) : Parses d w y.value := by
  intro n a r ha hr hn
  cases h with
  | unsigned hw hread =>
    have hread := hread r hr
    obtain ⟨c, t, rfl, hc⟩ := hw.exists_cons
    obtain ⟨n, rfl⟩ := Nat.exists_eq_add_one.2 (Nat.zero_lt_of_lt hn)
    rw [value_gap ha, List.cons_append, value_digit hc]
    exact map_eq_ok.2 ⟨_, hread, rfl⟩
  | negative hw hread =>
    obtain ⟨n, rfl⟩ := Nat.exists_eq_add_one.2 (Nat.zero_lt_of_lt hn)
    rw [value_gap ha, List.cons_append, value_minus]
    exact map_eq_ok.2 ⟨_, hread r hr, rfl⟩

theorem values_complete {ps : List (List Char × Json)} (hps : ∀ p ∈ ps, Stands d p.1 p.2 ∧ Parses d p.1 p.2)
    (ht : Rest first (ps.map Prod.fst) t) (hn : t.length < n) (r : List Char) :
    values n (d + 1) first (t ++ ']' :: r) = .ok (ps.map Prod.snd, ']' :: r) := by
  induction ps generalizing n first t with
  | nil =>
    obtain ⟨n, rfl⟩ := Nat.exists_eq_add_one.2 (Nat.zero_lt_of_lt hn)
    exact bind_eq_ok.2 ⟨_, nextItem_gap ht.gap r, rfl⟩
  | cons p ps ih =>
    obtain ⟨⟨hstands, hparses⟩, hps⟩ := List.forall_mem_cons.1 hps
    obtain ⟨n, rfl⟩ := Nat.exists_eq_add_one.2 (Nat.zero_lt_of_lt hn)
    obtain ⟨pre, t, rfl, hpre, htail⟩ := ht.exists_append
    obtain ⟨c, u, hc, hbegins⟩ := hstands.form.exists_cons
    simp only [List.length_append, hc, List.length_cons] at hn
    have hread := hparses n [] _ gap_nil (htail.stops (.inl rfl) r) (by rw [hc, List.length_cons]; omega)
    have hrest := ih hps (show Rest false (ps.map Prod.fst) t from htail) (n := n) (by omega)
    simp only [List.append_assoc, hc, List.cons_append, List.nil_append] at hread ⊢
    refine bind_eq_ok.2 ⟨_, nextItem_opens hpre hbegins _, ?_⟩
    exact bind_eq_ok.2 ⟨_, hread, bind_eq_ok.2 ⟨_, hrest, rfl⟩⟩

theorem entries_complete {ps : List (Member × String × Json)} (ms : List (String × Json))
    (hps : ∀ p ∈ ps, p.1.Named p.2.1 ∧ Parses d p.1.value p.2.2)
    (ht : Rest first (ps.map (·.1.text)) t) (hn : t.length < n) (r : List Char) :
    entries n (d + 1) first ms (t ++ '\x7d' :: r) =
      .ok ((ps.map Prod.snd).foldl (fun m e ↦ Keyed.insert e.1 e.2 m) ms, '\x7d' :: r) := by
  induction ps generalizing n first t ms with
  | nil =>
    obtain ⟨n, rfl⟩ := Nat.exists_eq_add_one.2 (Nat.zero_lt_of_lt hn)
    exact bind_eq_ok.2 ⟨_, nextKey_gap ht.gap r, rfl⟩
  | cons p ps ih =>
    obtain ⟨⟨hnamed, hparses⟩, hps⟩ := List.forall_mem_cons.1 hps
    obtain ⟨n, rfl⟩ := Nat.exists_eq_add_one.2 (Nat.zero_lt_of_lt hn)
    obtain ⟨pre, t, rfl, hpre, htail⟩ := ht.exists_append
    simp only [Member.text, List.append_assoc, List.cons_append, List.length_append,
      List.length_cons] at hn ⊢
    refine bind_eq_ok.2 ⟨_, nextKey_opens hpre hnamed.key _, ?_⟩
    refine bind_eq_ok.2 ⟨_, colon_eq_ok.2 ⟨p.1.before, rfl, hnamed.before⟩, ?_⟩
    refine bind_eq_ok.2 ⟨_, hparses n _ _ hnamed.after (htail.stops (.inr rfl) r) (by omega), ?_⟩
    exact ih _ hps htail (by omega)

theorem Stands.parses (h : Stands d w v) : Parses d w v := by
  -- The fuel counts characters, of which a value has more than any of its parts.
  induction h with
  | null =>
    intro n a r ha hr hn
    obtain ⟨n, rfl⟩ := Nat.exists_eq_add_one.2 (Nat.zero_lt_of_lt hn)
    rw [value_gap ha]
    exact map_eq_ok.2 ⟨r, (readWord_eq_ok (w := ['u', 'l', 'l'])).2 rfl, rfl⟩
  | @bool d b =>
    intro n a r ha hr hn
    have hpos : 0 < (wordForm b).length := by cases b <;> decide
    obtain ⟨n, rfl⟩ := Nat.exists_eq_add_one.2 (Nat.lt_of_lt_of_le hpos hn)
    rw [value_gap ha]
    cases b with
    | true => exact map_eq_ok.2 ⟨r, (readWord_eq_ok (w := ['r', 'u', 'e'])).2 rfl, rfl⟩
    | false => exact map_eq_ok.2 ⟨r, (readWord_eq_ok (w := ['a', 'l', 's', 'e'])).2 rfl, rfl⟩
  | integer h => exact h.parses
  | number h => exact h.parses
  | string h =>
    obtain ⟨body, rfl, hbody⟩ := h
    intro n a r ha hr hn
    obtain ⟨n, rfl⟩ := Nat.exists_eq_add_one.2 (Nat.zero_lt_of_lt hn)
    rw [value_gap ha, quoted, List.cons_append, List.append_assoc]
    exact map_eq_ok.2 ⟨_, readString_complete hbody r, rfl⟩
  | @list d ps body hitems hps ih =>
    intro n a r ha hr hn
    simp only [listed, List.length_append, List.length_cons] at hn
    obtain ⟨n, rfl⟩ := Nat.exists_eq_add_one.2 (show 0 < n by omega)
    have hbody := values_complete (n := n) (fun p hp ↦ ⟨hps p hp, ih p hp⟩)
      (show Rest true (ps.map Prod.fst) body from hitems) (by omega) r
    rw [value_gap ha, listed, List.cons_append, List.append_assoc]
    exact enclosed_eq_ok.2 ⟨_, map_eq_ok.2 ⟨_, hbody, rfl⟩, closeList_eq_none.2 ⟨[], rfl, gap_nil⟩⟩
  | @object d ps body hitems hnamed hps ih =>
    intro n a r ha hr hn
    simp only [braced, List.length_append, List.length_cons] at hn
    obtain ⟨n, rfl⟩ := Nat.exists_eq_add_one.2 (show 0 < n by omega)
    have hbody := entries_complete (n := n) [] (fun p hp ↦ ⟨hnamed p hp, ih p hp⟩)
      (show Rest true (ps.map (·.1.text)) body from hitems) (by omega) r
    rw [value_gap ha, braced, List.cons_append, List.append_assoc]
    exact enclosed_eq_ok.2 ⟨_, map_eq_ok.2 ⟨_, hbody, rfl⟩, closeObject_eq_none.2 ⟨[], rfl, gap_nil⟩⟩

theorem parse_eq_ok {s : String} (h : Stands (depthLimit - 1) w v) (hw : Alone w s.toList) :
    parse s = .ok v := by
  obtain ⟨g, g', hs, hg, hg'⟩ := hw
  have hread : any depthLimit s.toList = .ok (v, g') := by
    rw [any, hs]
    refine h.parses _ g g' hg hg'.stops ?_
    simp only [List.length_append]
    omega
  have hend : readAll (any depthLimit) s.toList = .ok v := by
    refine bind_eq_ok.2 ⟨_, hread, ?_⟩
    dsimp only
    rw [hg'.skipSpace_eq_nil]
  rw [parse, decode, hend]
  rfl

/-- A value with at most `d` brackets inside one another and no floats, whose whole numbers fit 64
bits and whose keys are in order. -/
inductive Plain : Nat → Json → Prop
  | null {d : Nat} : Plain d .null
  | bool {d : Nat} {b : Bool} : Plain d (.bool b)
  | integer {d : Nat} {n : Int} : -Number.twoTo 63 ≤ n → n ≤ wordMax → Plain d (.integer n)
  | string {d : Nat} {t : String} : Plain d (.string t)
  | array {d : Nat} {items : List Json} : (∀ v ∈ items, Plain d v) → Plain (d + 1) (.array items)
  | object {d : Nat} {members : List (String × Json)} :
    Keyed.Sorted members → (∀ m ∈ members, Plain d m.2) → Plain (d + 1) (.object members)

theorem prettyItems_eq (k : Nat) (items : List Json) :
    prettyItems k items = items.map (prettyForm k) := by
  induction items with
  | nil => rfl
  | cons v items ih => rw [prettyItems, ih, List.map_cons]

def lineMember (k : Nat) (m : String × Json) : Member :=
  ⟨stringForm m.1, [], [' '], prettyForm k m.2⟩

theorem prettyMembers_eq (k : Nat) (members : List (String × Json)) :
    prettyMembers k members = members.map fun m ↦ (lineMember k m).text := by
  induction members with
  | nil => rfl
  | cons m members ih =>
    rw [prettyMembers, ih, List.map_cons]
    rfl

theorem Plain.stands (h : Plain d v) (k : Nat) : Stands d (prettyForm k v) v := by
  induction h generalizing k with
  | null => exact .null
  | bool => exact .bool
  | integer hlow hhigh =>
    rw [prettyForm]
    exact .integer ((signed_integer hlow hhigh).2 (integer_integerForm (Int.le_refl _) (Int.le_refl _))).1
  | string => exact .string (spells_stringForm _)
  | @array d items _ ih =>
    obtain ⟨body, hbody, hitems⟩ := exists_bracketed '[' ']' k (prettyItems (k + 1) items)
    rw [prettyItems_eq] at hitems
    have hlist : Stands (d + 1) (listed body)
        (.array ((items.map fun v ↦ (prettyForm (k + 1) v, v)).map Prod.snd)) :=
      .list (by rwa [List.map_map]) (List.forall_mem_map.2 fun v hv ↦ ih v hv (k + 1))
    have hitems' : (items.map fun v ↦ (prettyForm (k + 1) v, v)).map Prod.snd = items := by
      rw [List.map_map]
      exact List.map_id items
    rw [hitems'] at hlist
    rw [prettyForm, hbody]
    exact hlist
  | @object d members hsorted _ ih =>
    obtain ⟨body, hbody, hitems⟩ := exists_bracketed '\x7b' '\x7d' k (prettyMembers (k + 1) members)
    rw [prettyMembers_eq] at hitems
    have hspace : Gap [' '] := fun c hc ↦ by
      rw [List.mem_singleton.1 hc]
      rfl
    have hobject : Stands (d + 1) (braced body)
        (.object (Keyed.ofList ((members.map fun m ↦ (lineMember (k + 1) m, m)).map Prod.snd))) :=
      .object (by rwa [List.map_map])
        (List.forall_mem_map.2 fun m _ ↦ ⟨spells_stringForm m.1, gap_nil, hspace⟩)
        (List.forall_mem_map.2 fun m hm ↦ ih m hm (k + 1))
    have hmembers : (members.map fun m ↦ (lineMember (k + 1) m, m)).map Prod.snd = members := by
      rw [List.map_map]
      exact List.map_id members
    rw [hmembers, hsorted.ofList_eq] at hobject
    rw [prettyForm, hbody]
    exact hobject

/-- A value without floats comes back from its text. -/
theorem parse_pretty (h : Plain (depthLimit - 1) v) : parse (pretty v) = .ok v := by
  refine parse_eq_ok (h.stands 0) ⟨[], [], ?_, gap_nil, gap_nil⟩
  rw [pretty, String.toList_ofList, List.append_nil]
  rfl

end ScriptEnv.Json
