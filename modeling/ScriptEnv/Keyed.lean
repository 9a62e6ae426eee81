namespace ScriptEnv.Keyed

variable {α β : Type}

def insert (k : String) (v : α) : List (String × α) → List (String × α)
  | [] => [(k, v)]
  | e :: r => if k < e.1 then (k, v) :: e :: r else if k = e.1 then (k, v) :: r else e :: insert k v r

def find? (k : String) : List (String × α) → Option α
  | [] => none
  | e :: r => if k = e.1 then some e.2 else find? k r

/-- The last of several values for a key counts. -/
def ofList (entries : List (String × α)) : List (String × α) :=
  entries.foldl (fun m e ↦ insert e.1 e.2 m) []

def keys (m : List (String × α)) : List String := m.map Prod.fst

def values (m : List (String × α)) : List α := m.map Prod.snd

theorem find?_insert_self (k : String) (v : α) (m : List (String × α)) :
    find? k (insert k v m) = some v := by
  induction m with
  | nil => simp [insert, find?]
  | cons e r ih =>
    simp only [insert]
    split
    · simp [find?]
    · split
      · simp [find?]
      · simp only [find?, ih]
        split <;> simp_all

theorem find?_insert_of_ne {k l : String} (h : l ≠ k) (v : α) (m : List (String × α)) :
    find? l (insert k v m) = find? l m := by
  induction m with
  | nil => simp [insert, find?, h]
  | cons e r ih =>
    simp only [insert]
    split
    · simp [find?, h]
    · split
      · rename_i hk
        subst hk
        simp [find?, h]
      · simp [find?, ih]

def Sorted (m : List (String × α)) : Prop := m.Pairwise fun a b ↦ a.1 < b.1

theorem sorted_nil : Sorted ([] : List (String × α)) := List.Pairwise.nil

theorem mem_insert {k : String} {v : α} {m : List (String × α)} {e : String × α}
    (h : e ∈ insert k v m) : e = (k, v) ∨ e ∈ m := by
  induction m with
  | nil => simpa [insert] using h
  | cons d r ih =>
    simp only [insert] at h
    split at h
    · simpa using h
    · split at h
      · simp only [List.mem_cons] at h ⊢
        exact h.imp_right .inr
      · simp only [List.mem_cons] at h ⊢
        rcases h with h | h
        · exact .inr (.inl h)
        · exact (ih h).imp_right .inr

theorem Sorted.insert {m : List (String × α)} (hm : Sorted m) (k : String) (v : α) :
    Sorted (Keyed.insert k v m) := by
  induction m with
  | nil => simp [Keyed.insert, Sorted]
  | cons d r ih =>
    obtain ⟨hd, hr⟩ := List.pairwise_cons.1 hm
    simp only [Keyed.insert]
    split
    · rename_i hk
      refine List.pairwise_cons.2 ⟨fun e he ↦ ?_, hm⟩
      rcases List.mem_cons.1 he with rfl | he
      · exact hk
      · exact String.lt_trans hk (hd e he)
    · split
      · rename_i hk
        subst hk
        exact List.pairwise_cons.2 ⟨hd, hr⟩
      · rename_i hlt hne
        refine List.pairwise_cons.2 ⟨fun e he ↦ ?_, ih hr⟩
        rcases mem_insert he with rfl | he
        · have : d.1 < k := by grind
          exact this
        · exact hd e he

theorem sorted_foldl (entries m : List (String × α)) (hm : Sorted m) :
    Sorted (entries.foldl (fun m e ↦ Keyed.insert e.1 e.2 m) m) := by
  induction entries generalizing m with
  | nil => exact hm
  | cons e r ih => exact ih _ (hm.insert e.1 e.2)

theorem sorted_ofList (entries : List (String × α)) : Sorted (ofList entries) :=
  sorted_foldl entries [] sorted_nil

theorem mem_foldl {entries m : List (String × α)} {e : String × α}
    (h : e ∈ entries.foldl (fun m e ↦ insert e.1 e.2 m) m) : e ∈ entries ∨ e ∈ m := by
  induction entries generalizing m with
  | nil => exact .inr h
  | cons d r ih =>
    rcases ih h with h | h
    · exact .inl (List.mem_cons_of_mem d h)
    · rcases mem_insert h with rfl | h
      · exact .inl List.mem_cons_self
      · exact .inr h

theorem mem_of_mem_ofList {entries : List (String × α)} {e : String × α} (h : e ∈ ofList entries) :
    e ∈ entries :=
  (mem_foldl h).resolve_right List.not_mem_nil

theorem mem_keys_insert {k l : String} {v : α} {m : List (String × α)} :
    l ∈ keys (insert k v m) ↔ l = k ∨ l ∈ keys m := by
  induction m with
  | nil => simp [insert, keys]
  | cons e r ih =>
    simp only [insert]
    split
    · simp [keys]
    · split
      · next hk => simp [keys, hk]
      · simp only [keys, List.map_cons, List.mem_cons] at ih ⊢
        rw [ih]
        exact or_left_comm

theorem mem_keys_foldl {entries m : List (String × α)} {l : String} :
    l ∈ keys (entries.foldl (fun m e ↦ insert e.1 e.2 m) m) ↔ l ∈ keys entries ∨ l ∈ keys m := by
  induction entries generalizing m with
  | nil => simp [keys]
  | cons e r ih =>
    rw [List.foldl_cons, ih, mem_keys_insert]
    simp only [keys, List.map_cons, List.mem_cons]
    exact or_left_comm.trans or_assoc.symm

theorem mem_keys_ofList {entries : List (String × α)} {l : String} :
    l ∈ keys (ofList entries) ↔ l ∈ keys entries :=
  mem_keys_foldl.trans (or_iff_left List.not_mem_nil)

theorem length_insert_le (k : String) (v : α) (m : List (String × α)) :
    (insert k v m).length ≤ m.length + 1 := by
  induction m with
  | nil => simp [insert]
  | cons e r ih =>
    simp only [insert]
    split
    · simp
    · split <;> simp [ih]

theorem length_foldl_le (entries m : List (String × α)) :
    (entries.foldl (fun m e ↦ insert e.1 e.2 m) m).length ≤ m.length + entries.length := by
  induction entries generalizing m with
  | nil => simp
  | cons e r ih =>
    have hinsert := length_insert_le e.1 e.2 m
    have hrest := ih (insert e.1 e.2 m)
    simp only [List.foldl_cons, List.length_cons]
    omega

theorem length_ofList_le (entries : List (String × α)) : (ofList entries).length ≤ entries.length := by
  have hfold := length_foldl_le entries []
  rwa [List.length_nil, Nat.zero_add] at hfold

theorem insert_of_forall_lt {k : String} {m : List (String × α)} (h : ∀ e ∈ m, e.1 < k) (v : α) :
    insert k v m = m ++ [(k, v)] := by
  induction m with
  | nil => rfl
  | cons e r ih =>
    obtain ⟨he, hr⟩ := List.forall_mem_cons.1 h
    have hlt : ¬k < e.1 := fun hk ↦ String.lt_irrefl k (String.lt_trans hk he)
    have hne : k ≠ e.1 := fun hk ↦ String.lt_irrefl k (hk ▸ he)
    rw [insert, if_neg hlt, if_neg hne, ih hr, List.cons_append]

theorem Sorted.foldl_insert {entries m : List (String × α)} (h : Sorted (m ++ entries)) :
    entries.foldl (fun m e ↦ Keyed.insert e.1 e.2 m) m = m ++ entries := by
  induction entries generalizing m with
  | nil => exact (List.append_nil m).symm
  | cons e r ih =>
    have hlt : ∀ d ∈ m, d.1 < e.1 := fun d hd ↦ (List.pairwise_append.1 h).2.2 d hd e List.mem_cons_self
    rw [List.append_cons] at h
    rw [List.foldl_cons, insert_of_forall_lt hlt, ih h, List.append_assoc]
    rfl

theorem Sorted.ofList_eq {m : List (String × α)} (h : Sorted m) : ofList m = m :=
  h.foldl_insert (m := [])

theorem mem_keys_of_mem {k : String} {v : α} {m : List (String × α)} (h : (k, v) ∈ m) : k ∈ keys m :=
  List.mem_map_of_mem h

theorem Sorted.nodup_keys {m : List (String × α)} (h : Sorted m) : (keys m).Nodup := by
  refine List.pairwise_map.2 (h.imp ?_)
  intro a b hlt heq
  rw [heq] at hlt
  exact String.lt_irrefl _ hlt

theorem Sorted.nodup {m : List (String × α)} (h : Sorted m) : m.Nodup := by
  apply (List.pairwise_map.1 h.nodup_keys).imp
  rintro a b hne rfl
  exact hne rfl

/-- A list in key order is known by its entries. -/
theorem Sorted.ext {m m' : List (String × α)} (hm : Sorted m) (hm' : Sorted m')
    (h : ∀ e, e ∈ m ↔ e ∈ m') : m = m' := by
  apply List.Perm.eq_of_pairwise _ hm hm' ((List.perm_ext_iff_of_nodup hm.nodup hm'.nodup).2 h)
  intro a b _ _ hab hba
  exact absurd (String.lt_trans hab hba) (String.lt_irrefl _)

theorem find?_eq_some_of_mem {k : String} {v : α} {m : List (String × α)} (hm : (keys m).Nodup)
    (h : (k, v) ∈ m) : find? k m = some v := by
  induction m with
  | nil => simp at h
  | cons e r ih =>
    obtain ⟨he, hr⟩ := List.nodup_cons.1 hm
    rcases List.mem_cons.1 h with rfl | h
    · simp [find?]
    · have hne : k ≠ e.1 := by
        rintro rfl
        exact he (mem_keys_of_mem h)
      simp [find?, hne, ih hr h]

theorem find?_eq_none {k : String} {m : List (String × α)} (h : k ∉ keys m) : find? k m = none := by
  induction m with
  | nil => rfl
  | cons e r ih =>
    simp only [keys, List.map_cons, List.mem_cons, not_or] at h
    rw [find?, if_neg h.1]
    exact ih h.2

theorem perm_insert {k : String} {m : List (String × α)} (h : k ∉ keys m) (v : α) :
    (insert k v m).Perm ((k, v) :: m) := by
  induction m with
  | nil => exact .refl _
  | cons e r ih =>
    simp only [keys, List.map_cons, List.mem_cons, not_or] at h
    simp only [insert, h.1, ↓reduceIte]
    split
    · exact .refl _
    · exact ((ih h.2).cons e).trans (.swap _ _ _)

theorem perm_foldl {entries m : List (String × α)} (h : (keys (m ++ entries)).Nodup) :
    (entries.foldl (fun m e ↦ insert e.1 e.2 m) m).Perm (m ++ entries) := by
  induction entries generalizing m with
  | nil => simp
  | cons e r ih =>
    have hmove : (m ++ e :: r).Perm (e :: m ++ r) := List.perm_middle
    have hnodup : (keys (e :: m ++ r)).Nodup := (hmove.map Prod.fst).nodup_iff.1 h
    have hfree : e.1 ∉ keys m := by
      simp only [keys, List.cons_append, List.map_cons, List.map_append, List.nodup_cons,
        List.mem_append, not_or] at hnodup ⊢
      exact hnodup.1.1
    have hinsert : (insert e.1 e.2 m ++ r).Perm (e :: m ++ r) := (perm_insert hfree e.2).append_right r
    exact (ih ((hinsert.map Prod.fst).nodup_iff.2 hnodup)).trans (hinsert.trans hmove.symm)

theorem perm_ofList {entries : List (String × α)} (h : (keys entries).Nodup) :
    (ofList entries).Perm entries :=
  perm_foldl (m := []) h

end ScriptEnv.Keyed
