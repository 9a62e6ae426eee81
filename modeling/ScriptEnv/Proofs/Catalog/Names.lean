import ScriptEnv.Catalog
import ScriptEnv.Proofs.Text.ByteOrder

namespace ScriptEnv

section Insertions

variable {κ α π : Type}

/-- Insertions one after another: the answer to each, and what they leave. -/
def insertions (insert : κ → String → π → Except Failure α × κ) (c : κ) :
    List (String × π) → List (Except Failure α) × κ
  | [] => ([], c)
  | (name, policy) :: calls =>
    let (answer, c) := insert c name policy
    let (answers, c) := insertions insert c calls
    (answer :: answers, c)

theorem insertions_of_refused {insert : κ → String → π → Except Failure α × κ} {f : Failure}
    (h : ∀ c name policy, insert c name policy = (.error f, c)) (c : κ) (calls : List (String × π)) :
    insertions insert c calls = (calls.map fun _ ↦ .error f, c) := by
  induction calls with
  | nil => rfl
  | cons call calls ih => simp only [insertions, h, ih, List.map_cons]

end Insertions

namespace Catalog

variable {kind : EntityKind} {names names' : List String} {n : String}

theorem insert_eq (c : Catalog kind) (name : String) (policy : kind.Policy) :
    c.insert name policy = (.error .managementUnavailable, c) := rfl

def ofNames (kind : EntityKind) (names : List String) : Catalog kind := ofList (names.map Entity.mk)

theorem mem_names_ofNames : n ∈ (ofNames kind names).names ↔ n ∈ names := by
  rw [Catalog.names, ofNames, ofList, Keyed.mem_keys_ofList, Keyed.keys, List.map_map, List.map_map]
  simp

theorem entries_ofNames :
    (ofNames kind names).entries = (ofNames kind names).names.map fun n ↦ (n, ⟨n⟩) := by
  rw [Catalog.names, Keyed.keys, List.map_map]
  refine (List.map_id _).symm.trans (List.map_congr_left ?_)
  intro e he
  have hgiven := Keyed.mem_of_mem_ofList he
  rw [List.map_map] at hgiven
  obtain ⟨n, -, rfl⟩ := List.mem_map.1 hgiven
  rfl

theorem toList_ofNames : (ofNames kind names).toList = (ofNames kind names).names.map Entity.mk := by
  rw [toList, Keyed.values, entries_ofNames, List.map_map]
  rfl

theorem mem_entries_ofNames {e : String × Entity kind} :
    e ∈ (ofNames kind names).entries ↔ e.1 ∈ names ∧ e = (e.1, ⟨e.1⟩) := by
  rw [entries_ofNames, List.mem_map]
  constructor
  · rintro ⟨n, hn, rfl⟩
    exact ⟨mem_names_ofNames.1 hn, rfl⟩
  · intro h
    exact ⟨e.1, mem_names_ofNames.2 h.1, h.2.symm⟩

theorem get?_ofNames (n : String) :
    (ofNames kind names).get? n = if n ∈ names then some ⟨n⟩ else none := by
  split
  · next hn =>
    apply Keyed.find?_eq_some_of_mem (ofNames kind names).sorted.nodup_keys
    exact mem_entries_ofNames.2 ⟨hn, rfl⟩
  · next hn => exact Keyed.find?_eq_none fun h ↦ hn (mem_names_ofNames.1 h)

theorem ofNames_eq_iff : ofNames kind names = ofNames kind names' ↔ ∀ n, n ∈ names ↔ n ∈ names' := by
  constructor
  · intro h n
    have hnames : n ∈ (ofNames kind names).names ↔ n ∈ (ofNames kind names').names := by rw [h]
    rwa [mem_names_ofNames, mem_names_ofNames] at hnames
  · intro h
    apply Catalog.ext
    apply (ofNames kind names).sorted.ext (ofNames kind names').sorted
    intro e
    rw [mem_entries_ofNames, mem_entries_ofNames, h]

/-- In all that it tells, a catalog is the set of some names in the order of their bytes. -/
structure Holds (c : Catalog kind) (names : List String) : Prop where
  ordered : c.names.Pairwise fun a b ↦ Text.utf8 a < Text.utf8 b
  members : ∀ n, n ∈ c.names ↔ n ∈ names
  iterated : c.toList = c.names.map Entity.mk
  size : c.size = c.names.length
  empty : c.isEmpty = true ↔ names = []
  found : ∀ n, c.get? n = if n ∈ names then some ⟨n⟩ else none
  contains : ∀ n, c.contains n = true ↔ n ∈ names

theorem ordered_names (c : Catalog kind) : c.names.Pairwise fun a b ↦ Text.utf8 a < Text.utf8 b := by
  apply List.pairwise_map.2
  exact c.sorted.imp Text.lt_iff_utf8_lt.1

theorem isEmpty_ofNames : (ofNames kind names).isEmpty = true ↔ names = [] := by
  rw [isEmpty, entries_ofNames, List.isEmpty_map, List.isEmpty_iff, List.eq_nil_iff_forall_not_mem,
    List.eq_nil_iff_forall_not_mem]
  simp only [mem_names_ofNames]

theorem contains_ofNames (n : String) : (ofNames kind names).contains n = true ↔ n ∈ names := by
  rw [contains, get?_ofNames]
  split <;> simp_all

theorem holds_ofNames (kind : EntityKind) (names : List String) : (ofNames kind names).Holds names where
  ordered := ordered_names _
  members _ := mem_names_ofNames
  iterated := toList_ofNames
  size := (List.length_map _).symm
  empty := isEmpty_ofNames
  found := get?_ofNames
  contains := contains_ofNames

end Catalog

namespace ScriptCatalog

def ofNames (names : List String) (current : String) : ScriptCatalog := ⟨.ofNames .script names, current⟩

theorem ofNames_eq_iff {names names' : List String} {current : String} :
    ofNames names current = ofNames names' current ↔ ∀ n, n ∈ names ↔ n ∈ names' := by
  rw [ofNames, ofNames, mk.injEq, Catalog.ofNames_eq_iff]
  exact and_iff_left rfl

theorem insert_eq (c : ScriptCatalog) (name : String) (policy : OnDuplicate) :
    c.insert name policy = (.error .managementUnavailable, c) := rfl

end ScriptCatalog

/-- A catalog is the ordered set of the names that it was built from and nothing else, before and after
any insertions, all of which are refused. The running script is looked up in it like any other. -/
theorem Catalog.ordered_set (names : List String) (current : String)
    (calls : List (String × OnDuplicate)) :
    (∀ kind : EntityKind, (ofNames kind names).Holds names ∧
      (∀ names', ofNames kind names' = ofNames kind names ↔ ∀ n, n ∈ names' ↔ n ∈ names) ∧
      ∀ calls : List (String × kind.Policy), insertions insert (ofNames kind names) calls =
        (calls.map fun _ ↦ .error .managementUnavailable, ofNames kind names)) ∧
    (ScriptCatalog.ofNames names current).me? = (ofNames .script names).get? current ∧
    (∀ names', ScriptCatalog.ofNames names' current = .ofNames names current ↔
      ∀ n, n ∈ names' ↔ n ∈ names) ∧
    insertions ScriptCatalog.insert (.ofNames names current) calls =
      (calls.map fun _ ↦ .error .managementUnavailable, .ofNames names current) ∧
    Failure.managementUnavailable.isUnimplemented = true := by
  refine ⟨fun kind ↦ ⟨holds_ofNames kind names, fun names' ↦ ofNames_eq_iff, fun calls ↦ ?_⟩, rfl,
    fun names' ↦ ScriptCatalog.ofNames_eq_iff, ?_, rfl⟩
  · exact insertions_of_refused insert_eq _ calls
  · exact insertions_of_refused ScriptCatalog.insert_eq _ calls

example : (Catalog.ofNames .table ["é", "\uFFFF", "z", "🦀", "é"]).names = ["z", "é", "\uFFFF", "🦀"] := by
  decide

end ScriptEnv
