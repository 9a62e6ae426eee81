import ScriptEnv.Proofs.Json.Parsing
import ScriptEnv.Report

namespace ScriptEnv

open Json (Plain)

variable {d : Nat}

def Frame.FloatFree (f : Frame) : Prop := ∀ r ∈ f.rows, ∀ x, Cell.float x ∉ r

namespace Cell

theorem plain_byteItems (b : List UInt8) : Plain (d + 1) (byteItems b) := by
  refine .array (List.forall_mem_map.2 fun x _ ↦ .integer ?_ ?_)
  · have hlow : (-Number.twoTo 63 : Int) ≤ 0 := by decide
    exact Int.le_trans hlow (Int.natCast_nonneg x.toNat)
  · exact Int.ofNat_le.2 (Nat.le_trans (Nat.le_of_lt x.toNat_lt) (by decide))

theorem plain_plainJson {c : Cell} (h : ∀ x, c ≠ .float x) : Plain (d + 1) c.plainJson := by
  cases c with
  | null => exact .null
  | bool b => exact .bool
  | int n =>
    refine .integer n.le_toInt ?_
    have hhigh : (2 ^ 63 : Int) ≤ Json.wordMax := by decide
    exact Int.le_trans (Int.le_of_lt n.toInt_lt) hhigh
  | float x => exact absurd rfl (h x)
  | text s => exact .string
  | bytes b => exact plain_byteItems b

end Cell

namespace Frame

theorem plain_record (keys : List String) {row : List Cell} (h : ∀ x, Cell.float x ∉ row) :
    Plain (d + 2) (record keys row) := by
  refine .object (Keyed.sorted_ofList _) fun m hm ↦ ?_
  obtain ⟨-, hvalue⟩ := List.of_mem_zip (Keyed.mem_of_mem_ofList hm)
  obtain ⟨c, hc, heq⟩ := List.mem_map.1 hvalue
  rw [← heq]
  exact Cell.plain_plainJson fun x hx ↦ h x (hx ▸ hc)

theorem FloatFree.plain_records {f : Frame} (h : f.FloatFree) : Plain (d + 3) (.array f.records) :=
  .array (List.forall_mem_map.2 fun r hr ↦ plain_record f.recordKeys (h r hr))

end Frame

namespace Report

/-- The text for a frame without floats reads as its records, and the text for names as the names. -/
theorem json_reads_as_records :
    (∀ f : Frame, f.FloatFree → Json.parse (frame f .json) = .ok (.array f.records)) ∧
      ∀ ns : List String, Json.parse (names ns .json) = .ok (.array (ns.map .string)) := by
  constructor
  · intro f hf
    exact Json.parse_pretty (hf.plain_records (d := 124))
  · intro ns
    exact Json.parse_pretty (.array (d := 126) (List.forall_mem_map.2 fun _ _ ↦ .string))

def ragged : Frame :=
  ⟨[⟨"a", "INT8"⟩, ⟨"a", "TEXT"⟩, ⟨"\"\n", "BYTEA"⟩],
    [[.int (-9223372036854775808), .text "é😀\x01", .bytes [0, 255], .bool true], [.null], []], 7⟩

theorem json_reads_as_records_ragged :
    ragged.FloatFree ∧ Json.parse (frame ragged .json) = .ok (.array ragged.records) := by
  have hfree : ragged.FloatFree := by
    intro r hr x hx
    simp only [ragged, List.mem_cons, List.not_mem_nil, or_false] at hr
    rcases hr with rfl | rfl | rfl <;> simp at hx
  exact ⟨hfree, json_reads_as_records.1 ragged hfree⟩

end Report

end ScriptEnv
