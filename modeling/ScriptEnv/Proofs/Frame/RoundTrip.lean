import ScriptEnv.Proofs.Frame.Stored
import ScriptEnv.Proofs.Report.Records

namespace ScriptEnv.Frame

variable {f g : Frame} {c c' : Cell}

theorem cellText_cellText_iff (h : ∀ x, c ≠ .float x) : CellText (cellText c) c' ↔ c = c' :=
  ⟨reads_cell.unique (cellText_self h), fun hc ↦ hc ▸ cellText_self h⟩

theorem forall₂_iff_eq {α : Type} {R : α → α → Prop} {as bs : List α}
    (h : ∀ a ∈ as, ∀ b, R a b ↔ a = b) : List.Forall₂ R as bs ↔ as = bs := by
  induction as generalizing bs with
  | nil => exact List.forall₂_nil_left_iff.trans eq_comm
  | cons a as ih =>
    obtain ⟨ha, has⟩ := List.forall_mem_cons.1 h
    rw [List.forall₂_cons_left_iff]
    constructor
    · rintro ⟨b, bs, hab, hrest, rfl⟩
      rw [(ha b).1 hab, (ih has).1 hrest]
    · rintro rfl
      exact ⟨a, as, (ha a).2 rfl, (ih has).2 rfl, rfl⟩

theorem FloatFree.rows_iff (h : f.FloatFree) {rs : List (List Cell)} :
    List.Forall₂ (List.Forall₂ fun c c' ↦ CellText (cellText c) c') f.rows rs ↔ f.rows = rs := by
  refine forall₂_iff_eq fun r hr rs ↦ forall₂_iff_eq fun c hc c' ↦ cellText_cellText_iff ?_
  rintro x rfl
  exact h r hr x hc

theorem FloatFree.ofJson_toJson_iff (h : f.FloatFree) : ofJson f.toJson = .ok g ↔
    f.elapsed < 2 ^ 128 ∧ g = { f with elapsed := f.elapsed % 2 ^ 64 } := by
  rw [Frame.ofJson_toJson_iff, h.rows_iff]
  obtain ⟨columns, rows, elapsed⟩ := g
  constructor
  · rintro ⟨rfl, rfl, hlt, rfl⟩
    exact ⟨hlt, rfl⟩
  · rintro ⟨hlt, hg⟩
    cases hg
    exact ⟨rfl, rfl, hlt, rfl⟩

/-- A frame without floats comes back from its text exactly if its time fits into 64 bits. -/
theorem floatFree_survives_json_iff (h : f.FloatFree) :
    ofJson f.toJson = .ok f ↔ f.elapsed < 2 ^ 64 := by
  rw [h.ofJson_toJson_iff]
  constructor
  · rintro ⟨-, hf⟩
    have helapsed : f.elapsed = f.elapsed % 2 ^ 64 := congrArg Frame.elapsed hf
    omega
  · intro hlt
    rw [Nat.mod_eq_of_lt hlt]
    exact ⟨by omega, rfl⟩

def uneven : Frame where
  columns := [⟨"a", "INT8"⟩, ⟨"a", ""⟩, ⟨"\"\\\n", "x😀"⟩]
  rows :=
    [[.int (-9223372036854775808), .int 9223372036854775807], [], [.null], [.bool true, .bool false],
      [.text "", .text "Null", .text "\x00é😀", .bytes [], .bytes [0, 127, 255]]]
  elapsed := 18446744073709551615

theorem floatFree_survives_json_uneven : uneven.FloatFree ∧ ofJson uneven.toJson = .ok uneven := by
  have hfree : uneven.FloatFree := by
    intro r hr x hx
    simp only [uneven, List.mem_cons, List.not_mem_nil, or_false] at hr
    rcases hr with rfl | rfl | rfl | rfl | rfl <;> simp at hx
  have htime : uneven.elapsed < 2 ^ 64 := by decide
  exact ⟨hfree, (floatFree_survives_json_iff hfree).2 htime⟩

end ScriptEnv.Frame
