import ScriptEnv.Proofs.Json.Frames
import ScriptEnv.Proofs.Json.Reading
import ScriptEnv.Proofs.Json.Splitting

namespace ScriptEnv.Json

open Number (decimalValue)

variable {α : Type} {s r w : List Char} {depth : Nat}

inductive Scalar : List Char → Json → Prop
  | natural {w : List Char} : Whole w → Scalar w (.integer (decimalValue w))
  | string {w : List Char} {t : String} : Spells w t → Scalar w (.string t)

def isScalar : Json → Bool
  | .integer n => 0 ≤ n
  | .string _ => true
  | _ => false

theorem numeral_scalar {negative : Bool} {v : Json} (hv : isScalar v = true)
    (h : (readNumber negative s).map (fun
      | (.whole n, r) => (Json.integer n, r)
      | (.float x, r) => (Json.number x, r)) = .ok (v, r)) :
    negative = false ∧ ∃ w, s = w ++ r ∧ Scalar w v := by
  obtain ⟨⟨x, r'⟩, hread, heq⟩ := map_eq_ok.1 h
  cases x with
  | whole n =>
    obtain ⟨rfl, rfl⟩ := Prod.mk.inj heq
    have hn : 0 ≤ n := of_decide_eq_true hv
    obtain ⟨w, hs, hw, hplain⟩ := readNumber_whole hread
    obtain ⟨hnegative, rfl⟩ | ⟨-, hpos, -, rfl⟩ := plain_eq_whole.1 hplain
    · exact ⟨hnegative, w, hs, .natural hw⟩
    · omega
  | float x =>
    obtain ⟨rfl, rfl⟩ := Prod.mk.inj heq
    exact absurd hv Bool.false_ne_true

theorem any_sound {v : Json} (hv : isScalar v = true) (h : any depth s = .ok (v, r)) :
    ∃ g w, s = g ++ (w ++ r) ∧ Gap g ∧ Scalar w v := by
  -- Words, lists and objects read as no scalar, so `v` cannot come from them.
  have hother : ∀ {β : Type} {x : Except Fault β} {f : β → Json × List Char} {r : List Char},
      (∀ b, isScalar (f b).1 = false) → x.map f ≠ .ok (v, r) := by
    intro β x f r hf h
    obtain ⟨b, -, heq⟩ := map_eq_ok.1 h
    have hb := hf b
    rw [heq, hv] at hb
    cases hb
  obtain ⟨g, hg, hs⟩ := exists_gap s
  suffices hscalar : ∃ w, skipSpace s = w ++ r ∧ Scalar w v by
    obtain ⟨w, hw, hscalar⟩ := hscalar
    exact ⟨g, w, by rw [hs, hw], hg, hscalar⟩
  unfold any value at h
  dsimp only at h
  split at h
  · cases h
  · exact absurd h (hother fun _ ↦ rfl)
  · exact absurd h (hother fun _ ↦ rfl)
  · exact absurd h (hother fun _ ↦ rfl)
  · next heq =>
    obtain ⟨⟨t, r'⟩, hread, hend⟩ := map_eq_ok.1 h
    obtain ⟨rfl, rfl⟩ := Prod.mk.inj hend
    obtain ⟨body, rfl, hbody⟩ := readString_sound hread
    rw [heq]
    exact ⟨quoted body, by simp [quoted], .string ⟨body, rfl, hbody⟩⟩
  · cases (numeral_scalar hv h).1
  · split at h
    · cases h
    · obtain ⟨_, hbody, -⟩ := enclosed_eq_ok.1 h
      exact absurd hbody (hother fun _ ↦ rfl)
  · split at h
    · cases h
    · obtain ⟨_, hbody, -⟩ := enclosed_eq_ok.1 h
      exact absurd hbody (hother fun _ ↦ rfl)
  · next heq =>
    split at h
    · obtain ⟨-, w, hw, hscalar⟩ := numeral_scalar hv h
      exact ⟨w, heq.trans hw, hscalar⟩
    · cases h

theorem any_whole {g : List Char} (hg : Gap g) (hw : Whole w) (hv : decimalValue w ≤ wordMax)
    (hr : Stops r) : any depth (g ++ (w ++ r)) = .ok (.integer (decimalValue w), r) := by
  have hread : readNumber false (w ++ r) = .ok (.whole (decimalValue w), r) := readAs_whole false hw hv r hr
  obtain ⟨c, t, rfl, hc⟩ := hw.exists_cons
  rw [List.cons_append] at hread ⊢
  unfold any value
  rw [skipSpace_append_cons hg (begins_of_isDigit hc).1]
  dsimp only
  split
  case h_9 heq =>
    obtain ⟨rfl, rfl⟩ := List.cons.inj heq
    rw [if_pos hc]
    exact map_eq_ok.2 ⟨_, hread, rfl⟩
  case h_1 heq => cases heq
  all_goals
    next heq => exact absurd (List.cons.inj heq).1 (ne_of_isDigit hc (by decide))

theorem any_string {g : List Char} {t : String} (hg : Gap g) (hw : Spells w t) (r : List Char) :
    any depth (g ++ (w ++ r)) = .ok (.string t, r) := by
  obtain ⟨body, rfl, hbody⟩ := hw
  unfold any value
  rw [quoted, List.cons_append, List.append_assoc, skipSpace_append_cons hg (by decide)]
  exact map_eq_ok.2 ⟨_, readString_complete hbody r, rfl⟩

def Alone (w s : List Char) : Prop := ∃ g g', s = g ++ (w ++ g') ∧ Gap g ∧ Gap g'

theorem readAll_eq_ok {read : Reader α} {R : List Char → α → Prop} (hread : Reads read R) {a : α} :
    readAll read s = .ok a ↔ ∃ w, Alone w s ∧ R w a := by
  constructor
  · intro h
    obtain ⟨⟨b, r⟩, hb, hend⟩ := bind_eq_ok.1 h
    obtain ⟨g, w, rfl, hg, hw⟩ := hread.sound hb
    obtain ⟨g', hg', hr⟩ := exists_gap r
    dsimp only at hend
    split at hend
    · next hnil =>
      cases hend
      exact ⟨w, ⟨g, g', by rw [hr, hnil, List.append_nil], hg, hg'⟩, hw⟩
    · cases hend
  · rintro ⟨w, ⟨g, g', rfl, hg, hg'⟩, hw⟩
    refine bind_eq_ok.2 ⟨_, hread.complete hg hw hg'.stops, ?_⟩
    dsimp only
    rw [hg'.skipSpace_eq_nil]

theorem decode_eq_ok {read : Reader α} {R : List Char → α → Prop} (hread : Reads read R) {s : String}
    {a : α} : decode read s = .ok a ↔ ∃ w, Alone w s.toList ∧ R w a := by
  rw [← readAll_eq_ok hread, decode]
  cases readAll read s.toList with
  | error f => exact iff_of_false (fun h ↦ by cases h) fun h ↦ by cases h
  | ok b =>
    change Except.ok b = Except.ok a ↔ _
    rw [Except.ok.injEq, Except.ok.injEq]

theorem Alone.unique {w' : List Char} (h : Alone w s) (h' : Alone w' s) (hw : Form w)
    (hw' : Form w') : w = w' := by
  obtain ⟨g, g₁, rfl, hg, hg₁⟩ := h
  obtain ⟨g', g₂, heq, hg', hg₂⟩ := h'
  exact (tokens_form.split hg hg' hw hw' hg₁.stops hg₂.stops heq).2.1

theorem Alone.head_eq {w' : List Char} {c d : Char} (h : Alone (c :: w) s) (h' : Alone (d :: w') s)
    (hc : isSpace c = false) (hd : isSpace d = false) : c = d := by
  obtain ⟨g, g₁, rfl, hg, -⟩ := h
  obtain ⟨g', g₂, heq, hg', -⟩ := h'
  have hskip := congrArg skipSpace heq
  rw [List.cons_append, List.cons_append, skipSpace_append_cons hg hc, skipSpace_append_cons hg' hd]
    at hskip
  exact (List.cons.inj hskip).1

end ScriptEnv.Json
