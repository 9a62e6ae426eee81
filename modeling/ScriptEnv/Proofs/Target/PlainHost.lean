import ScriptEnv.Proofs.Profile.Reading

namespace ScriptEnv.Target

open Url (Settled isSound)

def isPlain (c : Char) : Bool := c.isAlphanum || c == '-' || c == '_' || c == '.'

def PlainHost (host : String) : Prop := host ≠ "" ∧ ∀ c ∈ host.toList, isPlain c = true

instance (host : String) : Decidable (PlainHost host) :=
  have := List.decidableBAll (isPlain · = true) host.toList
  instDecidableAnd

def SoundHost (host : String) : Prop := host ≠ "" ∧ ∀ c ∈ host.toList, isSound c = true

instance (host : String) : Decidable (SoundHost host) :=
  have := List.decidableBAll (isSound · = true) host.toList
  instDecidableAnd

theorem isPlain_lt {c : Char} (h : isPlain c = true) : c.toNat < 128 := by
  unfold isPlain Char.isAlphanum Char.isAlpha Char.isUpper Char.isLower Char.isDigit at h
  simp only [Bool.or_eq_true, Bool.and_eq_true, decide_eq_true_eq, beq_iff_eq] at h
  rcases h with ((((⟨-, h⟩ | ⟨-, h⟩) | ⟨-, h⟩) | rfl) | rfl) | rfl
  · exact Nat.lt_of_le_of_lt h (by decide)
  · exact Nat.lt_of_le_of_lt h (by decide)
  · exact Nat.lt_of_le_of_lt h (by decide)
  · decide
  · decide
  · decide

theorem isSound_of_isPlain {c : Char} (h : isPlain c = true) : isSound c = true := by
  have hall : ∀ n < 128, isPlain (Char.ofNat n) = true → isSound (Char.ofNat n) = true := by decide
  have hc := hall c.toNat (isPlain_lt h)
  rw [Char.ofNat_toNat] at hc
  exact hc h

theorem PlainHost.sound {host : String} (h : PlainHost host) : SoundHost host :=
  ⟨h.1, fun c hc ↦ isSound_of_isPlain (h.2 c hc)⟩

theorem not_isBlank_of_isSound {c : Char} (h : isSound c = true) : Text.isBlank c = false := by
  obtain ⟨hallowed, hsettled⟩ := Url.isSound_iff.1 h
  have hspace : c.toNat ≠ ' '.toNat := by
    intro he
    rw [Char.toNat_inj.1 he] at hallowed
    exact absurd hallowed (by decide)
  have h32 : ' '.toNat = 32 := rfl
  simp only [Url.encodes, Url.controls, Bool.or_eq_false_iff, decide_eq_false_iff_not,
    beq_eq_false_iff_ne] at hsettled
  simp only [Text.isBlank, Bool.or_eq_false_iff, Bool.and_eq_false_iff, decide_eq_false_iff_not,
    beq_eq_false_iff_ne]
  omega

namespace SoundHost

variable {host : String} (h : SoundHost host)

include h

theorem toList_ne_nil : host.toList ≠ [] := by
  rw [Ne, ← String.toList_empty, String.toList_inj]
  exact h.1

theorem not_blank : ¬Text.Blank host := by
  intro hb
  obtain ⟨c, hm⟩ := List.exists_mem_of_ne_nil _ h.toList_ne_nil
  have hn := not_isBlank_of_isSound (h.2 c hm)
  rw [hb c hm] at hn
  exact Bool.false_ne_true hn.symm

theorem allowed : ∀ c ∈ host.toList, Url.forbiddenInHost c = false :=
  fun c hc ↦ (Url.isSound_iff.1 (h.2 c hc)).1

theorem settled : Settled Url.controls host.toList :=
  fun c hc ↦ (Url.isSound_iff.1 (h.2 c hc)).2

theorem notMem {c : Char} (hc : Url.forbiddenInHost c = true) : c ∉ host.toList :=
  Url.notMem_of_forall_false h.allowed hc

theorem bracketed_eq : bracketed host = host := by
  have hcolon : host.toList.contains ':' = false := by
    rw [List.contains_eq_mem, decide_eq_false (h.notMem (by decide))]
  unfold bracketed
  dsimp only
  rw [hcolon, if_neg]
  exact fun hc ↦ Bool.false_ne_true hc.1

theorem withoutBrackets_eq : Profile.withoutBrackets host.toList = host.toList :=
  Profile.withoutBrackets_eq_self (h.notMem (by decide)) (h.notMem (by decide))

end SoundHost

end ScriptEnv.Target
