import Mathlib.Data.Finset.Card
import ScriptEnv.Proofs.Engine.Lending
import ScriptEnv.Proofs.Runner.Reporting
import ScriptEnv.Proofs.Script.Effect

namespace ScriptEnv

namespace Session

variable {t : Target} {e : Environment} {d : Demand} {k slot : Nat} {s s' : Session} {c : Connection}

def occupied (s : Session) : Finset Nat := (s.slots.map Prod.fst).toFinset

theorem mem_occupied : slot ∈ s.occupied ↔ (s.slot? slot).isSome = true := by
  simp [occupied, slot?]

theorem occupied_releaseSlot (s : Session) (slot : Nat) :
    (s.releaseSlot slot).occupied = s.occupied.erase slot := by
  unfold releaseSlot
  cases hc : s.slot? slot with
  | none =>
    have hfree : slot ∉ s.occupied := by
      rw [mem_occupied, hc]
      exact Bool.false_ne_true
    exact (Finset.erase_eq_of_notMem hfree).symm
  | some c =>
    ext other
    dsimp only
    rw [occupied, slots_release]
    simp [occupied, emptySlot, and_comm]

theorem occupied_foldl_releaseSlot (l : List (Nat × Connection)) (s : Session) :
    (l.foldl (fun s e ↦ s.releaseSlot e.1) s).occupied = s.occupied \ (l.map Prod.fst).toFinset := by
  induction l generalizing s with
  | nil => exact Finset.sdiff_empty.symm
  | cons e l ih =>
    rw [List.foldl_cons, ih, occupied_releaseSlot, List.map_cons, List.toFinset_cons,
      Finset.sdiff_insert, Finset.erase_sdiff_comm]

theorem slots_releaseAll (s : Session) : s.releaseAll.slots = [] := by
  have hnone : s.releaseAll.occupied = ∅ := by
    unfold releaseAll
    rw [occupied_foldl_releaseSlot]
    exact Finset.sdiff_self s.occupied
  exact List.map_eq_nil_iff.1 ((List.toFinset_eq_empty_iff _).1 hnone)

/-- No slot is listed twice, so many of the connections that are handed out stand in no slot, and no
more are open than the pool may hold. -/
structure Balanced (t : Target) (k : Nat) (s : Session) : Prop where
  nodup : (s.slots.map Prod.fst).Nodup
  checkedOut : s.checkedOut = s.slots.length + k
  opened : s.opened ≤ t.tuning.poolSize

namespace Balanced

theorem of_ledger (h : Balanced t k s) (hs : s'.ledger = s.ledger) : Balanced t k s' where
  nodup := by
    rw [slots_of_ledger hs]
    exact h.nodup
  checkedOut := by rw [checkedOut_of_ledger hs, slots_of_ledger hs, h.checkedOut]
  opened := by
    rw [opened_of_ledger hs]
    exact h.opened

theorem record (h : Balanced t k s) (level : Level) (source message : String) :
    Balanced t k (s.record level source message) := h.of_ledger rfl

theorem start (t : Target) (peer : Peer) : Balanced t 0 (start peer) where
  nodup := List.nodup_nil
  checkedOut := rfl
  opened := Nat.zero_le _

theorem occupied_card (h : Balanced t 0 s) : s.checkedOut = s.occupied.card := by
  rw [h.checkedOut, occupied, List.toFinset_card_of_nodup h.nodup, List.length_map, Nat.add_zero]

theorem checkedOut_le (h : Balanced t k s) : s.checkedOut ≤ t.tuning.poolSize :=
  Nat.le_trans (Nat.le_add_right _ _) h.opened

theorem connected (h : Balanced t k s) (hc : s.connect t = (.ok c, s')) : Balanced t (k + 1) s' := by
  obtain ⟨-, hslots, hchecked, hopened⟩ := connect_eq_ok hc
  refine ⟨?_, ?_, ?_⟩
  · rw [hslots]
    exact h.nodup
  · rw [hchecked, hslots, h.checkedOut, Nat.add_assoc]
  · exact Nat.le_trans hopened (Nat.max_le.2 ⟨h.opened, Nat.le_refl _⟩)

theorem release (h : Balanced t (k + 1) s) (c : Connection) : Balanced t k (s.release c) := by
  have hheld : 0 < s.checkedOut := by
    rw [h.checkedOut]
    exact Nat.succ_pos _
  refine ⟨?_, ?_, ?_⟩
  · rw [slots_release]
    exact h.nodup
  · rw [checkedOut_release, slots_release, h.checkedOut]
    rfl
  · exact Nat.le_trans (opened_release_le s c hheld) h.opened

theorem close (h : Balanced t k s) : Balanced t k s.close := by
  refine ⟨?_, ?_, ?_⟩
  · rw [slots_close]
    exact h.nodup
  · rw [checkedOut_close, slots_close, h.checkedOut]
  · exact Nat.le_trans (opened_close_le s) h.opened

theorem setSlot (h : Balanced t k s) (slot : Nat) (c : Connection) :
    Balanced t k (s.setSlot slot c) := by
  have hkeys : (s.setSlot slot c).slots.map Prod.fst = s.slots.map Prod.fst := by
    unfold Session.setSlot
    rw [List.map_map]
    refine List.map_congr_left fun e _ ↦ ?_
    dsimp only [Function.comp_apply]
    split
    · next he => exact he.symm
    · rfl
  refine ⟨?_, ?_, h.opened⟩
  · rw [hkeys]
    exact h.nodup
  · unfold Session.setSlot
    rw [List.length_map]
    exact h.checkedOut

theorem emptySlot (h : Balanced t k s) (hc : s.slot? slot = some c) :
    Balanced t (k + 1) (s.emptySlot slot) := by
  have hslot : slot ∈ s.slots.map Prod.fst := by
    rw [← List.mem_toFinset]
    exact mem_occupied.2 (by rw [hc]; rfl)
  have hone : s.slots.countP (·.1 = slot) = 1 := by
    have hcount := List.count_eq_one_of_mem h.nodup hslot
    rw [List.count, List.countP_map] at hcount
    exact hcount
  have hlength : s.slots.length = 1 + (s.emptySlot slot).slots.length := by
    rw [← hone, s.slots.length_eq_countP_add_countP (·.1 = slot)]
    change _ = _ + (s.slots.filter (·.1 ≠ slot)).length
    rw [← List.countP_eq_length_filter]
    simp only [decide_not, decide_eq_true_eq]
  refine ⟨h.nodup.sublist (List.filter_sublist.map Prod.fst), ?_, h.opened⟩
  have hchecked : (s.emptySlot slot).checkedOut = s.checkedOut := rfl
  rw [hchecked, h.checkedOut]
  omega

theorem releaseSlot (h : Balanced t k s) (slot : Nat) : Balanced t k (s.releaseSlot slot) := by
  unfold Session.releaseSlot
  cases hc : s.slot? slot with
  | none => exact h
  | some c => exact (h.emptySlot hc).release c

theorem keep (h : Balanced t (k + 1) s) (slot : Nat) (c : Connection) :
    Balanced t k (s.keep slot c) := by
  -- Emptying the slot first gives back what stood there; the connection to keep is still in no slot.
  obtain ⟨hnodup, hchecked, hopened⟩ := h.releaseSlot slot
  refine ⟨?_, ?_, hopened⟩
  · change ((s.releaseSlot slot).slots ++ [(slot, c)]).map Prod.fst |>.Nodup
    have hfresh : slot ∉ (s.releaseSlot slot).occupied := by
      rw [occupied_releaseSlot]
      exact Finset.notMem_erase slot s.occupied
    rw [occupied, List.mem_toFinset] at hfresh
    rw [List.map_append, List.map_singleton]
    exact hnodup.append (List.nodup_singleton slot) (List.disjoint_singleton.2 hfresh)
  · change (s.releaseSlot slot).checkedOut = ((s.releaseSlot slot).slots ++ [(slot, c)]).length + k
    rw [hchecked, List.length_append]
    change _ = _ + 1 + k
    omega

theorem effect (h : Balanced t 0 s) (he : Effect t d s s') : Balanced t 0 s' := by
  induction he with
  | quiet s => exact h
  | engine s => exact h.of_ledger (s.denied_ensureEngine t).ledger
  | close s => exact h.close
  | release slot s => exact h.releaseSlot slot
  | statement o hc => exact h.setSlot _ _
  | denied hd hc => exact h.of_ledger (connect_eq_error hc).ledger
  | visited message o hc =>
    have hrecorded := (h.connected hc).record .debug engineSource message
    exact hrecorded.release _
  | kept slot message hc =>
    have hrecorded := (h.connected hc).record .debug engineSource message
    exact hrecorded.keep slot _
  | noted before after answers he ih => exact (ih (h.of_ledger rfl)).of_ledger rfl

theorem after (h : Balanced e.target 0 s) (steps : List Step) :
    Balanced e.target 0 (Step.after e s steps) := by
  induction steps generalizing s with
  | nil => exact h
  | cons step steps ih => exact ih (h.effect (Step.next_effect e s step))

theorem runAll (h : Balanced e.target 0 s) (stages : List Stage) :
    Balanced e.target 0 ((Stage.runAll e stages).run s).2 := by
  obtain ⟨ran, -, hleft, -⟩ := Stage.runAll_run e s stages
  rw [hleft]
  exact h.after _

theorem releaseAll (h : Balanced t k s) : Balanced t k s.releaseAll := by
  unfold Session.releaseAll
  generalize s.slots = l
  induction l generalizing s with
  | nil => exact h
  | cons e l ih => exact ih (h.releaseSlot e.1)

end Balanced

end Session

theorem Effect.checkedOut_of_visit {t : Target} {d : Demand} {s s' : Session} (h : Effect t d s s')
    (hd : d = .visit) : s'.checkedOut = s.checkedOut := by
  induction h with
  | quiet | engine | close | release | statement | kept => cases hd
  | denied _ hc => exact Session.checkedOut_of_ledger (Session.connect_eq_error hc).ledger
  | @visited c s s' message o hc =>
    have hlent := (Session.connect_eq_ok hc).checkedOut
    change (Session.release _ _).checkedOut = _
    rw [Session.checkedOut_release]
    change s'.checkedOut - 1 = s.checkedOut
    rw [hlent, Nat.add_sub_cancel]
  | noted _ _ _ _ ih => exact ih hd

namespace Stage

open Session
open Runner (announced nightlyEnvironment)

variable (e : Environment) (peer : Peer) (stages : List Stage)

theorem balanced_runAll :
    Balanced e.target 0 ((runAll e stages).run (announced e (.start peer))).2 :=
  ((Balanced.start e.target peer).record _ _ _).runAll stages

theorem checkedOut_handler :
    ((handler stages e).run (announced e (.start peer))).2.checkedOut = 0 := by
  have hbalanced := (balanced_runAll e peer stages).releaseAll
  unfold handler
  rw [Action.run_lift_bind, Action.run_modify_bind, Action.run_ofExcept]
  rw [hbalanced.checkedOut, slots_releaseAll]
  rfl

/-- After every script, and so after each step of one, the connections handed out are as many as the
slots that hold one, and no more than the pool may hold; a step that asks for a connection of its own
gives it back in any case; and while fewer slots are held than the pool may hold, a server that
answers and an acquire timeout above zero rule out that an attempt ends in the timeout of the pool. -/
theorem connections_accounted (e : Environment) (peer : Peer) (stages : List Stage) :
    let s := ((runAll e stages).run (announced e (.start peer))).2
    s.checkedOut = s.occupied.card ∧ s.checkedOut ≤ e.target.tuning.poolSize ∧
      (∀ step : Step, step.demand = .visit → (step.next e s).checkedOut = s.checkedOut) ∧
      (e.target.tuning.acquireTimeout ≠ 0 → s.Served →
        s.occupied.card < e.target.tuning.poolSize →
        (s.connect e.target).1 ≠ .error .timedOut ∧
          ∀ i, s.FailedBefore e.target i → (s.attemptMet e.target i).1 ≠ .error .timedOut) := by
  intro s
  have hbalanced : s.Balanced e.target 0 := balanced_runAll e peer stages
  refine ⟨hbalanced.occupied_card, hbalanced.checkedOut_le, ?_, ?_⟩
  · intro step hstep
    exact (Step.next_effect e s step).checkedOut_of_visit hstep
  · intro htimeout hserved hfree
    rw [← hbalanced.occupied_card] at hfree
    refine ⟨connect_ne_timedOut hserved htimeout hfree, fun i hfailed ↦ ?_⟩
    exact attemptMet_ne_timedOut hserved htimeout hfree hfailed

def obliging : Peer := .server ⟨[], []⟩

def visiting : List Stage :=
  [⟨.connect 0, true⟩, ⟨.environmentQuery "SELECT 1", false⟩, ⟨.connect 3, true⟩]

theorem connections_accounted_visiting :
    let s := ((runAll nightlyEnvironment visiting).run
      (announced nightlyEnvironment (.start obliging))).2
    s.checkedOut = 2 ∧ s.occupied.card = 2 ∧
      (∀ sql, (Step.next nightlyEnvironment s (.environmentQuery sql)).checkedOut = 2) ∧
      nightlyEnvironment.target.tuning.acquireTimeout ≠ 0 ∧ s.Served ∧
      s.occupied.card < nightlyEnvironment.target.tuning.poolSize ∧
      (s.connect nightlyEnvironment.target).1 ≠ .error .timedOut ∧
      (s.attemptMet nightlyEnvironment.target 1).1 ≠ .error .timedOut := by
  intro s
  have hchecked : s.checkedOut = 2 := by rfl
  have hoccupied : s.occupied.card = 2 := by rfl
  have htimeout : nightlyEnvironment.target.tuning.acquireTimeout ≠ 0 := by decide
  have hserved : s.Served := ⟨⟨[], []⟩, by rfl⟩
  have hfree : s.occupied.card < nightlyEnvironment.target.tuning.poolSize := by
    rw [hoccupied]
    decide
  have hfirst : s.FailedBefore nightlyEnvironment.target 1 := fun j hj hlt ↦ by omega
  obtain ⟨-, -, hvisits, hconnects⟩ := connections_accounted nightlyEnvironment obliging visiting
  obtain ⟨hconnect, hattempts⟩ := hconnects htimeout hserved hfree
  exact ⟨hchecked, hoccupied, fun sql ↦ (hvisits (.environmentQuery sql) rfl).trans hchecked, htimeout,
    hserved, hfree, hconnect, hattempts 1 hfirst⟩

def hurried : Environment :=
  { nightlyEnvironment with
    target := { nightlyEnvironment.target with tuning := ⟨5, 0, 30⟩ } }

/-- With an acquire timeout of zero even the first connection times out. -/
theorem zero_timeout_times_out :
    let s := ((runAll hurried []).run (announced hurried (.start obliging))).2
    s.occupied.card < hurried.target.tuning.poolSize ∧ s.peer = .server ⟨[], []⟩ ∧
      (Server.welcome ⟨[], []⟩).1 = .accepts ∧ (s.connect hurried.target).1 = .error .timedOut := by
  refine ⟨by decide, by rfl, by rfl, by rfl⟩

end Stage

end ScriptEnv
