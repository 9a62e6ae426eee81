import ScriptEnv.Proofs.Engine.Retry

namespace ScriptEnv

section

variable {σ α : Type} {started : Nat → σ → σ} {acquire : σ → Except AcquireError α × σ}
  {retried : Nat → Nat → σ → σ} {Inv : σ → Prop} {s : σ} {n : Nat}

theorem afterRetries_keeps (hstarted : ∀ n s, Inv s → Inv (started n s))
    (hretried : ∀ n delay s, Inv s → Inv (retried n delay s))
    (hfailed : ∀ s e s', Inv s → acquire s = (.error e, s') → Inv s') (h : Inv s)
    (hn : ∀ m < n, ∃ e, (met started acquire retried s m).1 = .error e) :
    Inv (started (n + 1) (afterRetries started acquire retried s n)) := by
  -- The last start is set aside, since it has another number in every case of the induction.
  refine hstarted (n + 1) _ ?_
  induction n with
  | zero => exact h
  | succ n ih =>
    obtain ⟨e, he⟩ := hn n (Nat.lt_succ_self n)
    have hbefore := hstarted (n + 1) _ (ih fun m hm ↦ hn m (Nat.lt_succ_of_lt hm))
    exact hretried _ _ _ (hfailed _ e _ hbefore (Prod.ext he rfl))

end

namespace Session

variable {t : Target} {s s' u : Session} {c : Connection} {e : AcquireError}

def checkedOut (s : Session) : Nat := (s.pool.getD newPool).held

def opened (s : Session) : Nat := (s.pool.getD newPool).held + (s.pool.getD newPool).idle

/-- The pool, as it is or will be on first use, and the connections in the slots. -/
def ledger (s : Session) : Pool × List (Nat × Connection) := (s.pool.getD newPool, s.slots)

theorem slots_of_ledger (h : u.ledger = s.ledger) : u.slots = s.slots := congrArg Prod.snd h

theorem checkedOut_of_ledger (h : u.ledger = s.ledger) : u.checkedOut = s.checkedOut :=
  congrArg (fun l ↦ l.1.held) h

theorem opened_of_ledger (h : u.ledger = s.ledger) : u.opened = s.opened :=
  congrArg (fun l ↦ l.1.held + l.1.idle) h

/-- One connection more is handed out, and the pool had room for it. -/
structure Lent (t : Target) (s s' : Session) : Prop where
  hasEngine : s'.hasEngine = true
  slots : s'.slots = s.slots
  checkedOut : s'.checkedOut = s.checkedOut + 1
  opened : s'.opened ≤ max s.opened t.tuning.poolSize

structure Denied (s s' : Session) : Prop where
  hasEngine : s'.hasEngine = true
  ledger : s'.ledger = s.ledger

theorem Lent.of_ledger (h : Lent t u s') (hu : u.ledger = s.ledger) : Lent t s s' where
  hasEngine := h.hasEngine
  slots := h.slots.trans (slots_of_ledger hu)
  checkedOut := by rw [h.checkedOut, checkedOut_of_ledger hu]
  opened := by
    rw [← opened_of_ledger hu]
    exact h.opened

theorem pool_ensureEngine (t : Target) (s : Session) :
    (s.ensureEngine t).pool = some (s.pool.getD newPool) := by
  unfold ensureEngine
  split
  · next hpool => rw [hpool, Option.getD_some]
  · next hpool => rw [hpool, Option.getD_none]

theorem slots_ensureEngine (t : Target) (s : Session) : (s.ensureEngine t).slots = s.slots := by
  unfold ensureEngine
  split <;> rfl

theorem peer_ensureEngine (t : Target) (s : Session) : (s.ensureEngine t).peer = s.peer := by
  unfold ensureEngine
  split <;> rfl

theorem denied_ensureEngine (t : Target) (s : Session) : Denied s (s.ensureEngine t) where
  hasEngine := by rw [hasEngine, pool_ensureEngine, Option.isSome_some]
  ledger := by rw [ledger, ledger, pool_ensureEngine, slots_ensureEngine, Option.getD_some]

theorem openConnection_frame (t : Target) (s : Session) :
    (s.openConnection t).2.pool = s.pool ∧ (s.openConnection t).2.slots = s.slots := by
  unfold openConnection
  split
  · exact ⟨rfl, rfl⟩
  · exact ⟨rfl, rfl⟩
  · exact ⟨rfl, rfl⟩

/-- What may come of an attempt: the engine is closed, or has nothing to give, or gives what waits, or
opens a connection, or fails to. -/
inductive Acquiring (t : Target) (s : Session) : Except AcquireError Connection × Session → Prop
  | closed (h : (s.pool.getD newPool).closed = true) :
      Acquiring t s (.error .closed, s.ensureEngine t)
  | starved (h : t.tuning.acquireTimeout = 0 ∨ t.tuning.poolSize ≤ s.checkedOut) :
      Acquiring t s (.error .timedOut, s.ensureEngine t)
  | reused (hroom : s.checkedOut < t.tuning.poolSize) (hidle : 0 < (s.pool.getD newPool).idle) :
      Acquiring t s (.ok ⟨t.tuning.queryTimeout, true⟩, (s.ensureEngine t).withPool
        { s.pool.getD newPool with
          held := s.checkedOut + 1
          idle := (s.pool.getD newPool).idle - 1 })
  | opened {s' : Session} (hroom : s.checkedOut < t.tuning.poolSize)
      (hidle : (s.pool.getD newPool).idle = 0)
      (h : (s.ensureEngine t).openConnection t = (.ok (), s')) :
      Acquiring t s (.ok ⟨t.tuning.queryTimeout, true⟩,
        s'.withPool { s.pool.getD newPool with held := s.checkedOut + 1 })
  | failed {e : AcquireError} {s' : Session}
      (h : (s.ensureEngine t).openConnection t = (.error e, s')) : Acquiring t s (.error e, s')

theorem acquiring (t : Target) (s : Session) : Acquiring t s (s.acquire t) := by
  have hpool := s.pool_ensureEngine t
  unfold acquire
  dsimp only
  rw [hpool, Option.getD_some]
  split
  · next hclosed => exact .closed hclosed
  split
  · next hstarved => exact .starved hstarved
  next hfull =>
    have hroom : s.checkedOut < t.tuning.poolSize := Nat.lt_of_not_le fun h ↦ hfull (.inr h)
    split
    · next hidle => exact .reused hroom hidle
    · next hidle =>
      split
      · next hopen => exact .opened hroom (Nat.eq_zero_of_not_pos hidle) hopen
      · next hopen => exact .failed hopen

theorem acquire_eq_ok (h : s.acquire t = (.ok c, s')) : Lent t s s' := by
  have hslots := s.slots_ensureEngine t
  have hacquiring := s.acquiring t
  rw [h] at hacquiring
  cases hacquiring with
  | reused hroom hidle =>
    refine ⟨rfl, hslots, rfl, Nat.le_trans ?_ (Nat.le_max_left _ _)⟩
    change s.checkedOut + 1 + ((s.pool.getD newPool).idle - 1) ≤
      s.checkedOut + (s.pool.getD newPool).idle
    omega
  | opened hroom hidle hopen =>
    obtain ⟨-, hslots'⟩ := (s.ensureEngine t).openConnection_frame t
    rw [hopen] at hslots'
    refine ⟨rfl, hslots'.trans hslots, rfl, Nat.le_trans ?_ (Nat.le_max_right _ _)⟩
    change s.checkedOut + 1 + (s.pool.getD newPool).idle ≤ t.tuning.poolSize
    omega

theorem acquire_eq_error (h : s.acquire t = (.error e, s')) : Denied s s' := by
  have hdenied := s.denied_ensureEngine t
  have hacquiring := s.acquiring t
  rw [h] at hacquiring
  cases hacquiring with
  | closed _ => exact hdenied
  | starved _ => exact hdenied
  | failed hopen =>
    obtain ⟨hpool, hslots⟩ := (s.ensureEngine t).openConnection_frame t
    rw [hopen] at hpool hslots
    refine ⟨?_, ?_⟩
    · rw [hasEngine, hpool]
      exact hdenied.hasEngine
    · rw [ledger, hpool, hslots]
      exact hdenied.ledger

def Served (s : Session) : Prop := ∃ server, s.peer = .server server

theorem served_openConnection (h : s.Served) : (s.openConnection t).2.Served := by
  obtain ⟨server, hserver⟩ := h
  unfold openConnection
  rw [hserver]
  exact ⟨_, rfl⟩

theorem openConnection_ne_timedOut (h : s.Served) : (s.openConnection t).1 ≠ .error .timedOut := by
  obtain ⟨server, hserver⟩ := h
  unfold openConnection
  rw [hserver]
  exact Welcome.answer_ne_timedOut _ _

theorem served_ensureEngine (h : s.Served) : (s.ensureEngine t).Served := by
  rw [Served, peer_ensureEngine]
  exact h

theorem served_acquire (h : s.Served) : (s.acquire t).2.Served := by
  have hengine : (s.ensureEngine t).Served := served_ensureEngine h
  have hopened : ((s.ensureEngine t).openConnection t).2.Served := served_openConnection hengine
  have hacquiring := s.acquiring t
  generalize s.acquire t = answer at hacquiring ⊢
  cases hacquiring with
  | closed _ => exact hengine
  | starved _ => exact hengine
  | reused _ _ => exact hengine
  | opened _ _ hopen =>
    rw [hopen] at hopened
    exact hopened
  | failed hopen =>
    rw [hopen] at hopened
    exact hopened

theorem acquire_ne_timedOut (h : s.Served) (ht : t.tuning.acquireTimeout ≠ 0)
    (hroom : s.checkedOut < t.tuning.poolSize) : (s.acquire t).1 ≠ .error .timedOut := by
  have hacquiring := s.acquiring t
  generalize s.acquire t = answer at hacquiring ⊢
  cases hacquiring with
  | closed | reused | opened => exact nofun
  | starved hstarved => exact (hstarved.elim ht (Nat.not_le_of_lt hroom)).elim
  | failed hopen =>
    rintro ⟨⟩
    exact openConnection_ne_timedOut (served_ensureEngine h) (congrArg Prod.fst hopen)

theorem slots_release (s : Session) (c : Connection) : (s.release c).slots = s.slots := by
  rcases s with ⟨_ | pool, _, _, _, _, _, _⟩ <;> rfl

theorem checkedOut_release (s : Session) (c : Connection) :
    (s.release c).checkedOut = s.checkedOut - 1 := by
  rcases s with ⟨_ | pool, _, _, _, _, _, _⟩ <;> rfl

theorem opened_release_le (s : Session) (c : Connection) (h : 0 < s.checkedOut) :
    (s.release c).opened ≤ s.opened := by
  rcases s with ⟨_ | pool, _, _, _, _, _, _⟩
  · exact Nat.le_refl 0
  · change 0 < pool.held at h
    change pool.held - 1 + (if c.alive && !pool.closed then pool.idle + 1 else pool.idle) ≤
      pool.held + pool.idle
    split <;> omega

theorem slots_close (s : Session) : s.close.slots = s.slots := by
  rcases s with ⟨_ | pool, _, _, _, _, _, _⟩ <;> rfl

theorem checkedOut_close (s : Session) : s.close.checkedOut = s.checkedOut := by
  rcases s with ⟨_ | pool, _, _, _, _, _, _⟩ <;> rfl

theorem opened_close_le (s : Session) : s.close.opened ≤ s.opened := by
  rcases s with ⟨_ | pool, _, _, _, _, _, _⟩
  · exact Nat.le_refl 0
  · exact Nat.add_le_add_left (Nat.zero_le _) _

structure Unlent (s u : Session) : Prop where
  ledger : u.ledger = s.ledger
  served : s.Served → u.Served

theorem Unlent.acquire (h : Unlent s u) (he : u.acquire t = (.error e, s')) : Unlent s s' where
  ledger := (acquire_eq_error he).ledger.trans h.ledger
  served hs := by
    have hserved := served_acquire (t := t) (h.served hs)
    rw [he] at hserved
    exact hserved

def FailedBefore (t : Target) (s : Session) (i : Nat) : Prop :=
  ∀ j, 1 ≤ j → j < i → ∃ e, (s.attemptMet t j).1 = .error e

/-- Between attempts that fail, pool and slots stay as they are. -/
theorem attemptMet_eq_acquire {i : Nat} (h : s.FailedBefore t i) :
    ∃ u, Unlent s u ∧ s.attemptMet t i = u.acquire t := by
  have hannounced : ∀ n u, Unlent s u → Unlent s (announce n u) := fun _ _ h ↦ ⟨h.ledger, h.served⟩
  have hwarned : ∀ n delay u, Unlent s u → Unlent s (warnRetry n delay u) :=
    fun _ _ _ h ↦ ⟨h.ledger, h.served⟩
  have hkept := afterRetries_keeps hannounced hwarned (fun _ _ _ h ↦ h.acquire) ⟨rfl, id⟩
    fun m (hm : m < i - 1) ↦ h (m + 1) (by omega) (by omega)
  exact ⟨_, hkept, rfl⟩

theorem connect_eq_attemptMet (t : Target) (s : Session) :
    ∃ i, s.FailedBefore t i ∧ s.connect t = s.attemptMet t i := by
  obtain ⟨n, hrun, hend⟩ := attempts_eq_met announce (acquire t) warnRetry s
  refine ⟨n + 1, fun j hj hjn ↦ ?_, hrun⟩
  have hpassing := hend.passing j hj hjn
  cases hmet : (s.attemptMet t j).1 with
  | ok c =>
    rw [← attemptMet, hmet] at hpassing
    cases hpassing
  | error e => exact ⟨e, rfl⟩

theorem connect_eq_ok (h : s.connect t = (.ok c, s')) : Lent t s s' := by
  obtain ⟨i, hfailed, hconnect⟩ := s.connect_eq_attemptMet t
  obtain ⟨u, ⟨hledger, -⟩, hacquire⟩ := attemptMet_eq_acquire hfailed
  exact (acquire_eq_ok ((hconnect.trans hacquire).symm.trans h)).of_ledger hledger

theorem connect_eq_error (h : s.connect t = (.error e, s')) : Denied s s' := by
  obtain ⟨i, hfailed, hconnect⟩ := s.connect_eq_attemptMet t
  obtain ⟨u, ⟨hledger, -⟩, hacquire⟩ := attemptMet_eq_acquire hfailed
  obtain ⟨hengine, hledger'⟩ := acquire_eq_error ((hconnect.trans hacquire).symm.trans h)
  exact ⟨hengine, hledger'.trans hledger⟩

theorem attemptMet_ne_timedOut (h : s.Served) (ht : t.tuning.acquireTimeout ≠ 0)
    (hroom : s.checkedOut < t.tuning.poolSize) {i : Nat} (hfailed : s.FailedBefore t i) :
    (s.attemptMet t i).1 ≠ .error .timedOut := by
  obtain ⟨u, ⟨hledger, hserved⟩, hacquire⟩ := attemptMet_eq_acquire hfailed
  rw [hacquire]
  refine acquire_ne_timedOut (hserved h) ht ?_
  rw [checkedOut_of_ledger hledger]
  exact hroom

theorem connect_ne_timedOut (h : s.Served) (ht : t.tuning.acquireTimeout ≠ 0)
    (hroom : s.checkedOut < t.tuning.poolSize) : (s.connect t).1 ≠ .error .timedOut := by
  obtain ⟨i, hfailed, hconnect⟩ := s.connect_eq_attemptMet t
  rw [hconnect]
  exact attemptMet_ne_timedOut h ht hroom hfailed

end Session

end ScriptEnv
