import ScriptEnv.Proofs.Script.Accounting

namespace ScriptEnv

namespace Session

variable {t : Target} {s : Session}

theorem hasEngine_release (s : Session) (c : Connection) : (s.release c).hasEngine = s.hasEngine := by
  rcases s with ⟨_ | pool, _, _, _, _, _, _⟩ <;> rfl

theorem hasEngine_close (s : Session) : s.close.hasEngine = s.hasEngine := by
  rcases s with ⟨_ | pool, _, _, _, _, _, _⟩ <;> rfl

theorem hasEngine_releaseSlot (s : Session) (slot : Nat) :
    (s.releaseSlot slot).hasEngine = s.hasEngine := by
  unfold releaseSlot
  cases s.slot? slot with
  | none => rfl
  | some c => exact hasEngine_release _ c

theorem close_of_hasEngine_eq_false (h : s.hasEngine = false) : s.close = s := by
  rcases s with ⟨_ | pool, _, _, _, _, _, _⟩
  · rfl
  · cases h

end Session

theorem Demand.Connects.ne_nothing {d : Demand} (h : d.Connects) : d ≠ .nothing := by
  rintro rfl
  rcases h with h | h <;> cases h

theorem Effect.hasEngine_iff {t : Target} {d : Demand} {s s' : Session} (h : Effect t d s s') :
    s'.hasEngine = true ↔ s.hasEngine = true ∨ d ≠ .nothing := by
  induction h with
  | quiet s => simp
  | engine s => simp [(s.denied_ensureEngine t).hasEngine]
  | close s => simp [s.hasEngine_close]
  | release slot s => simp [s.hasEngine_releaseSlot]
  | statement => simp [Session.setSlot, Session.hasEngine]
  | denied hd hc => exact iff_of_true (Session.connect_eq_error hc).hasEngine (.inr hd.ne_nothing)
  | visited message o hc =>
    have hengine := (Session.connect_eq_ok hc).hasEngine
    refine iff_of_true ?_ (.inr (Demand.Connects.ne_nothing (.inl rfl)))
    rw [Session.hasEngine_release]
    exact hengine
  | kept slot message hc =>
    have hengine := (Session.connect_eq_ok hc).hasEngine
    refine iff_of_true ?_ (.inr (Demand.Connects.ne_nothing (.inr rfl)))
    exact (Session.hasEngine_releaseSlot _ slot).trans hengine
  | noted before after answers h ih => exact ih

theorem Step.hasEngine_after_iff (e : Environment) (s : Session) (steps : List Step) :
    (after e s steps).hasEngine = true ↔
      s.hasEngine = true ∨ ∃ step ∈ steps, step.demand ≠ .nothing := by
  induction steps generalizing s with
  | nil => simp [after]
  | cons step steps ih =>
    have hstep := (next_effect e s step).hasEngine_iff
    have hsteps := ih (next e s step)
    rw [hstep, or_assoc] at hsteps
    simp only [List.mem_cons, exists_eq_or_imp]
    exact hsteps

namespace Session

variable {t : Target} {s s' : Session}

def Closed (s : Session) : Prop := ∃ pool, s.pool = some pool ∧ pool.closed = true

theorem Closed.hasEngine (h : s.Closed) : s.hasEngine = true := by
  obtain ⟨pool, hpool, -⟩ := h
  rw [Session.hasEngine, hpool]
  rfl

theorem Closed.ensureEngine (h : s.Closed) : s.ensureEngine t = s := by
  obtain ⟨pool, hpool, -⟩ := h
  unfold Session.ensureEngine
  rw [hpool]

theorem Closed.acquire (h : s.Closed) : s.acquire t = (.error .closed, s) := by
  obtain ⟨pool, hpool, hclosed⟩ := id h
  unfold Session.acquire
  dsimp only
  rw [h.ensureEngine, hpool, Option.getD_some, if_pos hclosed]

theorem isFinal_closed : @isFinal Connection (.error .closed) = true := by decide

theorem Closed.connect (h : s.Closed) : s.connect t = (.error .closed, s.announce 1) := by
  have hacquire : (s.announce 1).acquire t = (.error .closed, s.announce 1) := Closed.acquire h
  have hfinal : isFinal ((s.announce 1).acquire t).1 = true := by
    rw [hacquire]
    exact isFinal_closed
  rw [connect_eq_attempts, ← hacquire]
  exact attempt_of_final (.inr hfinal)

/-- The engine is closed, no slot holds a connection of it, and since that was so nobody has been
asked for one or warned. -/
structure ShutSince (before s : Session) : Prop where
  closed : s.Closed
  slots : s.slots = []
  peer : s.peer = before.peer
  startups : s.startups = before.startups
  warnings : s.warnings = before.warnings

theorem ShutSince.close {before : Session} (h : s.hasEngine = true) (hslots : s.slots = [])
    (hpeer : s.peer = before.peer) (hstartups : s.startups = before.startups)
    (hwarnings : s.warnings = before.warnings) : ShutSince before s.close := by
  rcases s with ⟨_ | pool, _, _, _, _, _, _⟩
  · cases h
  · exact ⟨⟨_, rfl, rfl⟩, hslots, hpeer, hstartups, hwarnings⟩

theorem ShutSince.noted {before : Session} (h : ShutSince before s) (output : String)
    (answers : List Answered) : ShutSince before { s with output := output, answers := answers } :=
  ⟨h.closed, h.slots, h.peer, h.startups, h.warnings⟩

theorem ShutSince.slot? {before : Session} (h : ShutSince before s) (slot : Nat) :
    s.slot? slot = none := by
  unfold Session.slot?
  rw [h.slots]
  rfl

end Session

open Session

theorem Effect.shutSince {t : Target} {d : Demand} {s₀ s s' : Session} (h : Effect t d s s')
    (hs : ShutSince s₀ s) : ShutSince s₀ s' := by
  induction h with
  | quiet s => exact hs
  | engine s =>
    rw [hs.closed.ensureEngine]
    exact hs
  | close s =>
    have hengine : s.hasEngine = true := hs.closed.hasEngine
    exact .close hengine hs.slots hs.peer hs.startups hs.warnings
  | release slot s =>
    unfold Session.releaseSlot
    rw [hs.slot? slot]
    exact hs
  | statement o hc =>
    rw [hs.slot?] at hc
    cases hc
  | @denied d e s s' hd hc =>
    rw [hs.closed.connect] at hc
    cases hc
    have hlevel : Level.debug ≠ .warn := by decide
    have hwarnings := s.warnings_record hlevel engineSource s!"Connection attempt {1} of {maxAttempts}"
    exact ⟨hs.closed, hs.slots, hs.peer, hs.startups, hwarnings.trans hs.warnings⟩
  | visited message o hc | kept slot message hc =>
    rw [hs.closed.connect] at hc
    cases hc
  | @noted d s s' before after answers h ih => exact (ih (hs.noted before s.answers)).noted after answers

theorem Step.shutSince_after (e : Environment) {s₀ s : Session} (h : ShutSince s₀ s)
    (steps : List Step) : ShutSince s₀ (after e s steps) := by
  induction steps generalizing s with
  | nil => exact h
  | cons step steps ih => exact ih ((next_effect e s step).shutSince h)

def closedFailure : Failure := .connection "attempted to acquire a connection on a closed pool"

theorem report_closed (t : Target) : AcquireError.closed.report t = closedFailure := by
  unfold AcquireError.report
  rw [if_neg (by decide), if_neg (by decide), if_neg (by decide), if_neg (by decide),
    if_neg (by decide)]
  rfl

section

variable (e : Environment) {s : Session} (h : s.Closed)

include h

theorem Environment.connect_run_of_closed :
    e.connect.run s = (.error (.error closedFailure), s.announce 1) := by
  unfold connect
  rw [Target.connect_run, h.connect, ← report_closed e.target]

theorem Environment.query_run_of_closed (sql : String) :
    (e.query sql).run s = (.error (.error closedFailure), s.announce 1) := by
  rw [query_run, h.connect, ← report_closed e.target]

theorem Builtin.handler_run_of_closed (b : Builtin) (format : Format) (hb : b.demand.Connects) :
    (b.handler format e).run s = (.error (.error (.failure closedFailure)), s.announce 1) := by
  cases b with
  | list kind => exact absurd rfl hb.ne_nothing
  | query sql => exact Action.raising_bind_run_of_error (e.query_run_of_closed h sql) _
  | dump table => exact Action.raising_bind_run_of_error (e.query_run_of_closed h _) _

theorem Step.run_of_closed (step : Step) (hstep : step.demand.Connects) :
    (step.run e).run s = (.error (.error (.failure closedFailure)), s.announce 1) := by
  cases step with
  | builtin b format =>
    change (printed (b.handler format e) >>= _ : Action Raised Answer).run s = _
    -- The output is set aside for the handler and put back, so nothing of that is left.
    have hhandler := b.handler_run_of_closed e (s := { s with output := "" }) h format hstep
    rw [Action.run_bind, printed_run, hhandler]
    rfl
  | connect slot => exact Action.raising_bind_run_of_error (e.connect_run_of_closed h) _
  | environmentQuery sql => exact Action.raising_bind_run_of_error (e.query_run_of_closed h sql) _
  | fetch table => exact Action.raising_bind_run_of_error (e.query_run_of_closed h _) _
  | _ => rcases hstep with hstep | hstep <;> cases hstep

end

/-- There is no engine at the start of a script, and there is one from the first step on that asks for
it or for a connection, whatever comes of that. As long as there is none, closing it changes nothing
for what follows. Once there is one and no slot holds a connection, closing it is final: every later
step that needs a connection fails after one attempt, and until then nobody has been warned and the
server has not heard of anybody. -/
theorem Step.engine_life_cycle (e : Environment) (peer : Peer) (steps : List Step) :
    let s := after e (Runner.announced e (.start peer)) steps
    (Runner.announced e (.start peer)).hasEngine = false ∧
      (s.hasEngine = true ↔ ∃ step ∈ steps, step.demand ≠ .nothing) ∧
      (s.hasEngine = false → (Step.close.run e).run s = (.ok (.word "closed"), s) ∧
        ∀ later : List Stage,
          (Step.close.run e >>= fun _ ↦ Stage.runAll e later).run s = (Stage.runAll e later).run s) ∧
      (s.hasEngine = true → s.slots = [] → ∀ later : List Step,
        let s' := after e s (.close :: later)
        s'.peer = s.peer ∧ s'.startups = s.startups ∧ s'.warnings = s.warnings ∧
          ∀ step : Step, step.demand.Connects → (step.run e).run s' =
            (.error (.error (.failure (.connection
                "attempted to acquire a connection on a closed pool"))),
              s'.record .debug engineSource "Connection attempt 1 of 3")) := by
  intro s
  refine ⟨rfl, ?_, ?_, ?_⟩
  · have hafter := hasEngine_after_iff e (Runner.announced e (.start peer)) steps
    have hstart : (Runner.announced e (.start peer)).hasEngine ≠ true := Bool.false_ne_true
    rwa [or_iff_right hstart] at hafter
  · intro hnone
    have hclose : (Step.close.run e).run s = (.ok (.word "closed"), s) := by
      change (modify Session.close >>= _ : Action Raised Answer).run s = _
      rw [Action.run_modify_bind, close_of_hasEngine_eq_false hnone]
      rfl
    refine ⟨hclose, fun later ↦ ?_⟩
    rw [Action.run_bind, hclose]
  · intro hengine hslots later s'
    have hclosed : ShutSince s s.close := .close hengine hslots rfl rfl rfl
    have hnext : ShutSince s (next e s .close) := hclosed.noted s.close.output _
    have hlater := shutSince_after e hnext later
    refine ⟨hlater.peer, hlater.startups, hlater.warnings, fun step hstep ↦ ?_⟩
    exact run_of_closed e hlater.closed step hstep

open Runner (announced nightlyEnvironment)
open Stage (obliging)

theorem Step.engine_life_cycle_reclosed :
    let early := after nightlyEnvironment (announced nightlyEnvironment (.start obliging)) [.inspect]
    let s := after nightlyEnvironment (announced nightlyEnvironment (.start obliging))
      [.close, .connect 0, .release 0]
    let s' := after nightlyEnvironment s [.close, .hasEngine]
    early.hasEngine = false ∧
      (Step.close.run nightlyEnvironment).run early = (.ok (.word "closed"), early) ∧
      s.hasEngine = true ∧ s.slots = [] ∧ s.startups.length = 1 ∧ s'.startups = s.startups ∧
      (environmentQuery "SELECT 1").demand.Connects ∧
      ((environmentQuery "SELECT 1").run nightlyEnvironment).run s' =
        (.error (.error (.failure (.connection
            "attempted to acquire a connection on a closed pool"))),
          s'.record .debug engineSource "Connection attempt 1 of 3") := by
  intro early s s'
  have hnone : early.hasEngine = false := by rfl
  have hengine : s.hasEngine = true := by rfl
  have hslots : s.slots = [] := by rfl
  have hconnects : (environmentQuery "SELECT 1").demand.Connects := .inl rfl
  obtain ⟨-, -, hclose, -⟩ := engine_life_cycle nightlyEnvironment obliging [.inspect]
  obtain ⟨-, -, -, hclosed⟩ :=
    engine_life_cycle nightlyEnvironment obliging [.close, .connect 0, .release 0]
  obtain ⟨-, hstartups, -, hfails⟩ := hclosed hengine hslots [.hasEngine]
  exact ⟨hnone, (hclose hnone).1, hengine, hslots, by rfl, hstartups, hconnects,
    hfails (environmentQuery "SELECT 1") hconnects⟩

end ScriptEnv
