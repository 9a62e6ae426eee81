import ScriptEnv.Proofs.Engine.Redaction

namespace ScriptEnv

open Session (redacted)

namespace Action

variable {ε α β : Type}

/-- The second action does to a session without the password what the first does to the session. -/
def MirroredBy (password : String) (a a' : Action ε α) : Prop :=
  ∀ s, a'.run (s.redacted password) = ((a.run s).1, (a.run s).2.redacted password)

variable {password : String} {a a' : Action ε α} {f f' : α → Action ε β}

theorem mirrored_pure (x : α) : (pure x : Action ε α).MirroredBy password (pure x) := fun _ ↦ rfl

theorem mirrored_throw (h : Halt ε) : (throw h : Action ε α).MirroredBy password (throw h) :=
  fun _ ↦ rfl

theorem mirrored_ofExcept (x : Except (Halt ε) α) : (ofExcept x).MirroredBy password (ofExcept x) := by
  cases x with
  | ok x => exact mirrored_pure x
  | error h => exact mirrored_throw h

theorem mirrored_modify {g g' : Session → Session}
    (h : ∀ s, g' (s.redacted password) = (g s).redacted password) :
    (modify g : Action ε PUnit).MirroredBy password (modify g') := by
  intro s
  have hrun : ∀ g s, (modify g : Action ε PUnit).run s = (.ok (), g s) := fun _ _ ↦ rfl
  rw [hrun, hrun, h]

theorem mirrored_modifyGet {g g' : Session → α × Session}
    (h : ∀ s, g' (s.redacted password) = ((g s).1, (g s).2.redacted password)) :
    (modifyGet g : Action ε α).MirroredBy password (modifyGet g') := by
  intro s
  rw [run_modifyGet, run_modifyGet, h]

theorem mirrored_bind (ha : a.MirroredBy password a') (hf : ∀ x, (f x).MirroredBy password (f' x)) :
    (a >>= f).MirroredBy password (a' >>= f') := by
  intro s
  rw [run_bind, run_bind, ha]
  rcases a.run s with ⟨e | x, s'⟩
  · rfl
  · exact hf x s'

theorem mirrored_get {f f' : Session → Action ε β}
    (h : ∀ s, (f s).MirroredBy password (f' (s.redacted password))) :
    (get >>= f).MirroredBy password (get >>= f') := by
  intro s
  have hrun : ∀ (f : Session → Action ε β) s, (get >>= f : Action ε β).run s = (f s).run s := by
    intro f s
    rw [run_bind]
    rfl
  rw [hrun, hrun]
  exact h s s

theorem mirrored_lift (h : a.MirroredBy password a') :
    @MirroredBy ε (Except (Halt ε) α) password (ExceptT.lift a.run) (ExceptT.lift a'.run) := by
  intro s
  have hrun : ∀ (a : Action ε α) s, ExceptT.run (ExceptT.lift a.run : Action ε _) s =
      (.ok (a.run s).1, (a.run s).2) := fun _ _ ↦ rfl
  rw [hrun, hrun, h]

theorem raising_run (a : Action Failure α) (s : Session) :
    a.raising.run s =
      match a.run s with
      | (.ok x, s) => (.ok x, s)
      | (.error (.error f), s) => (.error (.error (.failure f)), s)
      | (.error .panic, s) => (.error .panic, s) := by
  unfold raising
  simp only [ExceptT.run, ExceptT.mk, bind, StateT.bind]
  rcases a s with ⟨(_ | _) | _, _⟩ <;> rfl

theorem mirrored_releasing {a a' : Action Raised Unit} (h : a.MirroredBy password a') :
    (ExceptT.lift a.run >>= fun ended ↦
      modify Session.releaseAll >>= fun _ ↦ ofExcept ended : Action Raised Unit).MirroredBy password
      (ExceptT.lift a'.run >>= fun ended ↦ modify Session.releaseAll >>= fun _ ↦ ofExcept ended) := by
  refine mirrored_bind (mirrored_lift h) fun ended ↦ ?_
  refine mirrored_bind (mirrored_modify fun s ↦ ?_) fun _ ↦ mirrored_ofExcept ended
  exact s.releaseAll_redacted _

theorem mirrored_raising {a a' : Action Failure α} (h : a.MirroredBy password a') :
    a.raising.MirroredBy password a'.raising := by
  intro s
  rw [raising_run, raising_run, h]
  rcases a.run s with ⟨(_ | _) | _, _⟩ <;> rfl

end Action

open ScriptEnv.Action

theorem Target.mirrored_connect (t : Target) :
    t.connect.MirroredBy t.password t.redacted.connect := by
  unfold connect
  refine mirrored_bind (mirrored_modifyGet (Session.connect_redacted · t)) fun answer ↦ ?_
  cases answer with
  | ok c =>
    refine mirrored_bind (mirrored_modify fun s ↦ ?_) fun _ ↦ mirrored_pure c
    exact s.record_redacted _ _ _ _
  | error e => exact mirrored_throw (.error (e.report t))

variable (e : Environment) {password : String}

theorem Environment.mirrored_query (sql : String) :
    (e.query sql).MirroredBy e.target.password (e.redacted.query sql) := by
  unfold query
  refine mirrored_bind e.target.mirrored_connect fun c ↦ mirrored_get fun s ↦ ?_
  dsimp only [Session.redacted]
  rw [c.outcome_redacted]
  refine mirrored_bind (mirrored_modify fun s ↦ s.release_redacted _ _) fun _ ↦ ?_
  exact mirrored_ofExcept (c.queried (c.outcome s.peer sql))

theorem mirrored_printLine {ε : Type} (line : String) :
    (printLine line : Action ε Unit).MirroredBy password (printLine line) :=
  mirrored_modify fun _ ↦ rfl

theorem Builtin.mirrored_handler (b : Builtin) (format : Format) :
    (b.handler format e).MirroredBy e.target.password (b.handler format e.redacted) := by
  cases b with
  | list kind =>
    have hnames : entityNames e kind = entityNames e.redacted kind := by cases kind <;> rfl
    unfold handler
    dsimp only
    rw [hnames]
    exact mirrored_printLine _
  | query sql =>
    exact mirrored_bind (mirrored_raising (e.mirrored_query sql)) fun f ↦ mirrored_printLine _
  | dump table =>
    exact mirrored_bind (mirrored_raising (e.mirrored_query _)) fun f ↦ mirrored_printLine _

namespace Step

theorem mirrored_held {ε : Type} (slot : Nat) :
    (held slot : Action ε Connection).MirroredBy password (held slot) := by
  unfold held
  refine mirrored_get fun s ↦ ?_
  have hslot : (s.redacted password).slot? slot = s.slot? slot := rfl
  rw [hslot]
  cases s.slot? slot with
  | some c => exact mirrored_pure c
  | none => exact mirrored_throw .panic

theorem mirrored_statement {α : Type} (slot : Nat) (sql : String)
    (answer : Connection → Outcome → Except (Halt Failure) α) :
    (statement slot sql answer).MirroredBy password (statement slot sql answer) := by
  unfold statement
  refine mirrored_bind (mirrored_held slot) fun c ↦ mirrored_get fun s ↦ ?_
  dsimp only [Session.redacted]
  rw [c.outcome_redacted]
  exact mirrored_bind (mirrored_modify fun _ ↦ rfl) fun _ ↦ mirrored_ofExcept (answer c _)

theorem mirrored_printed {a a' : Action Raised Unit} (h : a.MirroredBy password a') :
    (printed a).MirroredBy password (printed a') := by
  unfold printed
  refine mirrored_get fun before ↦ mirrored_bind (mirrored_modify fun _ ↦ rfl) fun _ ↦ ?_
  refine mirrored_bind (mirrored_lift h) fun ended ↦ mirrored_get fun after ↦ ?_
  refine mirrored_bind (mirrored_modify fun _ ↦ rfl) fun _ ↦ ?_
  cases ended with
  | ok _ => exact mirrored_pure after.output
  | error h => exact mirrored_throw h

theorem mirrored_run {step : Step} (h : step ≠ .inspect) :
    (step.run e).MirroredBy e.target.password (step.run e.redacted) := by
  cases step with
  | inspect => exact absurd rfl h
  | hasEngine => exact mirrored_get fun s ↦ mirrored_pure _
  | engine =>
    refine mirrored_bind (mirrored_modify fun s ↦ ?_) fun _ ↦ mirrored_get fun s ↦ mirrored_pure _
    exact s.ensureEngine_redacted e.target _
  | insert kind name policy =>
    have hinsertion : insertion e name policy kind = insertion e.redacted name policy kind := by
      cases kind <;> rfl
    unfold run
    dsimp only
    rw [hinsertion]
    exact mirrored_bind (mirrored_ofExcept _) fun _ ↦ mirrored_pure _
  | builtin b format =>
    exact mirrored_bind (mirrored_printed (b.mirrored_handler e format)) fun _ ↦ mirrored_pure _
  | raise r => exact mirrored_throw (.error r)
  | close =>
    exact mirrored_bind (mirrored_modify fun s ↦ s.close_redacted _) fun _ ↦ mirrored_pure _
  | connect slot =>
    refine mirrored_bind (mirrored_raising e.target.mirrored_connect) fun c ↦ ?_
    exact mirrored_bind (mirrored_modify fun s ↦ s.keep_redacted _ slot c) fun _ ↦ mirrored_pure _
  | release slot =>
    exact mirrored_bind (mirrored_modify fun s ↦ s.releaseSlot_redacted _ slot) fun _ ↦ mirrored_pure _
  | describe slot =>
    refine mirrored_get fun s ↦ ?_
    have hslot : (s.redacted e.target.password).slot? slot = s.slot? slot := rfl
    rw [hslot]
    cases s.slot? slot <;> exact mirrored_pure _
  | touch slot => exact mirrored_bind (mirrored_held slot) fun _ ↦ mirrored_pure _
  | query slot sql =>
    exact mirrored_bind (mirrored_raising (mirrored_statement slot sql _)) fun _ ↦ mirrored_pure _
  | execute slot sql =>
    exact mirrored_bind (mirrored_raising (mirrored_statement slot sql _)) fun _ ↦ mirrored_pure _
  | environmentQuery sql =>
    exact mirrored_bind (mirrored_raising (e.mirrored_query sql)) fun _ ↦ mirrored_pure _
  | fetch table =>
    exact mirrored_bind (mirrored_raising (e.mirrored_query _)) fun _ ↦ mirrored_pure _

end Step

namespace Stage

variable {stages : List Stage}

theorem mirrored_runAll (h : ∀ stage ∈ stages, stage.step ≠ .inspect) :
    (runAll e stages).MirroredBy e.target.password (runAll e.redacted stages) := by
  induction stages with
  | nil => exact mirrored_pure ()
  | cons stage stages ih =>
    obtain ⟨hstage, hrest⟩ := List.forall_mem_cons.1 h
    have hrest := ih hrest
    unfold runAll
    refine mirrored_bind (mirrored_lift (Step.mirrored_run e hstage)) fun answered ↦ ?_
    refine mirrored_bind (mirrored_modify fun _ ↦ rfl) fun _ ↦ ?_
    rcases answered with (r | _) | _
    · dsimp only
      split
      · exact mirrored_throw (.error r)
      · exact hrest
    · exact hrest
    · exact hrest

theorem mirrored_handler (h : ∀ stage ∈ stages, stage.step ≠ .inspect) :
    (handler stages e).MirroredBy e.target.password (handler stages e.redacted) :=
  mirrored_releasing (mirrored_runAll e h)

end Stage

/-- A handler that decides by all answers so far what to do next and how to end. -/
inductive Plan
  | stop (ended : Except (Halt Raised) Unit)
  | take (step : Step) (next : Answered → Plan)

namespace Plan

def run (e : Environment) : Plan → Action Raised Unit
  | stop ended => Action.ofExcept ended
  | take step next => do run e (next (← ExceptT.lift (step.run e).run))

def handler (plan : Plan) : Handler := fun e ↦ do
  let ended ← ExceptT.lift (plan.run e).run
  modify Session.releaseAll
  Action.ofExcept ended

/-- Never, whatever the answers, does it ask for the environment with its URL. -/
inductive Unseeing : Plan → Prop
  | stop (ended : Except (Halt Raised) Unit) : Unseeing (.stop ended)
  | take {step : Step} {next : Answered → Plan} (h : step ≠ .inspect)
      (hnext : ∀ answered, Unseeing (next answered)) : Unseeing (.take step next)

theorem Unseeing.mirrored_run {plan : Plan} (h : plan.Unseeing) :
    (plan.run e).MirroredBy e.target.password (plan.run e.redacted) := by
  induction h with
  | stop ended => exact mirrored_ofExcept ended
  | take h _ ih => exact mirrored_bind (mirrored_lift (Step.mirrored_run e h)) ih

theorem Unseeing.mirrored_handler {plan : Plan} (h : plan.Unseeing) :
    (plan.handler e).MirroredBy e.target.password (plan.handler e.redacted) :=
  mirrored_releasing (h.mirrored_run e)

end Plan

/-- Runs that differ at most in passwords and URLs, against servers that do not tell the passwords
apart, end alike and leave sessions that differ at most in those. -/
def Handler.Blind (handler : Handler) : Prop :=
  ∀ e e' : Environment, e.redacted = e'.redacted → ∀ s s' : Session,
    s.redacted e.target.password = s'.redacted e'.target.password →
      ((handler e).run s).1 = ((handler e').run s').1 ∧
        ((handler e).run s).2.redacted e.target.password =
          ((handler e').run s').2.redacted e'.target.password

theorem Handler.blind_of_mirrored {handler : Handler}
    (h : ∀ e, (handler e).MirroredBy e.target.password (handler e.redacted)) : handler.Blind := by
  intro e e' he s s' hs
  have hrun := h e s
  have hrun' := h e' s'
  rw [← he, ← hs, hrun] at hrun'
  exact Prod.mk.inj hrun'

theorem Builtin.blind_handler (b : Builtin) (format : Format) : Handler.Blind (b.handler format) :=
  Handler.blind_of_mirrored fun e ↦ b.mirrored_handler e format

theorem Stage.blind_handler {stages : List Stage} (h : ∀ stage ∈ stages, stage.step ≠ .inspect) :
    Handler.Blind (handler stages) :=
  Handler.blind_of_mirrored fun e ↦ mirrored_handler e h

theorem Plan.blind_handler {plan : Plan} (h : plan.Unseeing) : Handler.Blind plan.handler :=
  Handler.blind_of_mirrored h.mirrored_handler

end ScriptEnv
