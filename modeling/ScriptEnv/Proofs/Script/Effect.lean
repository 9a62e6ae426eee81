import ScriptEnv.Proofs.Runner.Blind
import ScriptEnv.Proofs.Runner.Run

namespace ScriptEnv

inductive Demand
  | nothing
  | engine
  | visit
  | connection
  deriving DecidableEq, Repr

def Builtin.demand : Builtin → Demand
  | list _ => .nothing
  | query _ | dump _ => .visit

def Step.demand : Step → Demand
  | engine => .engine
  | builtin b _ => b.demand
  | connect _ => .connection
  | environmentQuery _ | fetch _ => .visit
  | _ => .nothing

def Demand.Connects (d : Demand) : Prop := d = .visit ∨ d = .connection

/-- What a step with this demand may make of a session. -/
inductive Effect (t : Target) : Demand → Session → Session → Prop
  | quiet (s : Session) : Effect t .nothing s s
  | engine (s : Session) : Effect t .engine s (s.ensureEngine t)
  | close (s : Session) : Effect t .nothing s s.close
  | release (slot : Nat) (s : Session) : Effect t .nothing s (s.releaseSlot slot)
  | statement {slot : Nat} {c : Connection} {s : Session} (o : Outcome) (h : s.slot? slot = some c) :
      Effect t .nothing s (s.setSlot slot (c.after o))
  | denied {d : Demand} {e : AcquireError} {s s' : Session} (hd : d.Connects)
      (h : s.connect t = (.error e, s')) : Effect t d s s'
  | visited {c : Connection} {s s' : Session} (message : String) (o : Outcome)
      (h : s.connect t = (.ok c, s')) :
      Effect t .visit s ((s'.record .debug engineSource message).release (c.after o))
  | kept {c : Connection} {s s' : Session} (slot : Nat) (message : String)
      (h : s.connect t = (.ok c, s')) :
      Effect t .connection s ((s'.record .debug engineSource message).keep slot c)
  | noted {d : Demand} {s s' : Session} (before after : String) (answers : List Answered)
      (h : Effect t d { s with output := before } s') :
      Effect t d s { s' with output := after, answers := answers }

namespace Action

theorem run_get_bind {ε α : Type} (f : Session → Action ε α) (s : Session) :
    (get >>= f : Action ε α).run s = (f s).run s := by
  rw [run_bind]
  rfl

theorem run_modify {ε : Type} (f : Session → Session) (s : Session) :
    (modify f : Action ε PUnit).run s = (.ok (), f s) := rfl

theorem run_modify_bind {ε α : Type} (f : Session → Session) (g : PUnit → Action ε α) (s : Session) :
    (modify f >>= g : Action ε α).run s = (g ()).run (f s) := by
  rw [run_bind, run_modify]

theorem run_lift_bind {ε α β : Type} (a : Action ε α) (f : Except (Halt ε) α → Action ε β)
    (s : Session) :
    (ExceptT.lift a.run >>= f : Action ε β).run s = (f (a.run s).1).run (a.run s).2 := by
  rw [run_bind]
  rfl

theorem run_map_snd {ε α β : Type} (a : Action ε α) (f : α → β) (s : Session) :
    ((a >>= fun x ↦ pure (f x)).run s).2 = (a.run s).2 := by
  rw [run_bind]
  rcases a.run s with ⟨_ | _, _⟩ <;> rfl

theorem raising_run_snd {α : Type} (a : Action Failure α) (s : Session) :
    (a.raising.run s).2 = (a.run s).2 := by
  rw [raising_run]
  rcases a.run s with ⟨(_ | _) | _, _⟩ <;> rfl

theorem raising_bind_run_of_error {α β : Type} {a : Action Failure α} {f : Failure} {s s' : Session}
    (h : a.run s = (.error (.error f), s')) (g : α → Action Raised β) :
    (a.raising >>= g : Action Raised β).run s = (.error (.error (.failure f)), s') := by
  rw [run_bind, raising_run, h]

end Action

open ScriptEnv.Action

variable (e : Environment) (s : Session)

theorem Environment.query_run (sql : String) :
    (e.query sql).run s =
      match s.connect e.target with
      | (.ok c, s) =>
        (c.queried (c.outcome s.peer sql),
          (s.record .debug engineSource s!"Acquired connection to {e.target.display}").release
            (c.after (c.outcome s.peer sql)))
      | (.error f, s) => (.error (.error (f.report e.target)), s) := by
  unfold query connect
  rw [run_bind, Target.connect_run]
  rcases s.connect e.target with ⟨f | c, s'⟩
  · rfl
  · dsimp only
    rw [run_get_bind, run_modify_bind, Action.run_ofExcept]
    rfl

theorem Environment.query_effect (sql : String) :
    Effect e.target .visit s ((e.query sql).run s).2 := by
  rw [query_run]
  rcases hconnect : s.connect e.target with ⟨f | c, s'⟩
  · exact .denied (.inl rfl) hconnect
  · exact .visited _ _ hconnect

theorem Effect.raised {t : Target} {d : Demand} {α β : Type} {a : Action Failure α}
    (h : Effect t d s (a.run s).2) (f : α → β) :
    Effect t d s ((a.raising >>= fun x ↦ pure (f x) : Action Raised β).run s).2 := by
  rw [run_map_snd, raising_run_snd]
  exact h

theorem Effect.print {t : Target} {d : Demand} {α : Type} {a : Action Raised α} {line : α → String}
    (h : Effect t d s (a.run s).2) :
    ∃ s', Effect t d s s' ∧
      ∃ o, ((a >>= fun x ↦ printLine (line x)).run s).2 = { s' with output := o } := by
  refine ⟨_, h, ?_⟩
  rw [run_bind]
  rcases a.run s with ⟨halt | x, s'⟩
  · exact ⟨s'.output, rfl⟩
  · exact ⟨_, rfl⟩

theorem Builtin.handler_effect (b : Builtin) (format : Format) :
    ∃ s', Effect e.target b.demand s s' ∧
      ∃ o, ((b.handler format e).run s).2 = { s' with output := o } := by
  cases b with
  | list kind => exact ⟨s, .quiet s, _, rfl⟩
  | query sql =>
    refine Effect.print s ?_
    rw [raising_run_snd]
    exact e.query_effect s sql
  | dump table =>
    refine Effect.print s ?_
    rw [raising_run_snd]
    exact e.query_effect s _

namespace Step

theorem statement_run {α : Type} (slot : Nat) (sql : String)
    (answer : Connection → Outcome → Except (Halt Failure) α) :
    (statement slot sql answer).run s =
      match s.slot? slot with
      | some c =>
        (answer c (c.outcome s.peer sql), s.setSlot slot (c.after (c.outcome s.peer sql)))
      | none => (.error .panic, s) := by
  unfold statement held
  rw [run_bind, run_get_bind]
  cases s.slot? slot with
  | none => rfl
  | some c =>
    change (get >>= _ : Action Failure α).run s = _
    rw [run_get_bind, run_modify_bind, Action.run_ofExcept]

theorem statement_effect (t : Target) {α : Type} (slot : Nat) (sql : String)
    (answer : Connection → Outcome → Except (Halt Failure) α) :
    Effect t .nothing s ((statement slot sql answer).run s).2 := by
  rw [statement_run]
  cases hslot : s.slot? slot with
  | none => exact .quiet s
  | some c => exact .statement _ hslot

theorem printed_run (a : Action Raised Unit) :
    (printed a).run s =
      ((a.run { s with output := "" }).1.map fun _ ↦ (a.run { s with output := "" }).2.output,
        { (a.run { s with output := "" }).2 with output := s.output }) := by
  unfold printed
  rw [run_get_bind, run_modify_bind, run_lift_bind, run_get_bind, run_modify_bind]
  rcases a.run { s with output := "" } with ⟨_ | _, _⟩ <;> rfl

theorem connect_effect (slot : Nat) :
    Effect e.target .connection s ((run e (connect slot)).run s).2 := by
  change Effect _ _ _ ((e.target.connect.raising >>= _ : Action Raised Answer).run s).2
  rw [run_bind, raising_run, Target.connect_run]
  rcases hconnect : s.connect e.target with ⟨f | c, s'⟩
  · exact .denied (.inr rfl) hconnect
  · exact .kept slot _ hconnect

/-- What a step asks of the engine, and what it can do to a session. -/
theorem effect (step : Step) : Effect e.target step.demand s ((step.run e).run s).2 := by
  cases step with
  | inspect => exact .quiet s
  | hasEngine => exact .quiet s
  | engine => exact .engine s
  | insert kind name policy =>
    have hrun : ((run e (insert kind name policy)).run s).2 = s := by
      change ((Action.ofExcept _ >>= fun _ ↦ pure _ : Action Raised Answer).run s).2 = s
      rw [run_map_snd, Action.run_ofExcept]
    rw [hrun]
    exact .quiet s
  | builtin b format =>
    change Effect _ b.demand _ ((printed (b.handler format e) >>= fun x ↦ pure _).run s).2
    rw [run_map_snd, printed_run]
    obtain ⟨s', heffect, o, hs'⟩ := b.handler_effect e { s with output := "" } format
    rw [hs']
    have hnoted := Effect.noted "" s.output s'.answers heffect
    exact hnoted
  | raise r => exact .quiet s
  | close => exact .close s
  | connect slot => exact connect_effect e s slot
  | release slot => exact .release slot s
  | describe slot =>
    have hrun : ((run e (describe slot)).run s).2 = s := by
      change ((get >>= _ : Action Raised Answer).run s).2 = s
      rw [run_get_bind]
      cases s.slot? slot <;> rfl
    rw [hrun]
    exact .quiet s
  | touch slot =>
    have hrun : ((run e (touch slot)).run s).2 = s := by
      change ((held slot >>= fun _ ↦ pure _ : Action Raised Answer).run s).2 = s
      rw [run_map_snd]
      unfold held
      rw [run_get_bind]
      cases s.slot? slot <;> rfl
    rw [hrun]
    exact .quiet s
  | query slot sql => exact (statement_effect s e.target slot sql _).raised s _
  | execute slot sql => exact (statement_effect s e.target slot sql _).raised s _
  | environmentQuery sql => exact (e.query_effect s sql).raised s _
  | fetch table => exact (e.query_effect s _).raised s _

def next (e : Environment) (s : Session) (step : Step) : Session :=
  let (answered, s) := (step.run e).run s
  { s with answers := s.answers ++ [answered] }

def after (e : Environment) (s : Session) (steps : List Step) : Session := steps.foldl (next e) s

theorem next_effect (step : Step) : Effect e.target step.demand s (next e s step) := by
  have hnoted := Effect.noted s.output ((step.run e).run s).2.output
    (((step.run e).run s).2.answers ++ [((step.run e).run s).1]) (effect e s step)
  exact hnoted

end Step

namespace Stage

/-- A script leaves what its steps leave, up to the one whose failure ends it. -/
theorem runAll_run (stages : List Stage) :
    ∃ ran, ran <+: stages ∧ ((runAll e stages).run s).2 = Step.after e s (ran.map Stage.step) ∧
      ((∀ stage ∈ stages, stage.propagate = false) → ran = stages) := by
  induction stages generalizing s with
  | nil => exact ⟨[], List.prefix_rfl, rfl, fun _ ↦ rfl⟩
  | cons stage stages ih =>
    obtain ⟨ran, hran, hleft, hall⟩ := ih (Step.next e s stage.step)
    have hgoes : ∃ ran, ran <+: stage :: stages ∧
        ((runAll e stages).run (Step.next e s stage.step)).2 = Step.after e s (ran.map Stage.step) ∧
        ((∀ stage' ∈ stage :: stages, stage'.propagate = false) → ran = stage :: stages) := by
      refine ⟨stage :: ran, List.cons_prefix_cons.2 ⟨rfl, hran⟩, hleft, fun h ↦ ?_⟩
      rw [hall (List.forall_mem_cons.1 h).2]
    have hnext : Step.next e s stage.step = { ((stage.step.run e).run s).2 with
        answers := ((stage.step.run e).run s).2.answers ++ [((stage.step.run e).run s).1] } := rfl
    unfold runAll
    rw [run_lift_bind, run_modify_bind, ← hnext]
    -- The script ends here only with an error that it is to propagate; after a panic it goes on.
    rcases ((stage.step.run e).run s).1 with (r | _) | answer
    · dsimp only
      split
      · next hends =>
        refine ⟨[stage], List.cons_prefix_cons.2 ⟨rfl, List.nil_prefix⟩, rfl, fun h ↦ ?_⟩
        rw [(List.forall_mem_cons.1 h).1] at hends
        cases hends
      · exact hgoes
    · exact hgoes
    · exact hgoes

end Stage

end ScriptEnv
