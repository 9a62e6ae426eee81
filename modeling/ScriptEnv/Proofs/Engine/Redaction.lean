import ScriptEnv.Script.Step

namespace ScriptEnv

def Startup.redacted (u : Startup) : Startup := { u with password := u.password.map fun _ ↦ "" }

def Target.redacted (t : Target) : Target :=
  { t with password := "", url := ⟨[], false, [], none, none, none, [], none, none⟩ }

def Environment.redacted (e : Environment) : Environment := { e with target := e.target.redacted }

/-- What is left is the answer to this one password. -/
def Welcome.redacted (password : String) : Welcome → Welcome
  | asksPassword refusal? => asksPassword fun _ ↦ (refusal? password).map fun r ↦ .ofMessage r.message
  | w => w

def Server.redacted (password : String) (s : Server) : Server :=
  { s with welcomes := s.welcomes.map (·.redacted password) }

def Peer.redacted (password : String) : Peer → Peer
  | server s => server (s.redacted password)
  | peer => peer

theorem Welcome.answer_redacted (w : Welcome) (password password' : String) :
    (w.redacted password).answer password' = w.answer password := by
  cases w with
  | asksPassword refusal? =>
    simp only [redacted, answer]
    cases refusal? password <;> rfl
  | _ => rfl

theorem Welcome.asks_redacted (w : Welcome) (password : String) :
    (w.redacted password).asks = w.asks := by
  cases w <;> rfl

theorem Server.welcome_redacted (s : Server) (password : String) :
    (s.redacted password).welcome = (s.welcome.1.redacted password, s.welcome.2.redacted password) := by
  rcases s with ⟨_ | ⟨w, _ | ⟨w', ws⟩⟩, statements⟩ <;> rfl

theorem Connection.outcome_redacted (c : Connection) (peer : Peer) (password sql : String) :
    c.outcome (peer.redacted password) sql = c.outcome peer sql := by
  cases peer <;> rfl

namespace Session

/-- Without the password, as the server was told it and as it will answer to it. -/
def redacted (password : String) (s : Session) : Session :=
  { s with
    peer := s.peer.redacted password
    startups := s.startups.map Startup.redacted }

variable (t : Target) (password : String) (s : Session)

theorem record_redacted (level : Level) (source message : String) :
    (s.redacted password).record level source message =
      (s.record level source message).redacted password := rfl

theorem ensureEngine_redacted :
    (s.redacted password).ensureEngine t.redacted = (s.ensureEngine t).redacted password := by
  rcases s with ⟨_ | pool, _, _, _, _, _, _⟩ <;> rfl

theorem started_redacted (asked : Bool) :
    (s.redacted password).started asked t.redacted = (s.started asked t).redacted password := by
  cases asked <;> simp [started, redacted, Startup.redacted, Target.redacted]

theorem openConnection_redacted :
    (s.redacted t.password).openConnection t.redacted =
      ((s.openConnection t).1, (s.openConnection t).2.redacted t.password) := by
  rcases s with ⟨pool, peer, startups, slots, log, output, answers⟩
  cases peer with
  | noRoute reason => rfl
  | silent => rfl
  | server server =>
    have hstarted := started_redacted t t.password ⟨pool, .server server.welcome.2, startups, slots, log,
      output, answers⟩ server.welcome.1.asks
    unfold openConnection
    dsimp only [redacted, Peer.redacted]
    rw [Server.welcome_redacted, Welcome.answer_redacted, Welcome.asks_redacted]
    exact congrArg _ hstarted

theorem acquire_redacted :
    (s.redacted t.password).acquire t.redacted =
      ((s.acquire t).1, (s.acquire t).2.redacted t.password) := by
  have hpool : ∀ s : Session, (s.redacted t.password).pool = s.pool := fun _ ↦ rfl
  have htuning : t.redacted.tuning = t.tuning := rfl
  unfold acquire
  dsimp only
  rw [ensureEngine_redacted, openConnection_redacted, hpool, htuning]
  split
  · rfl
  · split
    · rfl
    · split
      · rfl
      · rcases (s.ensureEngine t).openConnection t with ⟨e | _, s'⟩ <;> rfl

theorem release_redacted (c : Connection) :
    (s.redacted password).release c = (s.release c).redacted password := by
  rcases s with ⟨_ | pool, _, _, _, _, _, _⟩ <;> rfl

theorem close_redacted : (s.redacted password).close = s.close.redacted password := by
  rcases s with ⟨_ | pool, _, _, _, _, _, _⟩ <;> rfl

end Session

section

variable {σ α : Type} {started : Nat → σ → σ} {acquire acquire' : σ → Except AcquireError α × σ}
  {retried : Nat → Nat → σ → σ} {f : σ → σ}

theorem attempt_map (hstarted : ∀ n s, started n (f s) = f (started n s))
    (hacquire : ∀ s, acquire' (f s) = ((acquire s).1, f (acquire s).2))
    (hretried : ∀ n d s, retried n d (f s) = f (retried n d s)) (left number delay : Nat) (s : σ) :
    attempt started acquire' retried left number delay (f s) =
      ((attempt started acquire retried left number delay s).1,
        f (attempt started acquire retried left number delay s).2) := by
  induction left generalizing number delay s with
  | zero => rfl
  | succ left ih =>
    rw [attempt, attempt, hstarted, hacquire]
    rcases acquire (started number s) with ⟨e | a, s'⟩
    · dsimp only
      split
      · rw [hretried, ih]
      · rfl
    · rfl

end

namespace Session

variable (password : String) (s : Session)

theorem connect_redacted (t : Target) :
    (s.redacted t.password).connect t.redacted =
      ((s.connect t).1, (s.connect t).2.redacted t.password) := by
  unfold connect attempts
  exact attempt_map (fun _ s ↦ s.record_redacted _ _ _ _) (acquire_redacted t)
    (fun _ _ s ↦ s.record_redacted _ _ _ _) maxAttempts 1 firstDelay s

theorem emptySlot_redacted (slot : Nat) :
    (s.redacted password).emptySlot slot = (s.emptySlot slot).redacted password := rfl

theorem releaseSlot_redacted (slot : Nat) :
    (s.redacted password).releaseSlot slot = (s.releaseSlot slot).redacted password := by
  have hslot : (s.redacted password).slot? slot = s.slot? slot := rfl
  unfold releaseSlot
  rw [hslot]
  cases s.slot? slot with
  | none => rfl
  | some c =>
    dsimp only
    rw [emptySlot_redacted, release_redacted]

theorem keep_redacted (slot : Nat) (c : Connection) :
    (s.redacted password).keep slot c = (s.keep slot c).redacted password := by
  unfold keep
  dsimp only
  rw [releaseSlot_redacted]
  rfl

theorem releaseAll_redacted : (s.redacted password).releaseAll = s.releaseAll.redacted password := by
  have hfold : ∀ (slots : List (Nat × Connection)) (s : Session),
      slots.foldl (fun s e ↦ s.releaseSlot e.1) (s.redacted password) =
        (slots.foldl (fun s e ↦ s.releaseSlot e.1) s).redacted password := by
    intro slots
    induction slots with
    | nil => intro s; rfl
    | cons e slots ih =>
      intro s
      rw [List.foldl_cons, List.foldl_cons, releaseSlot_redacted, ih]
  exact hfold s.slots s

end Session

end ScriptEnv
