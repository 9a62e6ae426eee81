import ScriptEnv.Proofs.Runner.Blind
import ScriptEnv.Proofs.Runner.Run
import ScriptEnv.Proofs.Target.Blame

namespace ScriptEnv

section

variable {ε α β : Type} {g : α → β} {x y : Except ε α}

/-- Results with the same image are one error, or are values with the same image. -/
theorem map_eq_map (h : x.map g = y.map g) :
    (∃ e, x = .error e ∧ y = .error e) ∨ ∃ a b, x = .ok a ∧ y = .ok b ∧ g a = g b := by
  cases x with
  | error e =>
    cases y with
    | error e' => exact .inl ⟨e, rfl, by rw [Except.error.inj h]⟩
    | ok b => cases h
  | ok a =>
    cases y with
    | error e => cases h
    | ok b => exact .inr ⟨a, b, rfl, rfl, Except.ok.inj h⟩

theorem eq_error_iff_of_map (h : x.map g = y.map g) (e : ε) : x = .error e ↔ y = .error e := by
  rcases map_eq_map h with ⟨e', rfl, rfl⟩ | ⟨a, b, rfl, rfl, -⟩
  · exact Iff.rfl
  · exact iff_of_false nofun nofun

end

namespace Target

variable (driver : Driver) (username password password' host : String) (port : UInt16)
  (database : String)

theorem redacted_build :
    (build driver username password host port database).map redacted =
      (build driver username password' host port database).map redacted := by
  unfold build
  cases hr : requireText [("username", username), ("host", host), ("database", database)] with
  | error f => simp only [bind, Except.bind, Except.map]
  | ok u =>
    have hu : ¬Text.Blank username := requireText_eq_ok.1 hr _ List.mem_cons_self
    have hparse : ∀ password, (Url.parse (urlText driver username password (bracketed host) port
        database)).map (fun _ ↦ ()) = Url.hostOutcome (bracketed host).toList :=
      fun _ ↦ parse_urlText _ _ _ _ _ hu
    simp only [bind, Except.bind]
    rcases map_eq_map ((hparse password).trans (hparse password').symm) with
      ⟨f, h, h'⟩ | ⟨url, url', h, h', -⟩
    · rw [h, h']
    · rw [h, h']
      rfl

variable {t t' : Target}

theorem describe_redacted (t : Target) : t.redacted.describe = t.describe := rfl

theorem display_redacted (t : Target) : t.redacted.display = t.display := rfl

theorem shown_eq_of_redacted (h : t.redacted = t'.redacted) :
    t.describe = t'.describe ∧ t.display = t'.display := by
  rw [← describe_redacted t, ← display_redacted t, h]
  exact ⟨describe_redacted t', display_redacted t'⟩

end Target

def Payload.withPassword (p : Payload) (password : String) : Payload := { p with password }

namespace Environment

variable (p : Payload) (password : String)

theorem redacted_target :
    p.target.map Target.redacted = (p.withPassword password).target.map Target.redacted := by
  have hbuild := Target.redacted_build p.driver p.username p.password password p.host p.port p.database
  unfold Payload.target Payload.withPassword
  simp only [bind, Except.bind]
  rcases map_eq_map hbuild with ⟨f, h, h'⟩ | ⟨t, t', h, h', ht⟩
  · rw [h, h']
  · rw [h, h']
    exact congrArg (fun t : Target ↦ Except.ok { t with tuning := p.tuning }) ht

theorem redacted_ofPayload :
    (ofPayload p).map redacted = (ofPayload (p.withPassword password)).map redacted := by
  have hvalidate : (p.withPassword password).validate = p.validate := rfl
  unfold ofPayload
  rw [hvalidate]
  cases p.validate with
  | error f => simp only [bind, Except.bind, Except.map]
  | ok u =>
    simp only [bind, Except.bind]
    rcases map_eq_map (redacted_target p password) with ⟨f, h, h'⟩ | ⟨t, t', h, h', ht⟩
    · rw [h, h']
    · rw [h, h']
      exact congrArg (fun t ↦ Except.ok (Environment.mk t p.scriptName)) ht

variable {p} {e : Environment}

theorem password_of_ofPayload (h : ofPayload p = .ok e) : e.target.password = p.password := by
  obtain ⟨-, -, h⟩ := bind_eq_ok.1 h
  obtain ⟨t, ht, h⟩ := bind_eq_ok.1 h
  obtain ⟨t', ht', hp⟩ := bind_eq_ok.1 ht
  obtain ⟨-, -, hbuild⟩ := bind_eq_ok.1 ht'
  dsimp only at hbuild
  split at hbuild
  · cases hbuild
    cases hp
    cases h
    rfl
  · cases hbuild

end Environment

/-- A server that tells neither of two passwords from the other. -/
def Peer.AlikeFor (peer : Peer) (password password' : String) : Prop :=
  ∀ server, peer = .server server → ∀ w ∈ server.welcomes, w.answer password = w.answer password'

section

variable {password password' : String}

theorem Welcome.redacted_eq {w : Welcome} (h : w.answer password = w.answer password') :
    w.redacted password = w.redacted password' := by
  cases w with
  | asksPassword refusal? =>
    have hsame : (refusal? password).map (fun r ↦ Refusal.ofMessage r.message) =
        (refusal? password').map fun r ↦ Refusal.ofMessage r.message := by
      simp only [answer] at h
      cases hp : refusal? password <;> cases hp' : refusal? password' <;> simp_all
    simp only [redacted, hsame]
  | _ => rfl

theorem Session.redacted_eq {s : Session} (h : s.peer.AlikeFor password password') :
    s.redacted password = s.redacted password' := by
  have hpeer : s.peer.redacted password = s.peer.redacted password' := by
    cases hs : s.peer with
    | server server =>
      have hwelcomes := List.map_congr_left fun w hw ↦ Welcome.redacted_eq (h server hs w hw)
      simp only [Peer.redacted, Server.redacted, hwelcomes]
    | _ => rfl
  rw [redacted, redacted, hpeer]

end

/-- Neither the password nor the URL is any part of what it does, not even by way of a connection. -/
def Handler.Indifferent (handler : Handler) : Prop :=
  ∀ e e' : Environment, e.redacted = e'.redacted → handler e = handler e'

theorem Builtin.indifferent_list (kind : EntityKind) (format : Format) :
    Handler.Indifferent (Builtin.handler (.list kind) format) := by
  have hredacted : ∀ e : Environment,
      Builtin.handler (.list kind) format e = Builtin.handler (.list kind) format e.redacted := by
    intro e
    cases kind <;> rfl
  intro e e' he
  rw [hredacted, he, ← hredacted]

namespace Runner

theorem log_redacted (s : Session) (password : String) : (s.redacted password).log = s.log := rfl

variable {handler : Handler}

theorem runPayload_of_indifferent (h : handler.Indifferent) (p : Payload) (password : String)
    (s : Session) :
    (runPayload handler p).run s = (runPayload handler (p.withPassword password)).run s := by
  have hannounced : ∀ e, announced e = announced e.redacted := fun _ ↦ rfl
  have hended : ∀ e, ended e = ended e.redacted := fun _ ↦ rfl
  rcases map_eq_map (Environment.redacted_ofPayload p password) with
    ⟨f, he, he'⟩ | ⟨e, e', he, he', hee⟩
  · rw [runPayload_run_of_error he, runPayload_run_of_error he']
  · rw [runPayload_run he, runPayload_run he', h e e' hee, hannounced e, hannounced e', hended e,
      hended e', hee]

theorem announced_redacted (e : Environment) (s : Session) (password : String) :
    (announced e s).redacted password = announced e.redacted (s.redacted password) := rfl

theorem ended_redacted (e : Environment) (password : String)
    (x : Except (Halt Raised) Unit × Session) :
    ended e.redacted (x.1, x.2.redacted password) =
      ((ended e x).1, (ended e x).2.redacted password) := by
  rcases x with ⟨(_ | _) | _, s⟩ <;> rfl

theorem runPayload_withPassword (hblind : handler.Blind) (p : Payload) (password : String)
    {s : Session} (halike : s.peer.AlikeFor p.password password) :
    ((runPayload handler p).run s).1 = ((runPayload handler (p.withPassword password)).run s).1 ∧
      ((runPayload handler p).run s).2.redacted p.password =
        ((runPayload handler (p.withPassword password)).run s).2.redacted password := by
  have hs := Session.redacted_eq halike
  rcases map_eq_map (Environment.redacted_ofPayload p password) with
    ⟨f, he, he'⟩ | ⟨e, e', he, he', hee⟩
  · rw [runPayload_run_of_error he, runPayload_run_of_error he']
    exact ⟨rfl, hs⟩
  · have hp : e.target.password = p.password := Environment.password_of_ofPayload he
    have hp' : e'.target.password = password := Environment.password_of_ofPayload he'
    have hstart : (announced e s).redacted e.target.password =
        (announced e' s).redacted e'.target.password := by
      rw [announced_redacted, announced_redacted, hee, hp, hp', hs]
    obtain ⟨hend, hrest⟩ := hblind e e' hee _ _ hstart
    rw [hp, hp'] at hrest
    have hended := ended_redacted e p.password ((handler e).run (announced e s))
    rw [hee, hend, hrest, ended_redacted e'] at hended
    rw [runPayload_run he, runPayload_run he']
    obtain ⟨hresult, hsession⟩ := Prod.mk.inj hended
    exact ⟨hresult.symm, hsession.symm⟩

def guarded (password : String) : Session :=
  .start (.server ⟨[.asksPassword fun sent ↦ if sent = password then none else
    some (.ofMessage "password authentication failed")], [("SELECT 1", .command "SELECT 1")]⟩)

def wrongPayload : Payload :=
  ⟨"kakapo", "wrong", "localhost", 5432, "kakapo_db", "nightly", .postgresql, .standard⟩

def askingPlan : Plan :=
  .take (.environmentQuery "SELECT 1") fun answered ↦ .stop (answered.map fun _ ↦ ())

def listing : Handler := Builtin.handler (.list .script) .text

-- A server that tells the passwords apart lets the log show which of them it was sent.
example :
    let last (secret : String) :=
      ((runPayload askingPlan.handler wrongPayload).run (guarded secret)).2.log.getLast?.map (·.message)
    last "wrong" = some "Script 'nightly' finished" ∧
      last "secret" = some "Creating engine for kakapo_db @ localhost:5432" := by
  decide +kernel

end Runner

end ScriptEnv
