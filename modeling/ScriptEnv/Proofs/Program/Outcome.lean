import ScriptEnv.Program
import ScriptEnv.Proofs.Runner.Gate
import ScriptEnv.Proofs.Script.Printing

namespace ScriptEnv

open CommandLine (Invocation)

def Surroundings.settings (s : Surroundings) (i : Invocation) : Except Failure Settings :=
  let path := i.settingsPath s.environment s.accountHome
  Settings.ofFile path (s.file path)

namespace Program

variable {words : List String} {s : Surroundings} {i : Invocation} {profile : Profile}
  {payload : Payload} {format : Format} {e : Environment} {f : Failure} {session : Session}
  {text : String}

/-- All that is settled before the handler runs. -/
inductive Ready (i : Invocation) (s : Surroundings) : Profile → Payload → Format → Prop
  | intro {settings : Settings} {profile : Profile} {payload : Payload} {format : Format}
      (loaded : s.settings i = .ok settings)
      (resolved : i.resolve settings s.environment = .ok profile)
      (complete : profile.payload i.scriptName settings.tuning = .ok payload)
      (valid : Format.parse i.format = .ok format)
      (placed : ¬Target.Unplaceable payload.host) : Ready i s profile payload format

/-- The stage at which a run ends before its handler, with the failure it ends in. -/
inductive Refused (i : Invocation) (s : Surroundings) : Failure → Prop
  | settings {f : Failure} (h : s.settings i = .error f) : Refused i s f
  | connection {settings : Settings} {f : Failure} (loaded : s.settings i = .ok settings)
      (h : i.resolve settings s.environment = .error f) : Refused i s f
  | profile {settings : Settings} {profile : Profile} {f : Failure}
      (loaded : s.settings i = .ok settings)
      (resolved : i.resolve settings s.environment = .ok profile)
      (h : profile.payload i.scriptName settings.tuning = .error f) : Refused i s f
  | format {settings : Settings} {profile : Profile} {payload : Payload} {message : String}
      (loaded : s.settings i = .ok settings)
      (resolved : i.resolve settings s.environment = .ok profile)
      (complete : profile.payload i.scriptName settings.tuning = .ok payload)
      (h : Format.parse i.format = .error message) : Refused i s (.config message)
  | host {settings : Settings} {profile : Profile} {payload : Payload} {format : Format} {f : Failure}
      (loaded : s.settings i = .ok settings)
      (resolved : i.resolve settings s.environment = .ok profile)
      (complete : profile.payload i.scriptName settings.tuning = .ok payload)
      (valid : Format.parse i.format = .ok format)
      (h : Target.Unplaceable payload.host) (told : Environment.ofPayload payload = .error f) :
      Refused i s f

theorem valid_of_payload {scriptName : String} {tuning : Tuning}
    (h : profile.payload scriptName tuning = .ok payload) : payload.Valid := by
  unfold Profile.payload at h
  split at h
  · split at h
    · obtain ⟨⟨⟩, hvalid, h⟩ := bind_eq_ok.1 h
      cases h
      exact Payload.validate_eq_ok.1 hvalid
    · cases h
  · cases h

theorem refused_or_ready (i : Invocation) (s : Surroundings) :
    (∃ f, Refused i s f) ∨ ∃ profile payload format e, Ready i s profile payload format ∧
      Environment.ofPayload payload = .ok e := by
  cases loaded : s.settings i with
  | error f => exact .inl ⟨f, .settings loaded⟩
  | ok settings =>
    cases resolved : i.resolve settings s.environment with
    | error f => exact .inl ⟨f, .connection loaded resolved⟩
    | ok profile =>
      cases complete : profile.payload i.scriptName settings.tuning with
      | error f => exact .inl ⟨f, .profile loaded resolved complete⟩
      | ok payload =>
        cases valid : Format.parse i.format with
        | error message => exact .inl ⟨_, .format loaded resolved complete valid⟩
        | ok format =>
          by_cases placed : Target.Unplaceable payload.host
          · obtain ⟨detail, he⟩ :=
              Environment.ofPayload_of_unplaceable (valid_of_payload complete) placed
            exact .inl ⟨_, .host loaded resolved complete valid placed he⟩
          · obtain ⟨e, he, -⟩ := Environment.exists_ofPayload (valid_of_payload complete) placed
            exact .inr
              ⟨profile, payload, format, e, .intro loaded resolved complete valid placed, he⟩

def loading (i : Invocation) (s : Surroundings) : Session :=
  (Session.start s.peer).record .info programSource
    s!"Loading config from: {i.settingsPath s.environment s.accountHome}"

def resolving (i : Invocation) (s : Surroundings) (profile : Profile) : Session :=
  (loading i s).record .info programSource s!"Connection: {profile.display}"

def opening (i : Invocation) (s : Surroundings) (profile : Profile) (e : Environment) : Session :=
  Runner.announced e (resolving i s profile)

theorem log_bind_run {α : Type} (message : String) (g : Unit → Action Failure α) (s : Session) :
    (log message >>= g).run s = (g ()).run (s.record .info programSource message) :=
  Action.run_modify_bind _ g s

section Checked

variable {α β : Type} {x : Except Failure α} {a : α}

theorem checked_bind_run_of_ok (h : x = .ok a) (g : α → Action Failure β) (s : Session) :
    (checked x >>= g).run s = (g a).run s := by
  rw [h, checked, Action.run_bind, Action.run_ofExcept]
  rfl

theorem checked_bind_run_of_error (h : x = .error f) (g : α → Action Failure β) (s : Session) :
    (checked x >>= g).run s = (.error (.error f), s) := by
  rw [h, checked, Action.run_bind, Action.run_ofExcept]
  rfl

theorem checked_format_run {i : Invocation} {format : Format} (h : Format.parse i.format = .ok format)
    (g : Format → Action Failure β) (s : Session) :
    (checked ((Format.parse i.format).mapError .config) >>= g).run s = (g format).run s :=
  checked_bind_run_of_ok (by rw [h]; rfl) g s

end Checked

theorem execute_run (i : Invocation) (s : Surroundings) :
    (execute i s).run (.start s.peer) = (checked (s.settings i) >>= fun settings ↦
      checked (i.resolve settings s.environment) >>= fun profile ↦
      log s!"Connection: {profile.display}" >>= fun () ↦
      checked (profile.payload i.scriptName settings.tuning) >>= fun payload ↦
      checked ((Format.parse i.format).mapError .config) >>= fun format ↦
      Runner.runPayload (i.command.handler format) payload).run (loading i s) := rfl

theorem execute_run_of_complete {settings : Settings} (loaded : s.settings i = .ok settings)
    (resolved : i.resolve settings s.environment = .ok profile)
    (complete : profile.payload i.scriptName settings.tuning = .ok payload) :
    (execute i s).run (.start s.peer) = (checked ((Format.parse i.format).mapError .config) >>=
      fun format ↦ Runner.runPayload (i.command.handler format) payload).run (resolving i s profile) := by
  rw [execute_run, checked_bind_run_of_ok loaded, checked_bind_run_of_ok resolved, log_bind_run,
    checked_bind_run_of_ok complete]
  rfl

theorem Ready.execute_run (h : Ready i s profile payload format)
    (he : Environment.ofPayload payload = .ok e) : (execute i s).run (.start s.peer) =
      Runner.ended e ((i.command.handler format e).run (opening i s profile e)) := by
  obtain ⟨loaded, resolved, complete, valid, -⟩ := h
  rw [execute_run_of_complete loaded resolved complete, checked_format_run valid,
    Runner.runPayload_run he]
  rfl

/-- Nothing but records has come of a session, and no error is among them. -/
structure Untouched (peer : Peer) (session : Session) : Prop where
  recorded : ∃ records, session = { Session.start peer with log := records }
  heard : session.heard = ("", [])

theorem untouched_loading (i : Invocation) (s : Surroundings) : Untouched s.peer (loading i s) :=
  ⟨⟨_, rfl⟩, Session.heard_record _ (by simp) _ _⟩

theorem untouched_resolving (i : Invocation) (s : Surroundings) (profile : Profile) :
    Untouched s.peer (resolving i s profile) :=
  ⟨⟨_, rfl⟩, (Session.heard_record _ (by simp) _ _).trans (untouched_loading i s).heard⟩

theorem heard_opening (i : Invocation) (s : Surroundings) (profile : Profile) (e : Environment) :
    (opening i s profile e).heard = ("", []) :=
  (Session.heard_record _ (by simp) _ _).trans (untouched_resolving i s profile).heard

theorem Refused.execute_run (h : Refused i s f) : ∃ session,
    (execute i s).run (.start s.peer) = (.error (.error f), session) ∧
      Untouched s.peer session := by
  cases h with
  | settings h =>
    rw [Program.execute_run, checked_bind_run_of_error h]
    exact ⟨_, rfl, untouched_loading i s⟩
  | connection loaded h =>
    rw [Program.execute_run, checked_bind_run_of_ok loaded, checked_bind_run_of_error h]
    exact ⟨_, rfl, untouched_loading i s⟩
  | profile loaded resolved h =>
    rw [Program.execute_run, checked_bind_run_of_ok loaded, checked_bind_run_of_ok resolved,
      log_bind_run, checked_bind_run_of_error h]
    exact ⟨_, rfl, untouched_resolving i s _⟩
  | @format _ _ _ message loaded resolved complete h =>
    have hformat : (Format.parse i.format).mapError Failure.config = .error (.config message) := by
      rw [h]
      rfl
    rw [execute_run_of_complete loaded resolved complete, checked_bind_run_of_error hformat]
    exact ⟨_, rfl, untouched_resolving i s _⟩
  | host loaded resolved complete valid h told =>
    rw [execute_run_of_complete loaded resolved complete, checked_format_run valid,
      Runner.runPayload_run_of_error told]
    exact ⟨_, rfl, untouched_resolving i s _⟩

inductive Succeeds (i : Invocation) (s : Surroundings) : Prop
  | intro {profile : Profile} {payload : Payload} {format : Format} {e : Environment}
      (ready : Ready i s profile payload format) (environment : Environment.ofPayload payload = .ok e)
      (handled : ((i.command.handler format e).run (opening i s profile e)).1 = .ok ())

/-- The answer of the handler, once every stage before it is passed. -/
inductive Answers (i : Invocation) (s : Surroundings) : String → Prop
  | intro {profile : Profile} {payload : Payload} {format : Format} {e : Environment} {text : String}
      (ready : Ready i s profile payload format) (environment : Environment.ofPayload payload = .ok e)
      (renders : i.command.Renders e format (opening i s profile e) text) : Answers i s text

theorem Succeeds.answers (h : Succeeds i s) : ∃ text, Answers i s text := by
  obtain ⟨ready, he, handled⟩ := h
  obtain ⟨text, renders⟩ := Builtin.renders_of_ok handled
  exact ⟨text, .intro ready he renders⟩

theorem Answers.execute_run (h : Answers i s text) : ∃ session,
    (execute i s).run (.start s.peer) = (.ok (), session) ∧ session.heard = (text ++ "\n", []) := by
  obtain ⟨ready, he, renders⟩ := h
  obtain ⟨session, hrun, hheard⟩ := renders.handler_run
  rw [ready.execute_run he, hrun]
  refine ⟨_, rfl, ?_⟩
  rw [Runner.finished, Session.heard_record _ (by simp), hheard, heard_opening, String.empty_append]

theorem execute_run_of_not_succeeds (h : ¬Succeeds i s) : ∃ halt session,
    (execute i s).run (.start s.peer) = (.error halt, session) ∧ session.heard = ("", []) := by
  rcases refused_or_ready i s with ⟨f, hf⟩ | ⟨profile, payload, format, e, ready, he⟩
  · obtain ⟨session, hrun, huntouched⟩ := hf.execute_run
    exact ⟨_, session, hrun, huntouched.heard⟩
  · rw [ready.execute_run he]
    rcases hrun : (i.command.handler format e).run (opening i s profile e) with ⟨halt | _, session⟩
    · have hheard := (Builtin.heard_of_error hrun).trans (heard_opening i s profile e)
      cases halt <;> exact ⟨_, session, rfl, hheard⟩
    · exact (h (.intro ready he (by rw [hrun]))).elim

/-- A run that ends well: one answer in one piece, and no error. -/
structure Delivers (x : Exit) (text : String) : Prop where
  code : x.code = 0
  output : x.output = text ++ "\n"
  errors : ∀ r ∈ x.log, r.level ≠ .error

theorem Delivers.text_eq {x : Exit} {t : String} (h : Delivers x text)
    (houtput : x.output = t ++ "\n") : text = t :=
  (String.append_left_inj "\n").1 (h.output.symm.trans houtput)

/-- A run that ends with a failure: no output, and one error, which comes last. -/
structure Reports (x : Exit) (f : Failure) : Prop where
  code : x.code = 1
  output : x.output = ""
  errors : ∃ before, x.log = before ++ [⟨.error, programSource, s!"{f.category}: {f.message}"⟩] ∧
    ∀ r ∈ before, r.level ≠ .error

theorem choose_admits_error (verbosity : Nat) {r : LogRecord} (h : r.level = .error) :
    (LogFilter.choose none verbosity).admits r = true := by
  obtain ⟨rank, hrank, hparse⟩ : ∃ rank, Level.error.rank ≤ rank ∧
      LogFilter.parse? (LogFilter.ofVerbosity verbosity) = some ⟨[.ofRank rank]⟩ := by
    unfold LogFilter.ofVerbosity
    split
    · exact ⟨3, by decide, by rfl⟩
    · exact ⟨4, by decide, by rfl⟩
    · exact ⟨5, by decide, by rfl⟩
  simp only [LogFilter.choose, hparse, LogFilter.admits, h]
  exact decide_eq_true hrank

theorem no_error_of_heard {out : String} (h : session.heard = (out, [])) :
    ∀ r ∈ session.log, r.level ≠ .error := by
  have hlog := congrArg Prod.snd h
  simpa [Session.heard] using hlog

theorem run_of_ok (hi : CommandLine.parse words s.environment = .ok i)
    (hlog : s.environment.bytes? "RUST_LOG" = none)
    (hrun : (execute i s).run (.start s.peer) = (.ok (), session))
    (hheard : session.heard = (text ++ "\n", [])) : Delivers (run words s) text := by
  have hexit : run words s = ⟨0, session.output,
      session.log.filter (LogFilter.choose none i.verbosity).admits, ""⟩ := by
    simp [run, hi, hrun, ended, Variables.text?, hlog]
  rw [hexit]
  refine ⟨rfl, congrArg Prod.fst hheard, ?_⟩
  intro r hr
  exact no_error_of_heard hheard r (List.mem_filter.1 hr).1

theorem run_of_error (hi : CommandLine.parse words s.environment = .ok i)
    (hlog : s.environment.bytes? "RUST_LOG" = none)
    (hrun : (execute i s).run (.start s.peer) = (.error (.error f), session))
    (hheard : session.heard = ("", [])) : Reports (run words s) f := by
  have hexit : run words s = ⟨1, session.output,
      (session.record .error programSource s!"{f.category}: {f.message}").log.filter
        (LogFilter.choose none i.verbosity).admits, ""⟩ := by
    simp only [run, hi, hrun, ended, Variables.text?, hlog]
    rfl
  rw [hexit]
  refine ⟨rfl, congrArg Prod.fst hheard,
    session.log.filter (LogFilter.choose none i.verbosity).admits, ?_, ?_⟩
  · simp [Session.record, choose_admits_error]
  · intro r hr
    exact no_error_of_heard hheard r (List.mem_filter.1 hr).1

theorem run_of_panic (hi : CommandLine.parse words s.environment = .ok i)
    (hrun : (execute i s).run (.start s.peer) = (.error .panic, session)) :
    (run words s).code = panicCode := by
  simp [run, hi, hrun, ended]

/-- A run either passes every stage and prints one answer, or prints nothing and reports one failure;
what fails before the handler has touched no server. -/
theorem run_all_or_nothing (words : List String) (s : Surroundings) (i : Invocation)
    (hi : CommandLine.parse words s.environment = .ok i)
    (hlog : s.environment.bytes? "RUST_LOG" = none) (hpanic : (run words s).code ≠ panicCode) :
    ((run words s).code = 0 ∨ (run words s).code = 1) ∧
    ((run words s).code = 0 ↔ Succeeds i s) ∧
    (Succeeds i s → ∃ text, Answers i s text ∧ Delivers (run words s) text) ∧
    (¬Succeeds i s → ∃ f, ((execute i s).run (.start s.peer)).1 = .error (.error f) ∧
      Reports (run words s) f) ∧
    (∀ f, Refused i s f → Reports (run words s) f ∧ ∃ records,
      (execute i s).run (.start s.peer) =
        (.error (.error f), { Session.start s.peer with log := records })) ∧
    ((∃ f, Refused i s f) ∨ ∃ profile payload format e, Ready i s profile payload format ∧
      Environment.ofPayload payload = .ok e) := by
  -- The session is known in both cases; what the exit shows of it depends on how the run ended.
  have hdelivers : Succeeds i s → ∃ text, Answers i s text ∧ Delivers (run words s) text := by
    intro hsucceeds
    obtain ⟨text, hanswers⟩ := hsucceeds.answers
    obtain ⟨session, hrun, hheard⟩ := hanswers.execute_run
    exact ⟨text, hanswers, run_of_ok hi hlog hrun hheard⟩
  have hreports : ¬Succeeds i s → ∃ f, ((execute i s).run (.start s.peer)).1 = .error (.error f) ∧
      Reports (run words s) f := by
    intro hfails
    obtain ⟨halt, session, hrun, hheard⟩ := execute_run_of_not_succeeds hfails
    cases halt with
    | error f => exact ⟨f, by rw [hrun], run_of_error hi hlog hrun hheard⟩
    | panic => exact (hpanic (run_of_panic hi hrun)).elim
  refine ⟨?_, ⟨?_, ?_⟩, hdelivers, hreports, ?_, refused_or_ready i s⟩
  · by_cases h : Succeeds i s
    · obtain ⟨text, -, hdelivered⟩ := hdelivers h
      exact .inl hdelivered.code
    · obtain ⟨f, -, hreported⟩ := hreports h
      exact .inr hreported.code
  · intro hcode
    apply Classical.byContradiction
    intro h
    obtain ⟨f, -, hreported⟩ := hreports h
    simp [hreported.code] at hcode
  · intro h
    obtain ⟨text, -, hdelivered⟩ := hdelivers h
    exact hdelivered.code
  · intro f hf
    obtain ⟨session, hrun, ⟨records, rfl⟩, hheard⟩ := hf.execute_run
    exact ⟨run_of_error hi hlog hrun hheard, records, hrun⟩

def plainWords : List String := ["--url=postgresql://u@h/db", "query", "SELECT 1 AS one"]

def plainInvocation : Invocation :=
  ⟨.query "SELECT 1 AS one", some "postgresql://u@h/db", none, none, none, none, none, none, none, "cli",
    "text", 0⟩

def plainAnswer : String := "one\n---\n1\n(1 row)"

def questionWords : List String := plainWords ++ ["--format=JSON"]

def questionInvocation : Invocation := { plainInvocation with format := "JSON" }

def questionAnswer : String := "[\n  \x7b\n    \"one\": 1\n  \x7d\n]"

def bare (peer : Peer) : Surroundings := ⟨.unset, none, fun _ ↦ .absent, peer⟩

def answering : Server :=
  ⟨[.asksPassword fun _ ↦ none],
    [("SELECT 1 AS one", .rows [⟨"one", "INT4"⟩] [[some [0, 0, 0, 1]]] "SELECT 1")]⟩

theorem run_all_or_nothing_question :
    (CommandLine.parse plainWords .unset = .ok plainInvocation ∧
      Answers plainInvocation (bare (.server answering)) plainAnswer ∧
      Delivers (run plainWords (bare (.server answering))) plainAnswer) ∧
    (CommandLine.parse questionWords .unset = .ok questionInvocation ∧
      Answers questionInvocation (bare (.server answering)) questionAnswer ∧
      Delivers (run questionWords (bare (.server answering))) questionAnswer) ∧
    ∃ f, ((execute questionInvocation (bare .silent)).run (.start .silent)).1 = .error (.error f) ∧
      Reports (run questionWords (bare .silent)) f := by
  refine ⟨⟨rfl, ?_⟩, ⟨rfl, ?_⟩, ?_⟩
  · obtain ⟨-, hcode, hdelivers, -⟩ := run_all_or_nothing plainWords (bare (.server answering))
      plainInvocation rfl rfl (by decide)
    obtain ⟨text, hanswers, hdelivered⟩ := hdelivers (hcode.1 (by decide))
    obtain rfl := hdelivered.text_eq (t := plainAnswer) (by decide +kernel)
    exact ⟨hanswers, hdelivered⟩
  · obtain ⟨-, hcode, hdelivers, -⟩ := run_all_or_nothing questionWords (bare (.server answering))
      questionInvocation rfl rfl (by decide)
    obtain ⟨text, hanswers, hdelivered⟩ := hdelivers (hcode.1 (by decide))
    obtain rfl := hdelivered.text_eq (t := questionAnswer) (by decide +kernel)
    exact ⟨hanswers, hdelivered⟩
  · obtain ⟨-, hcode, -, hreports, -⟩ := run_all_or_nothing questionWords (bare .silent)
      questionInvocation rfl rfl (by decide)
    exact hreports fun h ↦ absurd (hcode.2 h) (by decide)

end Program

end ScriptEnv
