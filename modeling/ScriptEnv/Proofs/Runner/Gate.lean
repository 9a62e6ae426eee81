import ScriptEnv.Proofs.Payload.RoundTrip
import ScriptEnv.Proofs.Runner.Reporting
import ScriptEnv.Proofs.Target.Blame

namespace ScriptEnv

open Json (Alone Entry ObjectOf Once Spells valuesOf)

namespace Target

def Unplaceable (host : String) : Prop :=
  ∀ driver username password port database url, ¬Text.Blank username →
    Url.parse (urlText driver username password (bracketed host) port database) ≠ .ok url

variable {driver : Driver} {username password host database : String} {port : UInt16}

theorem unplaceable_of_parse_eq_error (hu : ¬Text.Blank username) {f : Url.Fault}
    (h : Url.parse (urlText driver username password (bracketed host) port database) = .error f) :
    Unplaceable host := by
  intro driver' username' password' port' database' url hu' hurl
  -- Host and nothing else decides whether a URL is read, so both are or neither is.
  have houtcome := parse_urlText driver password (bracketed host) database port hu
  have houtcome' := parse_urlText driver' password' (bracketed host) database' port' hu'
  rw [h] at houtcome
  rw [hurl, ← houtcome] at houtcome'
  cases houtcome'

end Target

namespace Payload

def requiredKeys : List String := ["username", "password", "host", "port", "database", "script_name"]

def filledKeys : List String := ["username", "host", "database", "script_name"]

/-- Texts that no script can be run with. -/
inductive Unrunnable (text : String) : Prop
  | notJson (h : ∀ w, Json.Form w → ¬Alone w text.toList)
  | keys {es : List Entry} {k : String} (hes : ObjectOf es text.toList) (hk : k ∈ requiredKeys)
      (h : (valuesOf es k).length ≠ 1)
  | blank {es : List Entry} {k t : String} {w : List Char} (hes : ObjectOf es text.toList)
      (hk : k ∈ filledKeys) (hw : w ∈ valuesOf es k) (ht : Spells w t) (h : Text.Blank t)
  | rejected {f : Failure} (h : ofJson text = .error f)
  | host {p : Payload} (hp : ofJson text = .ok p) (h : Target.Unplaceable p.host)

variable {text : String} {p : Payload} {es : List Entry} {k : String}

theorem length_of_once {α : Type} {R : List Char → α → Prop} {a : α} (h : Once es k R a) :
    (valuesOf es k).length = 1 := by
  obtain ⟨w, hw, -⟩ := h
  rw [hw]
  rfl

theorem not_blank_of_once {a : String} (h : Once es k Spells a) (ha : ¬Text.Blank a)
    {w : List Char} {t : String} (hw : w ∈ valuesOf es k) (ht : Spells w t) : ¬Text.Blank t := by
  obtain ⟨w', hw', ha'⟩ := h
  rw [hw', List.mem_singleton] at hw
  obtain rfl := (hw ▸ ht).unique ha'
  exact ha

theorem Described.required (h : Described es p) : ∀ k ∈ requiredKeys, (valuesOf es k).length = 1 := by
  simp only [requiredKeys, List.forall_mem_cons, List.not_mem_nil, false_implies, implies_true, and_true]
  exact ⟨length_of_once h.username, length_of_once h.password, length_of_once h.host,
    length_of_once h.port, length_of_once h.database, length_of_once h.scriptName⟩

theorem Described.filled (h : Described es p) :
    ∀ k ∈ filledKeys, ∀ w ∈ valuesOf es k, ∀ t, Spells w t → ¬Text.Blank t := by
  simp only [filledKeys, List.forall_mem_cons, List.not_mem_nil, false_implies, implies_true, and_true]
  exact ⟨fun _ hw _ ht ↦ not_blank_of_once h.username h.valid.username hw ht,
    fun _ hw _ ht ↦ not_blank_of_once h.host h.valid.host hw ht,
    fun _ hw _ ht ↦ not_blank_of_once h.database h.valid.database hw ht,
    fun _ hw _ ht ↦ not_blank_of_once h.scriptName h.valid.scriptName hw ht⟩

theorem Unrunnable.unplaceable (h : Unrunnable text) (hp : ofJson text = .ok p) :
    Target.Unplaceable p.host := by
  cases h with
  | notJson h =>
    obtain ⟨w, halone, hform, -⟩ := ofJson_eq_ok.1 hp
    exact absurd halone (h w (reads_record.form hform))
  | keys hes hk h => exact absurd (((ofJson_eq_ok_iff_described hes).1 hp).required _ hk) h
  | blank hes hk hw ht h =>
    exact absurd h (((ofJson_eq_ok_iff_described hes).1 hp).filled _ hk _ hw _ ht)
  | rejected h => cases h.symm.trans hp
  | host hp' h =>
    cases hp'.symm.trans hp
    exact h

theorem target_eq (hp : p.Valid) :
    p.target = match Url.parse (Target.urlText p.driver p.username p.password
        (Target.bracketed p.host) p.port p.database) with
      | .ok url => .ok ⟨p.username, p.password, p.host, p.port, p.database, p.driver, url, p.tuning⟩
      | .error f => .error (.config s!"Invalid host '{Target.bracketed p.host}': {f.message}") := by
  have hfields : requireText [("username", p.username), ("host", p.host), ("database", p.database)] =
      .ok () := by
    simp [requireText_eq_ok, hp.username, hp.host, hp.database]
  unfold target Target.build
  rw [hfields]
  dsimp only [bind, Except.bind]
  cases Url.parse (Target.urlText p.driver p.username p.password (Target.bracketed p.host) p.port
    p.database) with
  | ok url => rfl
  | error f => rfl

end Payload

namespace Environment

variable {p : Payload}

theorem ofPayload_eq (hp : p.Valid) : ofPayload p = p.target.map (⟨·, p.scriptName⟩) := by
  unfold ofPayload
  rw [Payload.validate_eq_ok.2 hp]
  dsimp only [bind, Except.bind]
  cases p.target with
  | ok t => rfl
  | error f => rfl

theorem ofPayload_of_unplaceable (hp : p.Valid) (h : Target.Unplaceable p.host) :
    ∃ detail, ofPayload p = .error (.config detail) := by
  rw [ofPayload_eq hp, Payload.target_eq hp]
  cases hparse : Url.parse (Target.urlText p.driver p.username p.password (Target.bracketed p.host)
      p.port p.database) with
  | ok url => exact absurd hparse (h _ _ _ _ _ url hp.username)
  | error f => exact ⟨_, rfl⟩

theorem exists_ofPayload (hp : p.Valid) (h : ¬Target.Unplaceable p.host) :
    ∃ e, ofPayload p = .ok e ∧ e.scriptName = p.scriptName ∧ e.target.host = p.host ∧
      e.target.port = p.port ∧ e.target.database = p.database ∧ e.target.username = p.username := by
  rw [ofPayload_eq hp, Payload.target_eq hp]
  cases hparse : Url.parse (Target.urlText p.driver p.username p.password (Target.bracketed p.host)
      p.port p.database) with
  | ok url => exact ⟨_, rfl, rfl, rfl, rfl, rfl, rfl⟩
  | error f => exact absurd (Target.unplaceable_of_parse_eq_error hp.username hparse) h

end Environment

namespace Runner

variable {text : String}

theorem ended_bracketed (e : Environment) (h : Except (Halt Raised) Unit × Session) :
    ((ended e h).1 = .ok () ↔ h.1 = .ok ()) ∧ (h.1 = .ok () → (ended e h).2 = finished e h.2) ∧
      (h.1 ≠ .ok () → (ended e h).2 = h.2) := by
  rcases h with ⟨(r | _) | _, s⟩
  · exact ⟨iff_of_false nofun nofun, nofun, fun _ ↦ rfl⟩
  · exact ⟨iff_of_false nofun nofun, nofun, fun _ ↦ rfl⟩
  · exact ⟨iff_of_true rfl rfl, fun _ ↦ rfl, fun h ↦ absurd rfl h⟩

theorem refused_of_unrunnable (h : Payload.Unrunnable text) :
    ∃ detail, ∀ (handler : Handler) (s : Session),
      (run handler text).run s = (.error (.error (.config detail)), s) := by
  cases hp : Payload.ofJson text with
  | error f =>
    obtain ⟨detail, rfl⟩ := Payload.ofJson_eq_error hp
    exact ⟨detail, run_run_of_error hp⟩
  | ok p =>
    have hvalid := Payload.valid_of_ofJson hp
    obtain ⟨detail, he⟩ := Environment.ofPayload_of_unplaceable hvalid (h.unplaceable hp)
    refine ⟨detail, fun handler s ↦ ?_⟩
    rw [run_run hp, runPayload_run_of_error he]

/-- A text that no script can be run with is answered with a failure of configuration, the same for
every handler, and nothing is logged or touched. With any other text the handler runs once, in an
environment with what the payload says and after the start of the script has been logged; its end is
logged last if and only if the handler succeeds, and then the run succeeds. -/
theorem run_gates_and_brackets (text : String) :
    (Payload.Unrunnable text → ∃ detail, ∀ (handler : Handler) (s : Session),
      (run handler text).run s = (.error (.error (.config detail)), s)) ∧
    (¬Payload.Unrunnable text → ∃ (p : Payload) (e : Environment), Payload.ofJson text = .ok p ∧
      p.Valid ∧ e.scriptName = p.scriptName ∧ e.target.host = p.host ∧ e.target.port = p.port ∧
      e.target.database = p.database ∧ e.target.username = p.username ∧
      ∀ (handler : Handler) (s : Session),
        let started := s.record .info runnerSource
          s!"Running script '{e.scriptName}' against {e.target.display}"
        let handled := (handler e).run started
        let result := (run handler text).run s
        (result.1 = .ok () ↔ handled.1 = .ok ()) ∧
        (handled.1 = .ok () →
          result.2 = handled.2.record .info runnerSource s!"Script '{e.scriptName}' finished") ∧
        (handled.1 ≠ .ok () → result.2 = handled.2)) := by
  refine ⟨refused_of_unrunnable, fun h ↦ ?_⟩
  cases hp : Payload.ofJson text with
  | error f => exact absurd (.rejected hp) h
  | ok p =>
    have hplaced : ¬Target.Unplaceable p.host := fun hhost ↦ h (.host hp hhost)
    have hvalid := Payload.valid_of_ofJson hp
    obtain ⟨e, he, hname, hhost, hport, hdatabase, husername⟩ :=
      Environment.exists_ofPayload hvalid hplaced
    refine ⟨p, e, rfl, hvalid, hname, hhost, hport, hdatabase, husername, fun handler s ↦ ?_⟩
    intro started handled result
    have hresult : result = ended e handled := (run_run hp handler s).trans (runPayload_run he handler s)
    rw [hresult]
    exact ended_bracketed e handled

def astray : Payload := { nightly with host := "a b" }

theorem run_gates_and_brackets_texts :
    Payload.Unrunnable "\x7b\x7d" ∧
      (∃ detail, ∀ (handler : Handler) (s : Session),
        (run handler "\x7b\x7d").run s = (.error (.error (.config detail)), s)) ∧
    Payload.Unrunnable astray.toJson ∧
      (∃ detail, ∀ (handler : Handler) (s : Session),
        (run handler astray.toJson).run s = (.error (.error (.config detail)), s)) ∧
    ¬Payload.Unrunnable nightly.toJson ∧
      ∀ s : Session, ((run (fun _ ↦ pure ()) nightly.toJson).run s).1 = .ok () ∧
        ((run (fun _ ↦ pure ()) nightly.toJson).run s).2.log.getLast? =
          some ⟨.info, runnerSource, "Script 'nightly' finished"⟩ := by
  have hnone : Payload.Unrunnable "\x7b\x7d" := by
    have hes : ObjectOf [] "\x7b\x7d".toList :=
      ⟨_, Json.renders_compactObject [], [], [], by decide, Json.gap_nil, Json.gap_nil⟩
    exact .keys hes (List.mem_cons_self : "username" ∈ Payload.requiredKeys) (by decide)
  have hastray : Payload.Unrunnable astray.toJson := by
    have hvalid : astray.Valid := ⟨by decide, by decide, by decide, by decide⟩
    have hparse : Url.parse (Target.urlText .postgresql "kakapo" "secret" (Target.bracketed "a b") 5432
        "kakapo_db") = .error .badHostCharacter := by rfl
    exact .host (Payload.ofJson_toJson hvalid)
      (Target.unplaceable_of_parse_eq_error hvalid.username hparse)
  have hnightly : Payload.ofJson nightly.toJson = .ok nightly :=
    Payload.ofJson_toJson ⟨by decide, by decide, by decide, by decide⟩
  have huse : ¬Payload.Unrunnable nightly.toJson := by
    intro h
    have hparse : Url.parse (Target.urlText .postgresql "kakapo" "secret" (Target.bracketed "localhost")
        5432 "kakapo_db") = .ok nightlyEnvironment.target.url := by rfl
    exact h.unplaceable hnightly _ _ _ _ _ _ (by decide) hparse
  refine ⟨hnone, (run_gates_and_brackets _).1 hnone, hastray, (run_gates_and_brackets _).1 hastray,
    huse, fun s ↦ ?_⟩
  obtain ⟨p, e, hp, -, hname, -, -, -, -, hrun⟩ := (run_gates_and_brackets _).2 huse
  cases hnightly.symm.trans hp
  obtain ⟨hok, hfinished, -⟩ := hrun (fun _ ↦ pure ()) s
  refine ⟨hok.2 rfl, ?_⟩
  rw [hfinished rfl, hname]
  exact List.getLast?_concat

end Runner

end ScriptEnv
