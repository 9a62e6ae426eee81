import ScriptEnv.Proofs.Runner.Run

namespace ScriptEnv

namespace Raised

/-- Context around a failure that reads otherwise. -/
def HidesFailure (r : Raised) : Prop :=
  ∃ text inner f, r = .context text inner ∧ inner.failure? = some f ∧ f.message ≠ text

variable {r inner : Raised} {f : Failure}

theorem reported_of_none (h : r.failure? = none) : r.reported = .handler r := by
  unfold reported
  rw [h, Option.getD_none]

theorem reported_of_some (h : r.failure? = some f) : r.reported = f := by
  unfold reported
  rw [h, Option.getD_some]

theorem not_hidesFailure_of_none (h : r.failure? = none) : ¬r.HidesFailure := by
  rintro ⟨text, inner, f, rfl, hinner, -⟩
  exact Option.some_ne_none f (hinner.symm.trans h)

theorem message_reported_iff (r : Raised) : r.reported.message = r.message ↔ ¬r.HidesFailure := by
  cases h : r.failure? with
  | none =>
    have hmessage : r.reported.message = r.message := by
      rw [reported_of_none h, Failure.message_handler]
    exact iff_of_true hmessage (not_hidesFailure_of_none h)
  | some f =>
    rw [reported_of_some h]
    cases r with
    | failure g =>
      cases h
      refine iff_of_true rfl ?_
      rintro ⟨text, inner, f, hr, -⟩
      cases hr
    | plain text => cases h
    | context text inner =>
      have hinner : inner.failure? = some f := h
      rw [Raised.message_context]
      constructor
      · rintro hmessage ⟨text', inner', f', hr, hinner', hne⟩
        cases hr
        cases hinner.symm.trans hinner'
        exact hne hmessage
      · intro hshown
        apply Decidable.byContradiction
        intro hne
        exact hshown ⟨text, inner, f, rfl, hinner, hne⟩

end Raised

namespace Runner

variable {p : Payload} {e : Environment}

/-- An error that a handler ends with comes back as itself if it is a failure, and wrapped if there
is no failure in it. Of a failure with context around it the failure alone comes back, so the text of
the error is kept exactly if that context said what the failure says. -/
theorem handler_error_returned_iff (he : Environment.ofPayload p = .ok e) (handler : Handler)
    {s s' : Session} {r : Raised}
    (hr : (handler e).run (announced e s) = (.error (.error r), s')) :
    ∃ f, (runPayload handler p).run s = (.error (.error f), s') ∧
      (∀ json, Payload.ofJson json = .ok p →
        (run handler json).run s = (.error (.error f), s')) ∧
      (f.message = r.message ↔ ¬r.HidesFailure) ∧
      (∀ g, r = .failure g → f = g) ∧
      (r.failure? = none → f = .handler r) ∧
      ∀ text inner g, r = .context text inner → inner.failure? = some g → f = g := by
  have hrun : (runPayload handler p).run s = (.error (.error r.reported), s') := by
    rw [runPayload_run he, hr]
    rfl
  refine ⟨r.reported, hrun, ?_, r.message_reported_iff, ?_, Raised.reported_of_none, ?_⟩
  · intro json hp
    rw [run_run hp, hrun]
  · rintro g rfl
    rfl
  · rintro text inner g rfl hinner
    exact Raised.reported_of_some hinner

def nightly : Payload :=
  ⟨"kakapo", "secret", "localhost", 5432, "kakapo_db", "nightly", .postgresql, .standard⟩

def nightlyEnvironment : Environment :=
  ⟨⟨"kakapo", "secret", "localhost", 5432, "kakapo_db", .postgresql,
    ⟨"postgresql".toList, true, "kakapo".toList, some "secret".toList, some "localhost".toList,
      some 5432, "/kakapo_db".toList, none, none⟩, .standard⟩, "nightly"⟩

def copying : Raised := .context "while copying" (.failure (.connection "lost"))

theorem handler_error_returned_iff_context :
    Environment.ofPayload nightly = .ok nightlyEnvironment ∧
    (throw (.error copying) : Action Raised Unit).run
        (announced nightlyEnvironment (.start .silent)) =
      (.error (.error copying), announced nightlyEnvironment (.start .silent)) ∧
    ∃ f, (runPayload (fun _ ↦ throw (.error copying)) nightly).run (.start .silent) =
        (.error (.error f), announced nightlyEnvironment (.start .silent)) ∧
      f = .connection "lost" ∧ f.message ≠ copying.message := by
  have he : Environment.ofPayload nightly = .ok nightlyEnvironment := by rfl
  obtain ⟨f, hrun, -, -, -, -, hinner⟩ := handler_error_returned_iff he
    (fun _ ↦ throw (.error copying)) (s := .start .silent) (r := copying) rfl
  obtain rfl := hinner "while copying" (.failure (.connection "lost")) (.connection "lost") rfl rfl
  refine ⟨he, rfl, _, hrun, rfl, ?_⟩
  change "Connection error: " ++ "lost" ≠ "while copying"
  decide

end Runner

end ScriptEnv
