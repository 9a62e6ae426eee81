import ScriptEnv.Proofs.Engine.Refusal
import ScriptEnv.Proofs.Engine.Retry

namespace ScriptEnv

inductive Verdict
  | unreachable
  | credentials
  | missing
  | encryption
  | slow
  | unclear
  deriving DecidableEq, Repr

namespace Verdict

def sentence (t : Target) (text : String) : Verdict → String
  | unreachable => s!"Cannot connect to {t.host}:{t.port}. Check that the server is running."
  | credentials => s!"Authentication failed for user '{t.username}'. Check your credentials."
  | missing => s!"Database '{t.database}' does not exist."
  | encryption => "Server requires SSL."
  | slow =>
    s!"Connection to {t.host}:{t.port} timed out. The server may be overloaded or unreachable."
  | unclear => text

def opening : Verdict → String
  | unreachable => "Ca"
  | credentials => "A"
  | missing => "D"
  | encryption => "S"
  | slow => "Co"
  | unclear => ""

theorem opening_append {opening s : String} (h : opening.toList <+: s.toList) (r : String) :
    opening.toList <+: (s ++ r).toList := by
  rw [String.toList_append]
  exact h.trans (List.prefix_append _ _)

theorem opening_sentence (t : Target) (text : String) (v : Verdict) :
    v.opening.toList <+: (v.sentence t text).toList := by
  cases v with
  | unclear => exact List.nil_prefix
  | encryption =>
    change "S".toList <+: "Server requires SSL.".toList
    decide
  | unreachable =>
    iterate 4 apply opening_append
    decide
  | credentials =>
    iterate 2 apply opening_append
    decide
  | missing =>
    iterate 2 apply opening_append
    decide
  | slow =>
    iterate 4 apply opening_append
    decide

variable {v w : Verdict}

theorem sentence_ne (hv : v ≠ unclear) (hw : w ≠ unclear) (hvw : v ≠ w) (t : Target)
    (text : String) : v.sentence t text ≠ w.sentence t text := by
  intro h
  have hopen := opening_sentence t text v
  rw [h] at hopen
  have hpre := List.prefix_or_prefix_of_prefix hopen (opening_sentence t text w)
  clear h hopen
  cases v <;> cases w <;>
    first
      | exact absurd rfl hvw
      | exact absurd rfl hv
      | exact absurd rfl hw
      | exact absurd hpre (by decide)

end Verdict

namespace AcquireError

/-- The first of the words looked for decides. -/
def verdict (e : AcquireError) : Verdict :=
  if e.mentions "connection refused" || e.mentions "could not connect" then .unreachable
  else if e.mentions "authentication failed" then .credentials
  else if e.mentions "does not exist" && e.mentions "database" then .missing
  else if e.mentions "ssl" || e.mentions "tls" then .encryption
  else if e.mentions "timed out" || e.mentions "timeout" then .slow
  else .unclear

def passing (e : AcquireError) : Bool :=
  e.mentions "connection refused" || e.mentions "timed out" ||
    e.mentions "temporarily unavailable" || e.mentions "connection reset" ||
    e.mentions "broken pipe"

def ReportedAs (t : Target) (e : AcquireError) (v : Verdict) : Prop :=
  e.report t = .connection (v.sentence t e.text)

/-- Reported as a trouble of the network or the server's load, and yet given up at once: the words
behind the report are not among those of a trouble that may pass, or the text blames the credentials
or a name besides. A text that is itself such a report counts as one. -/
def Overlooked (t : Target) (e : AcquireError) : Prop :=
  (e.verdict = .unreachable ∨ e.verdict = .slow ∨
      e.verdict = .unclear ∧ e.text = Verdict.unreachable.sentence t e.text) ∧
    (e.blames = true ∨ e.passing = false)

variable {t : Target} {e : AcquireError} {v : Verdict}

theorem report_eq_sentence (t : Target) (e : AcquireError) :
    e.report t = .connection (e.verdict.sentence t e.text) := by
  unfold report verdict
  congr 1
  simp only [apply_ite (Verdict.sentence t e.text)]
  rfl

theorem isTransient_eq (e : AcquireError) : e.isTransient = (!e.blames && e.passing) := by
  by_cases he : e = timedOut
  · subst he
    decide
  · unfold isTransient
    rw [if_neg he]
    cases hb : e.blames with
    | true => exact if_pos hb
    | false => exact if_neg (by simpa [blames] using hb)

theorem isTransient_iff : e.isTransient = true ↔ ¬(e.blames = true ∨ e.passing = false) := by
  rw [isTransient_eq]
  cases e.blames <;> cases e.passing <;> decide

theorem reportedAs_iff (hv : v ≠ .unclear) :
    e.ReportedAs t v ↔
      e.verdict = v ∨ e.verdict = .unclear ∧ e.text = v.sentence t e.text := by
  unfold ReportedAs
  rw [report_eq_sentence, Failure.connection.injEq]
  constructor
  · intro h
    by_cases hunclear : e.verdict = .unclear
    · rw [hunclear] at h
      exact .inr ⟨hunclear, h⟩
    · left
      apply Decidable.byContradiction
      intro hne
      exact Verdict.sentence_ne hunclear hv hne t e.text h
  · rintro (rfl | ⟨hunclear, htext⟩)
    · rfl
    · rw [hunclear]
      exact htext

theorem mentions_of_text_eq (before said after : String) {words : String}
    (htext : e.text = before ++ said ++ after)
    (hsaid : Text.mentions words.toList (Text.lower said) = true) : e.mentions words = true := by
  obtain ⟨a, b, h⟩ := Text.mentions_iff.1 hsaid
  unfold mentions
  rw [htext, Text.lower_append, Text.lower_append, h, Text.mentions_iff]
  exact ⟨Text.lower before ++ a, b ++ Text.lower after, by simp⟩

theorem mentions_of_verdict_credentials (h : e.verdict = .credentials) :
    e.mentions "authentication failed" = true := by
  unfold verdict at h
  split at h
  · cases h
  split at h
  · assumption
  · repeat' split at h
    all_goals cases h

theorem mentions_of_verdict_missing (h : e.verdict = .missing) :
    e.mentions "does not exist" = true := by
  unfold verdict at h
  split at h
  · cases h
  split at h
  · cases h
  split at h
  · next hmissing => exact (Bool.and_eq_true_iff.1 hmissing).1
  · repeat' split at h
    all_goals cases h

theorem not_mentions_of_verdict_unclear (h : e.verdict = .unclear) :
    e.mentions "timed out" = false := by
  unfold verdict at h
  repeat' split at h
  all_goals cases h
  next hslow => exact (Bool.or_eq_false_iff.1 (Bool.eq_false_iff.2 hslow)).1

theorem blames_of_credentials (h : e.ReportedAs t .credentials) : e.blames = true := by
  have hsaid : e.mentions "authentication failed" = true := by
    rcases (reportedAs_iff (by decide)).1 h with hverdict | ⟨-, htext⟩
    · exact mentions_of_verdict_credentials hverdict
    · apply mentions_of_text_eq "" "Authentication failed for user '"
        (t.username ++ "'. Check your credentials.")
      · rw [htext, String.empty_append, ← String.append_assoc]
        rfl
      · decide
  unfold blames
  rw [hsaid, Bool.true_or]

theorem blames_of_missing (h : e.ReportedAs t .missing) : e.blames = true := by
  have hsaid : e.mentions "does not exist" = true := by
    rcases (reportedAs_iff (by decide)).1 h with hverdict | ⟨-, htext⟩
    · exact mentions_of_verdict_missing hverdict
    · apply mentions_of_text_eq ("Database '" ++ t.database) "' does not exist." ""
      · rw [htext, String.append_empty]
        rfl
      · decide
  unfold blames
  rw [hsaid, Bool.or_true]

theorem reportedAs_slow_iff : e.ReportedAs t .slow ↔ e.verdict = .slow := by
  rw [reportedAs_iff (by decide)]
  refine or_iff_left ?_
  rintro ⟨hunclear, htext⟩
  have hsaid : e.mentions "timed out" = true := by
    apply mentions_of_text_eq ("Connection to " ++ t.host ++ ":" ++ toString t.port)
      " timed out. The server may be overloaded or unreachable." ""
    · rw [htext, String.append_empty]
      rfl
    · decide
  rw [not_mentions_of_verdict_unclear hunclear] at hsaid
  cases hsaid

theorem reported_passing_iff :
    (e.ReportedAs t .unreachable ∨ e.ReportedAs t .slow → e.isTransient = true) ↔
      ¬e.Overlooked t := by
  rw [reportedAs_slow_iff, reportedAs_iff (by decide), isTransient_iff, Overlooked, not_and, or_assoc,
    or_comm (a := e.verdict = .unclear ∧ _)]

theorem not_transient_of_overlooked (h : e.Overlooked t) : e.isTransient = false := by
  rw [Bool.eq_false_iff, Ne, isTransient_iff]
  exact fun hpassing ↦ hpassing h.2

theorem not_transient_of_blaming (h : e.ReportedAs t .credentials ∨ e.ReportedAs t .missing) :
    e.isTransient = false := by
  rcases h with h | h
  · exact not_transient_of_blames (blames_of_credentials h)
  · exact not_transient_of_blames (blames_of_missing h)

end AcquireError

section

variable {α : Type} {outcome : Nat → Except AcquireError α} {asked : Nat} {e : AcquireError}

theorem EndsAt.eq_of_transient (h : EndsAt outcome asked) (he : outcome asked = .error e)
    (hpassing : e.isTransient = true) : asked = 3 := by
  rcases h.ended with hlast | hfinal
  · exact hlast
  · rw [he] at hfinal
    simp [isFinal, hpassing] at hfinal

theorem EndsAt.eq_one (h : EndsAt outcome asked) (he : outcome 1 = .error e)
    (hfinal : e.isTransient = false) : asked = 1 := by
  have hle : asked ≤ 1 := le_of_final h.passing (Nat.le_refl 1) (by simp [he, isFinal, hfinal])
  have hpos := h.pos
  omega

end

namespace Target

variable (t : Target) (e : AcquireError)

/-- How often the engine was asked before it was given up on, where an error reported as a trouble of
the network or of the load was met. -/
structure GivenUp (outcome : Nat → Except AcquireError Connection) (asked : Nat) : Prop where
  after_three : outcome asked = .error e → e.ReportedAs t .unreachable ∨ e.ReportedAs t .slow →
    ¬e.Overlooked t → asked = 3
  at_once : outcome 1 = .error e → e.Overlooked t → asked = 1

theorem givenUp_of_endsAt {outcome : Nat → Except AcquireError Connection} {asked : Nat}
    (h : EndsAt outcome asked) : t.GivenUp e outcome asked where
  after_three he hreported hseen :=
    h.eq_of_transient he (AcquireError.reported_passing_iff.2 hseen hreported)
  at_once he hoverlooked := h.eq_one he (AcquireError.not_transient_of_overlooked hoverlooked)

theorem rehearse_givenUp (outcome : Nat → Except AcquireError Connection) (s : Session) :
    t.GivenUp e outcome (t.rehearse outcome s).2.asked := by
  obtain ⟨n, hrun, hend⟩ := Rehearsal.connect_eq_met outcome s
  have hasked := Rehearsal.asked_met outcome s n
  rw [← hrun] at hasked
  rw [← hasked] at hend
  exact t.givenUp_of_endsAt e hend

theorem connect_givenUp (s : Session) :
    ∃ asked, s.connect t = s.attemptMet t asked ∧
      t.GivenUp e (fun i ↦ (s.attemptMet t i).1) asked := by
  obtain ⟨n, hrun, hend⟩ := attempts_eq_met Session.announce (Session.acquire t) Session.warnRetry s
  exact ⟨n + 1, hrun, t.givenUp_of_endsAt e hend⟩

/-- An error reported as an unreachable or a slow server is one that is tried again, unless it is
overlooked, and an error reported as bad credentials or a missing database never is. So the engine is
given up on after three attempts or, where the error is overlooked, after the first. -/
theorem report_agrees_iff :
    ((e.ReportedAs t .unreachable ∨ e.ReportedAs t .slow → e.isTransient = true) ↔
        ¬e.Overlooked t) ∧
      (e.ReportedAs t .credentials ∨ e.ReportedAs t .missing → e.isTransient = false) ∧
      (∀ outcome s, t.GivenUp e outcome (t.rehearse outcome s).2.asked) ∧
      ∀ s : Session, ∃ asked, s.connect t = s.attemptMet t asked ∧
        t.GivenUp e (fun i ↦ (s.attemptMet t i).1) asked :=
  ⟨AcquireError.reported_passing_iff, AcquireError.not_transient_of_blaming,
    t.rehearse_givenUp e, t.connect_givenUp e⟩

def slowLogin : AcquireError := .refused "canceling authentication due to timeout"

theorem slowLogin_overlooked : slowLogin.Overlooked localTarget := by
  refine ⟨.inr (.inl ?_), .inr ?_⟩ <;> decide

theorem report_agrees_iff_slowLogin :
    slowLogin.ReportedAs localTarget .slow ∧ slowLogin.isTransient = false ∧
      (localTarget.rehearse (fun _ ↦ .error slowLogin) (.start .silent)).2.asked = 1 ∧
      ((slowLogin.ReportedAs localTarget .unreachable ∨ slowLogin.ReportedAs localTarget .slow →
          slowLogin.isTransient = true) ↔ ¬slowLogin.Overlooked localTarget) := by
  have h := report_agrees_iff localTarget slowLogin
  have hslow : slowLogin.verdict = .slow := by decide
  refine ⟨AcquireError.reportedAs_slow_iff.2 hslow, by decide, ?_, h.1⟩
  exact (h.2.2.1 (fun _ ↦ .error slowLogin) (.start .silent)).at_once rfl slowLogin_overlooked

end Target

end ScriptEnv
