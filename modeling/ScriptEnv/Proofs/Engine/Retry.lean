import ScriptEnv.Engine.Session

namespace ScriptEnv

/-- No attempt follows it: a connection, or an error that will not pass. -/
def isFinal {α : Type} : Except AcquireError α → Bool
  | .ok _ => true
  | .error e => !e.isTransient

section

variable {σ α : Type} {started : Nat → σ → σ} {acquire : σ → Except AcquireError α × σ}
  {retried : Nat → Nat → σ → σ} {left number delay : Nat} {s : σ}

theorem attempt_of_final (h : left = 0 ∨ isFinal (acquire (started number s)).1 = true) :
    attempt started acquire retried (left + 1) number delay s = acquire (started number s) := by
  unfold attempt
  obtain ⟨r, s', hr⟩ : ∃ r s', acquire (started number s) = (r, s') := ⟨_, _, rfl⟩
  rw [hr] at h ⊢
  cases r with
  | ok a => rfl
  | error e =>
    refine if_neg ?_
    rintro ⟨hleft, he⟩
    rcases h with h | h
    · exact hleft h
    · simp [isFinal, he] at h

theorem attempt_of_not_final (h : isFinal (acquire (started number s)).1 = false) :
    attempt started acquire retried (left + 2) number delay s =
      attempt started acquire retried (left + 1) (number + 1) (2 * delay)
        (retried number delay (acquire (started number s)).2) := by
  rw [attempt]
  obtain ⟨r, s', hr⟩ : ∃ r s', acquire (started number s) = (r, s') := ⟨_, _, rfl⟩
  rw [hr] at h ⊢
  cases r with
  | ok a => cases h
  | error e => exact if_pos ⟨left.succ_ne_zero, by simpa [isFinal] using h⟩

theorem view_attempt {β : Type} (view : σ → β)
    (hstarted : ∀ n s, view (started n s) = view s) (hacquire : ∀ s, view (acquire s).2 = view s)
    (hretried : ∀ n delay s, view (retried n delay s) = view s) (left number delay : Nat) (s : σ) :
    view (attempt started acquire retried left number delay s).2 = view s := by
  induction left generalizing number delay s with
  | zero => rfl
  | succ left ih =>
    have hasked : view (acquire (started number s)).2 = view s := by rw [hacquire, hstarted]
    rw [attempt]
    rcases hr : acquire (started number s) with ⟨e | a, s'⟩
    · simp only [hr] at hasked ⊢
      split
      · rw [ih, hretried, hasked]
      · exact hasked
    · simpa only [hr] using hasked

def delayAfter : Nat → Nat
  | 0 => firstDelay
  | n + 1 => 2 * delayAfter n

variable (started acquire retried)

def afterRetries (s : σ) : Nat → σ
  | 0 => s
  | n + 1 => retried (n + 1) (delayAfter n) (acquire (started (n + 1) (afterRetries s n))).2

def met (s : σ) (n : Nat) : Except AcquireError α × σ :=
  acquire (started (n + 1) (afterRetries started acquire retried s n))

theorem attempt_eq_met (s : σ) (left n : Nat) :
    ∃ k, n ≤ k ∧ k ≤ n + left ∧
      attempt started acquire retried (left + 1) (n + 1) (delayAfter n)
        (afterRetries started acquire retried s n) = met started acquire retried s k ∧
      (k = n + left ∨ isFinal (met started acquire retried s k).1 = true) ∧
      ∀ m, n ≤ m → m < k → isFinal (met started acquire retried s m).1 = false := by
  -- The attempts left shrink while the retries made grow, so the claim is about every number of these.
  induction left generalizing n with
  | zero =>
    exact ⟨n, Nat.le_refl n, Nat.le_refl n, attempt_of_final (.inl rfl), .inl rfl,
      fun m hm hk ↦ absurd hm (Nat.not_le_of_lt hk)⟩
  | succ left ih =>
    cases hfinal : isFinal (met started acquire retried s n).1 with
    | true =>
      exact ⟨n, Nat.le_refl n, by omega, attempt_of_final (.inr hfinal), .inr hfinal,
        fun m hm hk ↦ absurd hm (Nat.not_le_of_lt hk)⟩
    | false =>
      obtain ⟨k, hnk, hk, hrun, hend, hpassing⟩ := ih (n + 1)
      refine ⟨k, by omega, by omega, ?_, hend.imp_left (by omega), ?_⟩
      · rw [attempt_of_not_final hfinal, ← hrun]
        rfl
      · intro m hm hmk
        rcases Nat.eq_or_lt_of_le hm with rfl | hm
        · exact hfinal
        · exact hpassing m hm hmk

/-- The attempt, counted from one, that is the last against these outcomes. -/
structure EndsAt (outcome : Nat → Except AcquireError α) (k : Nat) : Prop where
  pos : 1 ≤ k
  le : k ≤ maxAttempts
  ended : k = maxAttempts ∨ isFinal (outcome k) = true
  passing : ∀ i, 1 ≤ i → i < k → isFinal (outcome i) = false

structure FirstFinal (outcome : Nat → Except AcquireError α) (k : Nat) : Prop where
  pos : 1 ≤ k
  final : isFinal (outcome k) = true
  passing : ∀ i, 1 ≤ i → i < k → isFinal (outcome i) = false

section

variable {outcome : Nat → Except AcquireError α} {k : Nat}

theorem EndsAt.congr (h : EndsAt outcome k) {outcome' : Nat → Except AcquireError α}
    (hsame : ∀ i, 1 ≤ i → outcome i = outcome' i) : EndsAt outcome' k where
  pos := h.pos
  le := h.le
  ended := hsame k h.pos ▸ h.ended
  passing i hi hik := hsame i hi ▸ h.passing i hi hik

theorem le_of_final (hpassing : ∀ i, 1 ≤ i → i < k → isFinal (outcome i) = false) {j : Nat}
    (hj : 1 ≤ j) (hfinal : isFinal (outcome j) = true) : k ≤ j := by
  apply Nat.le_of_not_lt
  intro hlt
  rw [hpassing j hj hlt] at hfinal
  cases hfinal

theorem EndsAt.eq_min (h : EndsAt outcome k) {j : Nat} (hj : FirstFinal outcome j) :
    k = min maxAttempts j := by
  have hkj : k ≤ j := le_of_final h.passing hj.pos hj.final
  rcases h.ended with hk | hk
  · omega
  · have hjk : j ≤ k := le_of_final hj.passing h.pos hk
    have hle := h.le
    omega

theorem EndsAt.eq_max (h : EndsAt outcome k)
    (hnone : ∀ i, 1 ≤ i → i ≤ maxAttempts → isFinal (outcome i) = false) : k = maxAttempts := by
  rcases h.ended with hk | hk
  · exact hk
  · rw [hnone k h.pos h.le] at hk
    cases hk

end

theorem attempts_eq_met (s : σ) :
    ∃ n, attempts started acquire retried s = met started acquire retried s n ∧
      EndsAt (fun i ↦ (met started acquire retried s (i - 1)).1) (n + 1) := by
  have hmax : maxAttempts = 3 := rfl
  obtain ⟨n, -, hn, hrun, hend, hpassing⟩ := attempt_eq_met started acquire retried s 2 0
  refine ⟨n, hrun, ⟨by omega, by omega, hend.imp_left (by omega), ?_⟩⟩
  intro i hi hin
  exact hpassing (i - 1) (by omega) (by omega)

variable {started acquire retried}

theorem view_met {β : Type} (view : σ → List β) (entry : Nat → Nat → β)
    (hstarted : ∀ n s, view (started n s) = view s) (hacquire : ∀ s, view (acquire s).2 = view s)
    (hretried : ∀ n delay s, view (retried n delay s) = view s ++ [entry n delay]) (s : σ) (n : Nat) :
    view (met started acquire retried s n).2 =
      view s ++ (List.range n).map fun i ↦ entry (i + 1) (delayAfter i) := by
  rw [met, hacquire, hstarted]
  induction n with
  | zero => exact (List.append_nil _).symm
  | succ n ih =>
    rw [afterRetries, hretried, hacquire, hstarted, ih, List.range_succ, List.map_append,
      List.map_singleton, List.append_assoc]

end

namespace AcquireError

def blames (e : AcquireError) : Bool :=
  e.mentions "authentication failed" || e.mentions "does not exist"

theorem not_transient_of_blames {e : AcquireError} (h : e.blames = true) : e.isTransient = false := by
  have htimeout : blames timedOut = false := by decide
  have hne : e ≠ timedOut := by
    rintro rfl
    rw [htimeout] at h
    cases h
  unfold isTransient
  rw [if_neg hne]
  exact if_pos h

end AcquireError

def retryWarning (number : Nat) (wait : String) : LogRecord :=
  ⟨.warn, engineSource,
    s!"Connection attempt {number} failed (transient error), retrying in {wait}"⟩

theorem retryWarnings_eq {n : Nat} (h : n < maxAttempts) :
    ((List.range n).map fun i ↦ retryWarning (i + 1) (durationText (delayAfter i))) =
      [retryWarning 1 "500ms", retryWarning 2 "1s"].take n := by
  have hfirst : durationText (delayAfter 0) = "500ms" := by decide
  have hsecond : durationText (delayAfter 1) = "1s" := by decide
  match n, h with
  | 0, _ => rfl
  | 1, _ => rw [List.range_succ, List.range_zero, List.nil_append, List.map_singleton, hfirst]; rfl
  | 2, _ =>
    rw [List.range_succ, List.range_succ, List.range_zero, List.nil_append, List.map_append,
      List.map_singleton, List.map_singleton, hfirst, hsecond]
    rfl

namespace Session

variable (t : Target) (s : Session)

def warnings (s : Session) : List LogRecord := s.log.filter (·.level = .warn)

theorem warnings_record {level : Level} (h : level ≠ .warn) (source message : String) :
    (s.record level source message).warnings = s.warnings := by
  simp [warnings, record, h]

theorem warnings_record_warn (source message : String) :
    (s.record .warn source message).warnings = s.warnings ++ [⟨.warn, source, message⟩] := by
  simp [warnings, record]

theorem warnings_ensureEngine : (s.ensureEngine t).warnings = s.warnings := by
  unfold ensureEngine
  split
  · rfl
  · exact s.warnings_record (by decide) _ _

theorem warnings_openConnection : (s.openConnection t).2.warnings = s.warnings := by
  unfold openConnection
  split
  · rfl
  · rfl
  · rfl

theorem view_acquire {β : Type} (view : Session → β)
    (hengine : ∀ s, view (ensureEngine t s) = view s)
    (hopen : ∀ s, view (openConnection t s).2 = view s)
    (hpool : ∀ pool s, view (withPool pool s) = view s) : view (s.acquire t).2 = view s := by
  have hopened := hopen (s.ensureEngine t)
  rw [hengine] at hopened
  unfold acquire
  dsimp only
  split
  · exact hengine s
  split
  · exact hengine s
  split
  · rw [hpool, hengine]
  split
  · next hs =>
    rw [hs] at hopened
    rw [hpool, hopened]
  · next hs => rwa [hs] at hopened

theorem warnings_acquire : (s.acquire t).2.warnings = s.warnings :=
  view_acquire t s warnings (warnings_ensureEngine t) (warnings_openConnection t) fun _ _ ↦ rfl

def announce (number : Nat) : Session → Session :=
  record .debug engineSource s!"Connection attempt {number} of {maxAttempts}"

def warnRetry (number delay : Nat) : Session → Session :=
  record .warn engineSource
    s!"Connection attempt {number} failed (transient error), retrying in {durationText delay}"

/-- What an attempt, counted from one, meets if all attempts before it are retried. -/
def attemptMet (number : Nat) : Except AcquireError Connection × Session :=
  met announce (acquire t) warnRetry s (number - 1)

theorem warnings_met (n : Nat) :
    (met announce (acquire t) warnRetry s n).2.warnings = s.warnings ++
      (List.range n).map fun i ↦ retryWarning (i + 1) (durationText (delayAfter i)) :=
  view_met warnings (fun number delay ↦ retryWarning number (durationText delay))
    (fun _ s ↦ s.warnings_record (by decide) _ _) (warnings_acquire t)
    (fun _ _ s ↦ s.warnings_record_warn _ _) s n

theorem connect_eq_attempts : s.connect t = attempts announce (acquire t) warnRetry s := rfl

end Session

/-- A session whose engine answers with given outcomes, and how often it has been asked. -/
structure Rehearsal where
  session : Session
  asked : Nat

namespace Rehearsal

def announce (number : Nat) (r : Rehearsal) : Rehearsal :=
  { r with session := r.session.announce number }

def acquire (outcome : Nat → Except AcquireError Connection) (r : Rehearsal) :
    Except AcquireError Connection × Rehearsal :=
  (outcome (r.asked + 1), { r with asked := r.asked + 1 })

def warnRetry (number delay : Nat) (r : Rehearsal) : Rehearsal :=
  { r with session := r.session.warnRetry number delay }

variable (outcome : Nat → Except AcquireError Connection) (s : Session) (n : Nat)

def connect : Except AcquireError Connection × Rehearsal :=
  attempts announce (acquire outcome) warnRetry ⟨s, 0⟩

theorem asked_met : (met announce (acquire outcome) warnRetry ⟨s, 0⟩ n).2.asked = n + 1 := by
  induction n with
  | zero => rfl
  | succ n ih => exact congrArg (· + 1) ih

theorem met_fst : (met announce (acquire outcome) warnRetry ⟨s, 0⟩ n).1 = outcome (n + 1) :=
  congrArg outcome (asked_met outcome s n)

theorem warnings_met :
    (met announce (acquire outcome) warnRetry ⟨s, 0⟩ n).2.session.warnings = s.warnings ++
      (List.range n).map fun i ↦ retryWarning (i + 1) (durationText (delayAfter i)) :=
  view_met (fun r : Rehearsal ↦ r.session.warnings)
    (fun number delay ↦ retryWarning number (durationText delay))
    (fun _ r ↦ r.session.warnings_record (by decide) _ _) (fun _ ↦ rfl)
    (fun _ _ r ↦ r.session.warnings_record_warn _ _) ⟨s, 0⟩ n

theorem connect_eq_met :
    ∃ n, connect outcome s = met announce (acquire outcome) warnRetry ⟨s, 0⟩ n ∧
      EndsAt outcome (n + 1) := by
  obtain ⟨n, hrun, hend⟩ := attempts_eq_met announce (acquire outcome) warnRetry ⟨s, 0⟩
  refine ⟨n, hrun, hend.congr fun i hi ↦ ?_⟩
  rw [met_fst, Nat.sub_add_cancel hi]

end Rehearsal

namespace Target

variable (t : Target)

def finish :
    Except AcquireError Connection × Session → Except (Halt Failure) Connection × Session
  | (.ok c, s) => (.ok c, s.record .debug engineSource s!"Acquired connection to {t.display}")
  | (.error e, s) => (.error (.error (e.report t)), s)

theorem connect_run_eq_finish (s : Session) : (connect t).run s = t.finish (s.connect t) := by
  rw [connect_run]
  rcases s.connect t with ⟨_ | _, _⟩ <;> rfl

def rehearse (outcome : Nat → Except AcquireError Connection) (s : Session) :
    Except (Halt Failure) Connection × Rehearsal :=
  let (r, played) := Rehearsal.connect outcome s
  let (result, session) := t.finish (r, played.session)
  (result, { played with session := session })

/-- What trying for a connection comes to, where the engine answers the n-th time with the n-th
outcome. -/
structure Tried (outcome : Nat → Except AcquireError Connection) (before : Session) (asked : Nat)
    (result : Except (Halt Failure) Connection) (after : Session) : Prop where
  asked_of_first : ∀ k, FirstFinal outcome k → asked = min 3 k
  asked_of_none : (∀ i, 1 ≤ i → i ≤ 3 → isFinal (outcome i) = false) → asked = 3
  warned : after.warnings =
    before.warnings ++ [retryWarning 1 "500ms", retryWarning 2 "1s"].take (asked - 1)
  connected : ∀ c, result = .ok c ↔ outcome asked = .ok c
  failed : ∀ f, result = .error f ↔
    ∃ e detail, outcome asked = .error e ∧ e.report t = .connection detail ∧
      f = .error (.connection detail)
  blamed_last : ∀ i e, 1 ≤ i → i ≤ asked → outcome i = .error e → e.blames = true → i = asked

variable {t : Target} {outcome : Nat → Except AcquireError Connection} {before after : Session}
  {r : Except AcquireError Connection} {n : Nat}

theorem warnings_finish : (t.finish (r, after)).2.warnings = after.warnings := by
  cases r with
  | ok c => exact after.warnings_record (by decide) _ _
  | error e => rfl

theorem finish_eq_ok_iff {c : Connection} : (t.finish (r, after)).1 = .ok c ↔ r = .ok c := by
  cases r <;> simp [finish]

theorem finish_eq_error_iff {f : Halt Failure} :
    (t.finish (r, after)).1 = .error f ↔
      ∃ e detail, r = .error e ∧ e.report t = .connection detail ∧
        f = .error (.connection detail) := by
  cases r with
  | ok c => simp [finish]
  | error e =>
    constructor
    · intro hf
      cases hf
      exact ⟨e, _, rfl, rfl, rfl⟩
    · rintro ⟨e, detail, he, hreport, rfl⟩
      cases he
      rw [finish, hreport]

theorem finish_tried (hend : EndsAt outcome (n + 1)) (hr : r = outcome (n + 1))
    (hwarned : after.warnings = before.warnings ++
      (List.range n).map fun i ↦ retryWarning (i + 1) (durationText (delayAfter i))) :
    Tried t outcome before (n + 1) (t.finish (r, after)).1 (t.finish (r, after)).2 where
  asked_of_first k hk := hend.eq_min hk
  asked_of_none hnone := hend.eq_max hnone
  warned := by rw [warnings_finish, hwarned, retryWarnings_eq hend.le, Nat.add_sub_cancel]
  connected c := by rw [finish_eq_ok_iff, hr]
  failed f := by rw [finish_eq_error_iff, hr]
  blamed_last i e hi hle he hblames := by
    rcases Nat.eq_or_lt_of_le hle with hlast | hlt
    · exact hlast
    · have hpassing := hend.passing i hi hlt
      rw [he] at hpassing
      simp [isFinal, AcquireError.not_transient_of_blames hblames] at hpassing

theorem rehearse_tried (t : Target) (outcome : Nat → Except AcquireError Connection) (s : Session) :
    Tried t outcome s (t.rehearse outcome s).2.asked (t.rehearse outcome s).1
      (t.rehearse outcome s).2.session := by
  obtain ⟨n, hrun, hend⟩ := Rehearsal.connect_eq_met outcome s
  have hwarned := Rehearsal.warnings_met outcome s n
  have hfst := Rehearsal.met_fst outcome s n
  have hasked := Rehearsal.asked_met outcome s n
  rw [← hrun] at hwarned hfst hasked
  have h := finish_tried (t := t) hend hfst hwarned
  rwa [← hasked] at h

theorem connect_tried (t : Target) (s : Session) :
    ∃ asked, s.connect t = s.attemptMet t asked ∧
      Tried t (fun i ↦ (s.attemptMet t i).1) s asked ((connect t).run s).1 ((connect t).run s).2 := by
  obtain ⟨n, hrun, hend⟩ := attempts_eq_met Session.announce (Session.acquire t) Session.warnRetry s
  have hwarned := s.warnings_met t n
  rw [connect_run_eq_finish]
  refine ⟨n + 1, hrun, ?_⟩
  rw [← s.connect_eq_attempts t] at hrun
  rw [hrun]
  exact finish_tried hend rfl hwarned

/-- However the engine answers, it is asked up to the first answer that is a connection or an error
that will not pass, and three times at most; each retry is logged once with its wait; the last
answer is what comes out; and an error that blames the credentials or a name is the last. A session
with an engine of its own is such a run against the answers of that engine. -/
theorem connect_tries (t : Target) (s : Session) :
    (∀ outcome, Tried t outcome s (t.rehearse outcome s).2.asked (t.rehearse outcome s).1
      (t.rehearse outcome s).2.session) ∧
    ∃ asked, s.connect t = s.attemptMet t asked ∧
      Tried t (fun i ↦ (s.attemptMet t i).1) s asked ((connect t).run s).1 ((connect t).run s).2 :=
  ⟨fun outcome ↦ rehearse_tried t outcome s, connect_tried t s⟩

def localTarget : Target :=
  ⟨"kakapo", "secret", "127.0.0.1", 5432, "kakapo_db", .postgresql,
    ⟨"postgresql".toList, true, "kakapo".toList, some "secret".toList, some "127.0.0.1".toList,
      some 5432, "/kakapo_db".toList, none, none⟩, .standard⟩

def thirdTime : Nat → Except AcquireError Connection
  | 1 => .error .timedOut
  | 2 => .error (.other "Connection RESET by peer")
  | _ => .ok ⟨30, true⟩

theorem connect_tries_thirdTime : FirstFinal thirdTime 3 ∧
    (localTarget.rehearse thirdTime (.start .silent)).2.asked = 3 ∧
    (localTarget.rehearse thirdTime (.start .silent)).1 = .ok ⟨30, true⟩ ∧
    (localTarget.rehearse thirdTime (.start .silent)).2.session.warnings =
      [retryWarning 1 "500ms", retryWarning 2 "1s"] := by
  have hfirst : FirstFinal thirdTime 3 := by
    refine ⟨by decide, rfl, ?_⟩
    intro i hi hlt
    obtain rfl | rfl : i = 1 ∨ i = 2 := by omega
    · decide
    · decide
  have htried := (connect_tries localTarget (.start .silent)).1 thirdTime
  have hasked := htried.asked_of_first 3 hfirst
  have hwarned := htried.warned
  rw [hasked] at hwarned
  refine ⟨hfirst, hasked, (htried.connected ⟨30, true⟩).2 ?_, hwarned⟩
  rw [hasked]
  rfl

end Target

end ScriptEnv
