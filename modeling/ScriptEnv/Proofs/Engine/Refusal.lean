import ScriptEnv.Proofs.Engine.Retry

namespace ScriptEnv

def missingDatabase (t : Target) : Failure :=
  .connection s!"Database '{t.database}' does not exist."

def tells (message words : String) : Bool := Text.mentions words.toList (Text.lower message)

/-- The message holds words that are looked for before those of a missing database. -/
def blamesOther (message : String) : Bool :=
  tells message "connection refused" || tells message "could not connect" ||
    tells message "authentication failed"

def missingRole (name : String) : String := s!"role \"{name}\" does not exist"

theorem tells_quoted {words : String} (hquote : '"' ∉ words.toList) (hne : words.toList ≠ [])
    (before name after : String) :
    tells (before ++ "\"" ++ name ++ "\"" ++ after) words =
      (tells before words || (tells name words || tells after words)) := by
  have hlower : Text.lower "\"" = ['"'] := rfl
  unfold tells
  rw [Text.lower_append, Text.lower_append, Text.lower_append, Text.lower_append, hlower,
    List.append_assoc, List.append_assoc, List.append_assoc, List.singleton_append,
    List.singleton_append, Text.mentions_append_cons hquote hne,
    Text.mentions_append_cons hquote hne]

theorem tells_missingRole {words : String} (hquote : '"' ∉ words.toList) (hne : words.toList ≠ [])
    (name : String) :
    tells (missingRole name) words =
      (tells "role " words || (tells name words || tells " does not exist" words)) := by
  rw [← tells_quoted hquote hne]
  unfold missingRole
  congr 1
  simp [toString, String.append_assoc]

theorem blamesOther_missingRole (name : String) :
    blamesOther (missingRole name) = blamesOther name := by
  unfold blamesOther
  rw [tells_missingRole (by decide) (by decide), tells_missingRole (by decide) (by decide),
    tells_missingRole (by decide) (by decide)]
  have hbefore : tells "role " "connection refused" = false ∧ tells "role " "could not connect" = false ∧
      tells "role " "authentication failed" = false := by decide
  have hafter : tells " does not exist" "connection refused" = false ∧
      tells " does not exist" "could not connect" = false ∧
      tells " does not exist" "authentication failed" = false := by decide
  simp only [hbefore, hafter, Bool.false_or, Bool.or_false]

theorem tells_missing_missingRole (name : String) :
    tells (missingRole name) "does not exist" = true := by
  have hafter : tells " does not exist" "does not exist" = true := by decide
  rw [tells_missingRole (by decide) (by decide), hafter, Bool.or_true, Bool.or_true]

namespace AcquireError

theorem mentions_refused {words : String} (hcolon : ':' ∉ words.toList)
    (hstart : words.toList.head? ≠ some ' ') (hne : words.toList ≠ []) (message : String) :
    (refused message).mentions words =
      (tells "error returned from database" words || tells message words) := by
  have hlead : Text.lower "error returned from database: " =
      Text.lower "error returned from database" ++ [':', ' '] := rfl
  obtain ⟨w, r, hw⟩ := List.exists_cons_of_ne_nil hne
  rw [hw, List.head?_cons, Ne, Option.some_inj] at hstart
  unfold mentions tells text
  rw [Text.lower_append, hlead, List.append_assoc, List.cons_append, List.singleton_append,
    Text.mentions_append_cons hcolon hne, hw, Text.mentions_cons_of_ne hstart]

theorem mentions_refused_of_not_lead {words : String} (hcolon : ':' ∉ words.toList)
    (hstart : words.toList.head? ≠ some ' ') (hne : words.toList ≠ [])
    (hlead : tells "error returned from database" words = false) (message : String) :
    (refused message).mentions words = tells message words := by
  rw [mentions_refused hcolon hstart hne, hlead, Bool.false_or]

/-- The lead itself speaks of a database. -/
theorem mentions_database_refused (message : String) :
    (refused message).mentions "database" = true := by
  have hlead : tells "error returned from database" "database" = true := by decide
  rw [mentions_refused (by decide) (by decide) (by decide), hlead, Bool.true_or]

theorem mentions_refused_blamesOther (message : String) :
    ((refused message).mentions "connection refused" || (refused message).mentions "could not connect" ||
      (refused message).mentions "authentication failed") = blamesOther message := by
  unfold blamesOther
  rw [mentions_refused_of_not_lead (by decide) (by decide) (by decide) (by decide),
    mentions_refused_of_not_lead (by decide) (by decide) (by decide) (by decide),
    mentions_refused_of_not_lead (by decide) (by decide) (by decide) (by decide)]

theorem mentions_missing_refused (message : String) :
    (refused message).mentions "does not exist" = tells message "does not exist" :=
  mentions_refused_of_not_lead (by decide) (by decide) (by decide) (by decide) message

def Begins (c : Char) (s : String) : Prop := s.toList.head? = some c

theorem Begins.append {c : Char} {s : String} (h : Begins c s) (t : String) : Begins c (s ++ t) := by
  unfold Begins at h ⊢
  rw [String.toList_append, List.head?_append, h, Option.some_or]

theorem Begins.ne {c d : Char} {s t : String} (hs : Begins c s) (ht : Begins d t) (h : c ≠ d) :
    s ≠ t := by
  rintro rfl
  exact h (Option.some_inj.1 (hs.symm.trans ht))

theorem report_refused_iff (t : Target) (message : String) :
    (refused message).report t = missingDatabase t ↔
      tells message "does not exist" = true ∧ blamesOther message = false := by
  rw [← mentions_refused_blamesOther, ← mentions_missing_refused]
  unfold report missingDatabase
  rw [Failure.connection.injEq, mentions_database_refused, Bool.and_true]
  -- The reports differ in how they begin.
  have hdatabase : Begins 'D' s!"Database '{t.database}' does not exist." := by
    iterate 2 apply Begins.append
    rfl
  constructor
  · intro h
    split at h
    · refine absurd h (Begins.ne ?_ hdatabase (by decide : 'C' ≠ 'D'))
      iterate 4 apply Begins.append
      rfl
    split at h
    · refine absurd h (Begins.ne ?_ hdatabase (by decide : 'A' ≠ 'D'))
      iterate 2 apply Begins.append
      rfl
    split at h
    · next hconnection hauthentication hmissing =>
      exact ⟨hmissing, Bool.or_eq_false_iff.2
        ⟨Bool.eq_false_iff.2 hconnection, Bool.eq_false_iff.2 hauthentication⟩⟩
    split at h
    · refine absurd h (Begins.ne ?_ hdatabase (by decide : 'S' ≠ 'D'))
      rfl
    split at h
    · refine absurd h (Begins.ne ?_ hdatabase (by decide : 'C' ≠ 'D'))
      iterate 4 apply Begins.append
      rfl
    · refine absurd h (Begins.ne ?_ hdatabase (by decide : 'e' ≠ 'D'))
      apply Begins.append
      rfl
  · rintro ⟨hmissing, hother⟩
    obtain ⟨hconnection, hauthentication⟩ := Bool.or_eq_false_iff.1 hother
    rw [hconnection, hauthentication, hmissing]
    rfl

end AcquireError

namespace Session

variable {t : Target} {s : Session} {r : Refusal}

/-- A server that refuses whoever comes, and a pool that has to ask it. -/
structure Refuses (t : Target) (r : Refusal) (s : Session) : Prop where
  peer : ∃ statements, s.peer = .server ⟨[.refuses r], statements⟩
  isOpen : (s.pool.getD newPool).closed = false
  room : (s.pool.getD newPool).held < t.tuning.poolSize
  none_idle : (s.pool.getD newPool).idle = 0

theorem Refuses.record (h : Refuses t r s) (level : Level) (source message : String) :
    Refuses t r (s.record level source message) :=
  ⟨h.peer, h.isOpen, h.room, h.none_idle⟩

theorem Refuses.ensureEngine (h : Refuses t r s) : Refuses t r (s.ensureEngine t) := by
  unfold Session.ensureEngine
  split
  · exact h
  · next hpool =>
    obtain ⟨hpeer, hopen, hroom, hidle⟩ := h
    rw [hpool] at hopen hroom hidle
    exact ⟨hpeer, hopen, hroom, hidle⟩

theorem Refuses.openConnection (h : Refuses t r s) :
    ∃ s', s.openConnection t = (.error (.refused r.message), s') ∧ Refuses t r s' := by
  obtain ⟨statements, hpeer⟩ := h.peer
  unfold Session.openConnection
  rw [hpeer]
  exact ⟨_, rfl, ⟨statements, rfl⟩, h.isOpen, h.room, h.none_idle⟩

theorem Refuses.acquire (ht : t.tuning.acquireTimeout ≠ 0) (h : Refuses t r s) :
    ∃ s', s.acquire t = (.error (.refused r.message), s') ∧ Refuses t r s' := by
  obtain ⟨s', hs', h'⟩ := h.ensureEngine.openConnection
  refine ⟨s', ?_, h'⟩
  have hfree : ¬(t.tuning.acquireTimeout = 0 ∨
      t.tuning.poolSize ≤ ((s.ensureEngine t).pool.getD newPool).held) := by
    have hroom := h.ensureEngine.room
    rintro (h0 | hfull)
    · exact ht h0
    · omega
  unfold Session.acquire
  dsimp only
  rw [h.ensureEngine.isOpen, if_neg Bool.false_ne_true, if_neg hfree, h.ensureEngine.none_idle,
    if_neg (Nat.lt_irrefl 0), hs']

theorem Refuses.connect (ht : t.tuning.acquireTimeout ≠ 0) (h : Refuses t r s) :
    (s.connect t).1 = .error (.refused r.message) := by
  have hrun : ∃ s', s.connect t = (.error (.refused r.message), s') ∧ Refuses t r s' := by
    unfold Session.connect attempts
    exact attempt_eq_error (fun _ _ h ↦ h.record _ _ _) (fun _ _ _ h ↦ h.record _ _ _)
      (fun _ h ↦ h.acquire ht) 2 1 firstDelay h
  obtain ⟨s', hs', -⟩ := hrun
  rw [hs']

end Session

namespace Target

variable {t : Target} {s : Session}

def ReportsMissing (t : Target) (s : Session) : Prop :=
  ((connect t).run s).1 = .error (.error (missingDatabase t))

theorem connect_error {e : AcquireError} (h : (s.connect t).1 = .error e) :
    ((connect t).run s).1 = .error (.error (e.report t)) := by
  rw [connect_run]
  obtain ⟨r, s', hs⟩ : ∃ r s', s.connect t = (r, s') := ⟨_, _, rfl⟩
  rw [hs] at h ⊢
  cases h
  rfl

theorem reportsMissing_iff {message : String} (h : (s.connect t).1 = .error (.refused message)) :
    ReportsMissing t s ↔ tells message "does not exist" = true ∧ blamesOther message = false := by
  rw [← AcquireError.report_refused_iff t, ReportsMissing, connect_error h, Except.error.injEq,
    Halt.error.injEq]

theorem reportsMissing_of_missingRole {name : String} (ht : t.tuning.acquireTimeout ≠ 0)
    (hs : Session.Refuses t (.ofMessage (missingRole name)) s) (hname : blamesOther name = false) :
    ReportsMissing t s := by
  rw [reportsMissing_iff (hs.connect ht)]
  exact ⟨tells_missing_missingRole name, (blamesOther_missingRole name).trans hname⟩

def strangerSession (name : String) : Session :=
  .start (.server ⟨[.refuses (.ofMessage (missingRole name))], []⟩)

theorem strangerSession_refuses (name : String) :
    Session.Refuses localTarget (.ofMessage (missingRole name)) (strangerSession name) where
  peer := ⟨[], rfl⟩
  isOpen := rfl
  room := Nat.lt_of_lt_of_le Nat.zero_lt_one (Nat.le_max_left 1 _)
  none_idle := rfl

/-- A refusal is reported as a missing database exactly if it tells of something that does not exist
and of none of the troubles looked for first. It need not tell of a database: the role that is
missing is such a refusal. -/
theorem refusal_reported_missing_iff (t : Target) (s : Session) (message : String)
    (h : (s.connect t).1 = .error (.refused message)) :
    (ReportsMissing t s ↔ tells message "does not exist" = true ∧ blamesOther message = false) ∧
      ((ReportsMissing t s →
          tells message "database" = true ∧ tells message "does not exist" = true) ↔
        ¬(tells message "does not exist" = true ∧ blamesOther message = false ∧
          tells message "database" = false)) ∧
      ∀ name, message = missingRole name → (ReportsMissing t s ↔ blamesOther name = false) := by
  have hiff := reportsMissing_iff h
  refine ⟨hiff, ?_, ?_⟩
  · rw [hiff]
    cases tells message "database" <;> cases tells message "does not exist" <;>
      cases blamesOther message <;> decide
  · rintro name rfl
    rw [hiff, tells_missing_missingRole, blamesOther_missingRole, eq_self, true_and]

theorem refusal_reported_missing_role :
    ((strangerSession "bob").connect localTarget).1 = .error (.refused (missingRole "bob")) ∧
    (ReportsMissing localTarget (strangerSession "bob") ↔
        tells (missingRole "bob") "does not exist" = true ∧
          blamesOther (missingRole "bob") = false) ∧
      ((ReportsMissing localTarget (strangerSession "bob") →
          tells (missingRole "bob") "database" = true ∧
            tells (missingRole "bob") "does not exist" = true) ↔
        ¬(tells (missingRole "bob") "does not exist" = true ∧
          blamesOther (missingRole "bob") = false ∧
          tells (missingRole "bob") "database" = false)) ∧
      ∀ name, missingRole "bob" = missingRole name →
        (ReportsMissing localTarget (strangerSession "bob") ↔ blamesOther name = false) :=
  have h := (strangerSession_refuses "bob").connect (by decide)
  ⟨h, refusal_reported_missing_iff localTarget (strangerSession "bob") _ h⟩

end Target

end ScriptEnv
