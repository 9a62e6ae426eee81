import ScriptEnv.Engine.Peer
import ScriptEnv.Target

namespace ScriptEnv

inductive AcquireError
  | timedOut
  | closed
  | refused (message : String)
  | other (text : String)
  deriving DecidableEq, Repr

def lostConnection : String :=
  "error communicating with database: expected to read 5 bytes, got 0 bytes at EOF"

namespace AcquireError

def text : AcquireError → String
  | timedOut => "pool timed out while waiting for an open connection"
  | closed => "attempted to acquire a connection on a closed pool"
  | refused message => "error returned from database: " ++ message
  | other text => text

def mentions (e : AcquireError) (words : String) : Bool :=
  Text.mentions words.toList (Text.lower e.text)

/-- Worth another attempt: a timeout of the pool, or words for a passing trouble and none that blame
the credentials or a name. -/
def isTransient (e : AcquireError) : Bool :=
  if e = timedOut then true
  else if e.mentions "authentication failed" || e.mentions "does not exist" then false
  else e.mentions "connection refused" || e.mentions "timed out"
    || e.mentions "temporarily unavailable" || e.mentions "connection reset"
    || e.mentions "broken pipe"

def report (t : Target) (e : AcquireError) : Failure :=
  .connection <|
    if e.mentions "connection refused" || e.mentions "could not connect" then
      s!"Cannot connect to {t.host}:{t.port}. Check that the server is running."
    else if e.mentions "authentication failed" then
      s!"Authentication failed for user '{t.username}'. Check your credentials."
    else if e.mentions "does not exist" && e.mentions "database" then
      s!"Database '{t.database}' does not exist."
    else if e.mentions "ssl" || e.mentions "tls" then "Server requires SSL."
    else if e.mentions "timed out" || e.mentions "timeout" then
      s!"Connection to {t.host}:{t.port} timed out. The server may be overloaded or unreachable."
    else e.text

end AcquireError

def maxAttempts : Nat := 3

/-- Milliseconds before the second attempt; each further wait is twice as long. -/
def firstDelay : Nat := 500

def durationText (millis : Nat) : String :=
  if millis % 1000 = 0 ∧ millis ≠ 0 then s!"{millis / 1000}s" else s!"{millis}ms"

variable {σ α : Type}

/-- Attempts until one succeeds, or fails for good, or none is left. `started` and `retried` record
each attempt, and each wait with its length in milliseconds. -/
def attempt (started : Nat → σ → σ) (acquire : σ → Except AcquireError α × σ)
    (retried : Nat → Nat → σ → σ) : Nat → Nat → Nat → σ → Except AcquireError α × σ
  | 0, _, _, s => (.error .timedOut, s)
  | left + 1, number, delay, s =>
    match acquire (started number s) with
    | (.ok a, s) => (.ok a, s)
    | (.error e, s) =>
      if left ≠ 0 ∧ e.isTransient then
        attempt started acquire retried left (number + 1) (2 * delay) (retried number delay s)
      else (.error e, s)

theorem attempt_eq_error {started : Nat → σ → σ} {acquire : σ → Except AcquireError α × σ}
    {retried : Nat → Nat → σ → σ} {Inv : σ → Prop} {e : AcquireError}
    (hstarted : ∀ n s, Inv s → Inv (started n s))
    (hretried : ∀ n d s, Inv s → Inv (retried n d s))
    (hacquire : ∀ s, Inv s → ∃ s', acquire s = (.error e, s') ∧ Inv s')
    (left number delay : Nat) {s : σ} (h : Inv s) :
    ∃ s', attempt started acquire retried (left + 1) number delay s = (.error e, s') ∧ Inv s' := by
  induction left generalizing number delay s with
  | zero =>
    obtain ⟨s', ha, h'⟩ := hacquire _ (hstarted number s h)
    refine ⟨s', ?_, h'⟩
    rw [attempt, ha]
    rfl
  | succ left ih =>
    obtain ⟨s', ha, h'⟩ := hacquire _ (hstarted number s h)
    rw [attempt, ha]
    dsimp only
    split
    · exact ih _ _ (hretried _ _ _ h')
    · exact ⟨s', rfl, h'⟩

def attempts (started : Nat → σ → σ) (acquire : σ → Except AcquireError α × σ)
    (retried : Nat → Nat → σ → σ) (s : σ) : Except AcquireError α × σ :=
  attempt started acquire retried maxAttempts 1 firstDelay s

end ScriptEnv
