namespace ScriptEnv

mutual

inductive Failure
  | connection (detail : String)
  | query (detail : String)
  | config (detail : String)
  | unimplemented (detail : String)
  | handler (raised : Raised)

inductive Raised
  | failure (f : Failure)
  | plain (text : String)
  | context (text : String) (inner : Raised)

end

deriving instance Repr for Failure, Raised

instance : Inhabited Failure := ⟨.config ""⟩

mutual

def Failure.message : Failure → String
  | .connection d => "Connection error: " ++ d
  | .query d => "Query error: " ++ d
  | .config d => "Configuration error: " ++ d
  | .unimplemented d => "Not implemented: " ++ d
  | .handler r => r.message

/-- Context stands in front of, and hides, what it was added to. -/
def Raised.message : Raised → String
  | .failure f => f.message
  | .plain t => t
  | .context t _ => t

end

theorem Failure.message_handler (r : Raised) : (Failure.handler r).message = r.message := rfl

theorem Raised.message_failure (f : Failure) : (Raised.failure f).message = f.message := rfl

theorem Raised.message_context (t : String) (r : Raised) : (Raised.context t r).message = t := rfl

namespace Failure

def category : Failure → String
  | connection _ => "Connection Error"
  | query _ => "Query Error"
  | config _ => "Configuration Error"
  | unimplemented _ => "Unimplemented"
  | handler _ => "Script Error"

def isUnimplemented : Failure → Bool
  | unimplemented _ => true
  | _ => false

def managementUnavailable : Failure :=
  unimplemented "management features not currently available"

end Failure

namespace Raised

/-- The failure under any context. -/
def failure? : Raised → Option Failure
  | failure f => some f
  | plain _ => none
  | context _ inner => inner.failure?

def reported (r : Raised) : Failure := r.failure?.getD (.handler r)

end Raised

theorem bind_eq_ok {ε α β : Type} {x : Except ε α} {f : α → Except ε β} {b : β} :
    (x >>= f) = .ok b ↔ ∃ a, x = .ok a ∧ f a = .ok b := by
  cases x with
  | error e => simp [bind, Except.bind]
  | ok a => simp [bind, Except.bind]

theorem map_eq_ok {ε α β : Type} {x : Except ε α} {f : α → β} {b : β} :
    x.map f = .ok b ↔ ∃ a, x = .ok a ∧ f a = b := by
  cases x <;> simp [Except.map]

end ScriptEnv
