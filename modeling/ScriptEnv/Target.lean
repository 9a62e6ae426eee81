import ScriptEnv.Driver
import ScriptEnv.Failure
import ScriptEnv.Text.Blank
import ScriptEnv.Tuning
import ScriptEnv.Url.Basic

namespace ScriptEnv

/-- The first of the named texts that is blank, as a failure. -/
def requireText : List (String × String) → Except Failure Unit
  | [] => .ok ()
  | (name, text) :: r =>
    if Text.Blank text then .error (.config s!"'{name}' must not be empty") else requireText r

theorem requireText_eq_ok {fields : List (String × String)} :
    requireText fields = .ok () ↔ ∀ f ∈ fields, ¬Text.Blank f.2 := by
  induction fields with
  | nil => exact ⟨fun _ f hf ↦ absurd hf List.not_mem_nil, fun _ ↦ rfl⟩
  | cons f fields ih =>
    rw [List.forall_mem_cons, requireText]
    by_cases hf : Text.Blank f.2
    · rw [if_pos hf]
      exact ⟨nofun, fun h ↦ absurd hf h.1⟩
    · rw [if_neg hf, ih]
      exact ⟨fun h ↦ ⟨hf, h⟩, fun h ↦ h.2⟩

theorem requireText_eq_error {fields : List (String × String)} {f : Failure}
    (h : requireText fields = .error f) : ∃ detail, f = .config detail := by
  induction fields with
  | nil => cases h
  | cons field fields ih =>
    rw [requireText] at h
    split at h
    · cases h
      exact ⟨_, rfl⟩
    · exact ih h

structure Target where
  username : String
  password : String
  host : String
  port : UInt16
  database : String
  driver : Driver
  url : Url
  tuning : Tuning
  deriving Repr

namespace Target

/-- Encoded in the name and the password: everything with a meaning in the front of a URL. -/
def credentialSet : Url.EncodeSet := fun c ↦ Url.userinfoSet c || c == '%'

def databaseSet : Url.EncodeSet := fun c ↦ Url.pathSet c || c == '%' || c == '/'

/-- A host with a colon is an IPv6 address and is put into brackets, unless it begins with one. -/
def bracketed (host : String) : String :=
  let cs := host.toList
  if cs.contains ':' ∧ cs.head? ≠ some '[' then String.ofList ('[' :: cs ++ [']']) else host

def urlText (driver : Driver) (username password host : String) (port : UInt16)
    (database : String) : String :=
  let secret := if password = "" then []
    else ':' :: Url.percentEncode credentialSet password.toList
  String.ofList
    (driver.urlScheme.toList ++ "://".toList ++ Url.percentEncode credentialSet username.toList
      ++ secret ++ '@' :: host.toList ++ ':' :: Nat.toDigits 10 port.toNat
      ++ '/' :: Url.percentEncode databaseSet database.toList)

def build (driver : Driver) (username password host : String) (port : UInt16)
    (database : String) : Except Failure Target := do
  requireText [("username", username), ("host", host), ("database", database)]
  let shown := bracketed host
  match Url.parse (urlText driver username password shown port database) with
  | .ok url => .ok ⟨username, password, host, port, database, driver, url, .standard⟩
  | .error f => .error (.config s!"Invalid host '{shown}': {f.message}")

def connectionUrl (t : Target) : String := t.url.render

def display (t : Target) : String := s!"{t.database} @ {t.host}:{t.port}"

def describe (t : Target) : String :=
  let quoted (name value : String) : String := s!"{name}: {Text.quote value}, "
  "DatabaseInfo \x7b " ++ quoted "username" t.username ++ quoted "password" "***"
    ++ quoted "host" t.host ++ s!"port: {t.port}, " ++ quoted "database" t.database
    ++ s!"driver: {t.driver.label}" ++ " \x7d"

end Target

end ScriptEnv
