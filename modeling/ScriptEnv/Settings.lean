import ScriptEnv.Profile
import ScriptEnv.Toml.Decode

namespace ScriptEnv

structure Settings where
  tuning : Tuning
  profiles : List (String × Profile)
  deriving DecidableEq, Repr

inductive FileContent
  | absent
  | unreadable (reason : String)
  | bytes (b : List UInt8)
  deriving Repr

def FileContent.directory : FileContent := .unreadable "Is a directory (os error 21)"

namespace Tuning

def word (name : String) (size : Nat) (put : Partial → Nat → Partial) : Toml.Field Partial :=
  ⟨name, fun p i ↦ (Toml.naturalUpTo s!"u{size}" (Number.twoTo size - 1) i).map (put p), true⟩

def fileRecord : Toml.Record Partial where
  name := record.name
  start := .empty
  fields :=
    [word "max_connections" 32 fun p n ↦ { p with maxConnections := some (.ofNat n) },
      word "acquire_timeout_secs" 64 fun p n ↦ { p with acquireTimeout := some (.ofNat n) },
      word "query_timeout_secs" 64 fun p n ↦ { p with queryTimeout := some (.ofNat n) }]

end Tuning

namespace Profile

def textField (name : String) (put : Profile → String → Profile) : Toml.Field Profile :=
  ⟨name, fun p i ↦ (Toml.textValue i).map (put p), false⟩

def fileRecord : Toml.Record Profile where
  name := record.name
  start := .empty
  fields :=
    [textField "host" fun p s ↦ { p with host := some s },
      ⟨"port",
        fun p i ↦ (Toml.naturalUpTo "u16" 65535 i).map fun n ↦ { p with port := some (.ofNat n) },
        true⟩,
      textField "database" fun p s ↦ { p with database := some s },
      textField "user" fun p s ↦ { p with user := some s },
      textField "password" fun p s ↦ { p with password := some s }]

end Profile

namespace Settings

def standard : Settings := ⟨.standard, []⟩

instance : Inhabited Settings := ⟨standard⟩

def fileRecord : Toml.Record Settings where
  name := "Config"
  start := standard
  fields :=
    [⟨"engine", fun s i ↦ (Tuning.fileRecord.read i).map fun p ↦ { s with tuning := p.complete }, true⟩,
      ⟨"connections",
        fun s i ↦ (Toml.namedRecords Profile.fileRecord i).map fun ps ↦ { s with profiles := ps },
        true⟩]

def ofText (path : String) (text : List Char) : Except Failure Settings :=
  (Toml.decode fileRecord.read text).mapError fun message ↦
    .config s!"Configuration error in {path}:\n  {message}"

/-- The settings in a file; without a file they are the standard ones. -/
def ofFile (path : String) : FileContent → Except Failure Settings
  | .absent => .ok standard
  | .unreadable reason => .error (.config s!"Failed to read config file: {reason}")
  | .bytes b =>
    match Text.ofBytes? b with
    | some text => ofText path text.toList
    | none => .error (.config "Failed to read config file: stream did not contain valid UTF-8")

def profile? (s : Settings) (name : Option String) : Option Profile :=
  Keyed.find? (name.getD "default") s.profiles

end Settings

end ScriptEnv
