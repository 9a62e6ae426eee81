import ScriptEnv.CommandLine.Basic

namespace ScriptEnv

namespace Variables

def under (directory name : String) : String :=
  if directory.endsWith "/" then directory ++ name else directory ++ "/" ++ name

def configDirectory? (v : Variables) (accountHome : Option String) : Option String :=
  match v.shown? "XDG_CONFIG_HOME" with
  | some d => if d.startsWith "/" then some d else underHome
  | none => underHome
where
  underHome : Option String :=
    let home := (v.shown? "HOME").filter (· ≠ "")
    (home.or accountHome).map (under · ".config")

def settingsPath (v : Variables) (accountHome : Option String) : String :=
  under (under ((v.configDirectory? accountHome).getD ".") "kakapo") "config.toml"

end Variables

namespace CommandLine.Invocation

def settingsPath (i : Invocation) (v : Variables) (accountHome : Option String) : String :=
  i.config.getD (v.settingsPath accountHome)

def parts (i : Invocation) : Profile := ⟨i.host, i.port, i.database, i.user, i.password⟩

/-- What the command line says about the connection, if anything; a password alone says nothing. -/
def profile? (i : Invocation) : Except Failure (Option Profile) :=
  match i.url with
  | some url => (Profile.ofConnectionString url).map fun p ↦ some (p.overlay i.parts)
  | none =>
    if i.host.isSome || i.port.isSome || i.database.isSome || i.user.isSome then .ok (some i.parts)
    else .ok none

def base (i : Invocation) (settings : Settings) : Except Failure Profile :=
  match i.connection, settings.profile? i.connection with
  | _, some p => .ok p
  | none, none => .ok .empty
  | some name, none => .error (.config s!"Connection '{name}' not found in config file")

def resolve (i : Invocation) (settings : Settings) (v : Variables) : Except Failure Profile := do
  let base ← i.base settings
  let p := base.overlay ((← i.profile?).getD .empty)
  .ok ({ p with password := i.password.or p.password }.withDefaults v.text?)

end CommandLine.Invocation

end ScriptEnv
