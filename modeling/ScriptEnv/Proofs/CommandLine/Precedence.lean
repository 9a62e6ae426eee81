import ScriptEnv.CommandLine.Connection
import ScriptEnv.Proofs.CommandLine.Reading

namespace ScriptEnv.CommandLine

variable {words : List String} {v : Variables} {i : Invocation} {settings : Settings} {p : Profile}

/-- The password of a command line read where no variable is set. -/
def typedPassword (words : List String) : Option String :=
  (parse words .unset).toOption.bind (·.password)

theorem typedPassword_of_reads {l m : Level} {command : Builtin} (h : Reads words l m command) :
    typedPassword words = merged l m .password := by
  have hparse : parse words .unset = .ok (invocation l m none command) :=
    parse_eq_ok_iff.2 ⟨l, m, command, none, h, environmentPassword_unset m,
      ⟨none, environmentPassword_unset l⟩, rfl⟩
  rw [typedPassword, hparse]
  exact Option.or_none

theorem password_of_parse (h : parse words v = .ok i) :
    i.password = (typedPassword words).or (v.text? "PGPASSWORD") := by
  obtain ⟨l, m, command, password, hreads, hpassword, -, rfl⟩ := parse_eq_ok_iff.1 h
  rw [typedPassword_of_reads hreads]
  exact environmentPassword_eq_ok hpassword l

namespace Invocation

def urlProfile (i : Invocation) : Profile :=
  (i.url.bind fun url ↦ (Profile.ofConnectionString url).toOption).getD .empty

def fileProfile (i : Invocation) (settings : Settings) : Profile :=
  (settings.profile? i.connection).getD .empty

theorem base_eq_ok (h : i.base settings = .ok p) : i.fileProfile settings = p := by
  unfold base at h
  unfold fileProfile
  split at h
  · next hp =>
    rw [hp]
    exact Except.ok.inj h
  · next hc hp =>
    rw [hp]
    exact Except.ok.inj h
  · cases h

theorem overlay_of_profile? {q : Option Profile} (h : i.profile? = .ok q) (p : Profile) :
    { p.overlay (q.getD .empty) with
      password := i.password.or (p.overlay (q.getD .empty)).password } =
      p.overlay (i.urlProfile.overlay i.parts) := by
  unfold profile? at h
  unfold urlProfile
  split at h
  · next url hurl =>
    cases hp : Profile.ofConnectionString url with
    | error f =>
      rw [hp] at h
      cases h
    | ok u =>
      rw [hp] at h
      cases h
      have hpassword : i.password.or ((i.password.or u.password).or p.password) =
          (i.password.or u.password).or p.password := by
        cases i.password <;> rfl
      rw [hurl, Option.bind_some, hp]
      exact congrArg (Profile.mk _ _ _ _) hpassword
  · next hurl =>
    rw [hurl, Option.bind_none, Option.getD_none, Profile.empty_overlay]
    split at h
    · cases h
      have hpassword : i.password.or (i.password.or p.password) = i.password.or p.password := by
        cases i.password <;> rfl
      exact congrArg (Profile.mk _ _ _ _) hpassword
    · next hparts =>
      cases h
      simp only [Bool.or_eq_true, Option.isSome_iff_ne_none, not_or, Classical.not_not] at hparts
      obtain ⟨⟨⟨hhost, hport⟩, hdatabase⟩, huser⟩ := hparts
      rw [parts, hhost, hport, hdatabase, huser]
      rfl

theorem resolve_eq_ok (h : i.resolve settings v = .ok p) :
    ((i.fileProfile settings).overlay (i.urlProfile.overlay i.parts)).withDefaults v.text? = p := by
  unfold resolve at h
  obtain ⟨b, hb, h⟩ := bind_eq_ok.1 h
  obtain ⟨q, hq, h⟩ := bind_eq_ok.1 h
  rw [base_eq_ok hb, ← overlay_of_profile? hq]
  exact Except.ok.inj h

end Invocation

structure Passwords where
  typed : Option String
  environment : Option String
  url : Option String
  file : Option String

namespace Passwords

/-- The order that is meant, with the environment last. -/
def intended (s : Passwords) : Option String := s.typed.or (s.url.or (s.file.or s.environment))

/-- The order that is followed, with the environment before the URL and the file. -/
def followed (s : Passwords) : Option String := s.typed.or (s.environment.or (s.url.or s.file))

/-- A password is typed, or the environment has none to hide another one with. -/
def NothingHidden (s : Passwords) : Prop :=
  s.typed.isSome = true ∨ s.environment = none ∨ s.url.or s.file = none ∨
    s.url.or s.file = s.environment

theorem followed_eq_intended_iff (s : Passwords) : s.followed = s.intended ↔ s.NothingHidden := by
  obtain ⟨typed, environment, url, file⟩ := s
  unfold followed intended NothingHidden
  rw [← @Option.or_assoc _ url]
  generalize url.or file = known
  cases typed with
  | some s => exact iff_of_true rfl (.inl rfl)
  | none =>
    cases environment with
    | none => exact iff_of_true Option.or_none.symm (.inr (.inl rfl))
    | some e => cases known <;> simp [eq_comm]

def found (words : List String) (v : Variables) (settings : Settings) (i : Invocation) : Passwords :=
  ⟨typedPassword words, v.text? "PGPASSWORD", i.urlProfile.password,
    (i.fileProfile settings).password⟩

end Passwords

theorem password_followed (hi : parse words v = .ok i) (hp : i.resolve settings v = .ok p) :
    p.password = (Passwords.found words v settings i).followed := by
  calc p.password
    _ = ((i.password.or i.urlProfile.password).or (i.fileProfile settings).password).or
        (v.text? "PGPASSWORD") := by rw [← Invocation.resolve_eq_ok hp]; rfl
    _ = _ := by
      rw [password_of_parse hi, Passwords.found, Passwords.followed]
      cases typedPassword words <;> cases v.text? "PGPASSWORD" <;> simp

def urlWords : List String := ["--url", "postgresql://u:urlpass@h/db", "list", "tables"]

def passwordVariable : Variables :=
  ⟨fun name ↦ if name = "PGPASSWORD" then some ("envpass".toList.flatMap String.utf8EncodeChar)
    else none⟩

def urlInvocation : Invocation :=
  ⟨.list .table, some "postgresql://u:urlpass@h/db", none, none, none, none, some "envpass", none,
    none, "cli", "text", 0⟩

def urlResolved : Profile := ⟨some "h", none, some "db", some "u", some "envpass"⟩

/-- The environment counts before the URL and the file, so the order that is meant comes out exactly
where nothing is hidden by that. -/
theorem password_resolved_iff (words : List String) (v : Variables) (settings : Settings)
    (i : Invocation) (p : Profile) (hi : parse words v = .ok i)
    (hp : i.resolve settings v = .ok p) :
    p.password = (Passwords.found words v settings i).followed ∧
      (p.password = (Passwords.found words v settings i).intended ↔
        (Passwords.found words v settings i).NothingHidden) := by
  have hpassword := password_followed hi hp
  refine ⟨hpassword, ?_⟩
  rw [hpassword]
  exact Passwords.followed_eq_intended_iff _

theorem password_resolved_iff_url :
    (parse urlWords passwordVariable = .ok urlInvocation ∧
      urlInvocation.resolve .standard passwordVariable = .ok urlResolved) ∧
    urlResolved.password =
        (Passwords.found urlWords passwordVariable .standard urlInvocation).followed ∧
      (urlResolved.password =
          (Passwords.found urlWords passwordVariable .standard urlInvocation).intended ↔
        (Passwords.found urlWords passwordVariable .standard urlInvocation).NothingHidden) :=
  ⟨⟨rfl, rfl⟩, password_resolved_iff urlWords passwordVariable .standard urlInvocation urlResolved
    rfl rfl⟩

end ScriptEnv.CommandLine
