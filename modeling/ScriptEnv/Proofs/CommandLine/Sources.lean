import ScriptEnv.Proofs.CommandLine.Precedence

namespace ScriptEnv.CommandLine

variable {words : List String} {v : Variables} {i : Invocation} {settings : Settings} {p : Profile}

theorem parse_unset_of_parse (h : parse words v = .ok i) :
    parse words .unset = .ok { i with password := typedPassword words } := by
  obtain ⟨l, m, command, password, hreads, -, -, rfl⟩ := parse_eq_ok_iff.1 h
  refine parse_eq_ok_iff.2 ⟨l, m, command, none, hreads, environmentPassword_unset m,
    ⟨none, environmentPassword_unset l⟩, ?_⟩
  rw [typedPassword_of_reads hreads, invocation, Option.or_none]
  rfl

namespace Invocation

/-- What is given on the level after the verb, or else on the level before it. -/
structure Typed (i : Invocation) (before after : Level) : Prop where
  host : i.host = (after.value? .host).or (before.value? .host)
  port : i.port = ((after.value? .port).or (before.value? .port)).bind Level.port?
  database : i.database = (after.value? .database).or (before.value? .database)
  user : i.user = (after.value? .user).or (before.value? .user)
  url : i.url = (after.value? .url).or (before.value? .url)
  connection : i.connection = (after.value? .connection).or (before.value? .connection)

/-- Each part is the first that is known: typed, in the URL, in the file, in the environment. -/
structure Draws (i : Invocation) (file : Option Profile) (v : Variables) (p : Profile) : Prop where
  host : p.host = [i.host, i.urlProfile.host, file.bind (·.host), v.text? "PGHOST"].findSome? id
  port : p.port = [i.port, i.urlProfile.port, file.bind (·.port),
    (v.text? "PGPORT").bind fun t ↦ Number.port? t.toList].findSome? id
  database : p.database =
    [i.database, i.urlProfile.database, file.bind (·.database), v.text? "PGDATABASE"].findSome? id
  user : p.user = [i.user, i.urlProfile.user, file.bind (·.user), v.text? "PGUSER"].findSome? id

theorem typed_of_parse (h : parse words v = .ok i) :
    ∃ before after command, Reads words before after command ∧ i.Typed before after := by
  obtain ⟨before, after, command, password, hreads, -, -, rfl⟩ := parse_eq_ok_iff.1 h
  exact ⟨before, after, command, hreads, rfl, rfl, rfl, rfl, rfl, rfl⟩

theorem ofConnectionString_url {url : String} (hurl : i.url = some url)
    (h : i.resolve settings v = .ok p) : Profile.ofConnectionString url = .ok i.urlProfile := by
  unfold resolve at h
  obtain ⟨b, -, h⟩ := bind_eq_ok.1 h
  obtain ⟨q, hq, -⟩ := bind_eq_ok.1 h
  unfold profile? at hq
  rw [hurl] at hq
  dsimp only at hq
  cases hu : Profile.ofConnectionString url with
  | error f =>
    rw [hu] at hq
    cases hq
  | ok u => rw [urlProfile, hurl, Option.bind_some, hu]; rfl

theorem isSome_of_named {name : String} (hname : i.connection = some name)
    (h : i.resolve settings v = .ok p) : (Keyed.find? name settings.profiles).isSome = true := by
  unfold resolve at h
  obtain ⟨b, hb, -⟩ := bind_eq_ok.1 h
  unfold base Settings.profile? at hb
  rw [hname, Option.getD_some] at hb
  cases hf : Keyed.find? name settings.profiles with
  | none =>
    rw [hf] at hb
    cases hb
  | some f => rfl

theorem findSome?_four {α : Type} (a b c d : Option α) :
    [a, b, c, d].findSome? id = ((a.or b).or c).or d := by
  cases a <;> cases b <;> cases c <;> cases d <;> rfl

theorem resolve_draws (h : i.resolve settings v = .ok p) :
    i.Draws (Keyed.find? (i.connection.getD "default") settings.profiles) v p := by
  have hfile : i.fileProfile settings =
      (Keyed.find? (i.connection.getD "default") settings.profiles).getD .empty := rfl
  rw [← resolve_eq_ok h, hfile]
  cases Keyed.find? (i.connection.getD "default") settings.profiles <;>
    constructor <;> exact (findSome?_four _ _ _ _).symm

end Invocation

/-- Each of the four parts comes from the first place that knows it, whatever the places know about the
other parts, and stays open only where no place knows it. What is typed is free of the environment,
and where a URL or a named connection is asked for, it has been read. -/
theorem parts_resolved (words : List String) (v : Variables) (settings : Settings) (i : Invocation)
    (p : Profile) (hi : parse words v = .ok i) (hp : i.resolve settings v = .ok p) :
    i.Draws (Keyed.find? (i.connection.getD "default") settings.profiles) v p ∧
    (∃ before after command, Reads words before after command ∧ i.Typed before after) ∧
    parse words .unset = .ok { i with password := typedPassword words } ∧
    (i.url = none → i.urlProfile = .empty) ∧
    (∀ url, i.url = some url → Profile.ofConnectionString url = .ok i.urlProfile) ∧
    ∀ name, i.connection = some name → (Keyed.find? name settings.profiles).isSome = true := by
  refine ⟨Invocation.resolve_draws hp, Invocation.typed_of_parse hi, parse_unset_of_parse hi, ?_,
    fun _ hurl ↦ Invocation.ofConnectionString_url hurl hp,
    fun _ hname ↦ Invocation.isSome_of_named hname hp⟩
  intro hurl
  rw [Invocation.urlProfile, hurl]
  rfl

def layeredVariables : Variables :=
  ⟨fun name ↦ match name with
    | "PGHOST" | "PGPORT" | "PGDATABASE" | "PGUSER" =>
      some ("7000".toList.flatMap String.utf8EncodeChar)
    | _ => none⟩

def layeredSettings : Settings :=
  ⟨.standard, [("default", ⟨some "filehost", some 6000, some "filedb", none, none⟩),
    ("prod", ⟨some "prodhost", some 6001, none, some "produser", none⟩)]⟩

def layeredWords : List String := ["-p", "5432", "--url", "postgres://urlhost:6543", "list", "tables"]

def layeredInvocation : Invocation :=
  ⟨.list .table, some "postgres://urlhost:6543", none, some 5432, none, none, none, none, none, "cli",
    "text", 0⟩

def typedWords : List String :=
  ["-H", "typedhost", "--url", "postgres://urluser@urlhost/urldb", "list", "tables", "-d", "typeddb",
    "-U", "typeduser", "-c", "prod"]

def typedInvocation : Invocation :=
  ⟨.list .table, some "postgres://urluser@urlhost/urldb", some "typedhost", none, some "typeddb",
    some "typeduser", none, some "prod", none, "cli", "text", 0⟩

theorem parts_resolved_layered :
    (parse layeredWords layeredVariables = .ok layeredInvocation ∧
      layeredInvocation.resolve layeredSettings layeredVariables =
        .ok ⟨some "urlhost", some 5432, some "filedb", some "7000", none⟩ ∧
      layeredInvocation.Draws (Keyed.find? "default" layeredSettings.profiles) layeredVariables
        ⟨some "urlhost", some 5432, some "filedb", some "7000", none⟩) ∧
    parse typedWords layeredVariables = .ok typedInvocation ∧
      typedInvocation.resolve layeredSettings layeredVariables =
        .ok ⟨some "typedhost", some 6001, some "typeddb", some "typeduser", none⟩ ∧
      typedInvocation.Draws (Keyed.find? "prod" layeredSettings.profiles) layeredVariables
        ⟨some "typedhost", some 6001, some "typeddb", some "typeduser", none⟩ :=
  ⟨⟨rfl, rfl, (parts_resolved layeredWords layeredVariables layeredSettings layeredInvocation _ rfl
    rfl).1⟩, rfl, rfl, (parts_resolved typedWords layeredVariables layeredSettings typedInvocation _ rfl
    rfl).1⟩

end ScriptEnv.CommandLine
