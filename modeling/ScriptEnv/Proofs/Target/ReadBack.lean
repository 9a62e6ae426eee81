import ScriptEnv.Profile
import ScriptEnv.Proofs.Target.PlainHost
import ScriptEnv.Proofs.Url.Reading

namespace ScriptEnv.Target

open Url (Covers Parts percentEncode)

/-- Names that stand for a step in a path. -/
def IsDots (name : String) : Prop := name = "." ∨ name = ".."

instance (name : String) : Decidable (IsDots name) :=
  inferInstanceAs (Decidable (name = "." ∨ name = ".."))

theorem percent_mem_credentialSet : credentialSet '%' = true := by decide

theorem percent_mem_databaseSet : databaseSet '%' = true := by decide

theorem covers_userinfoSet : Covers credentialSet Url.userinfoSet where
  encoded := by
    intro c h
    simp [credentialSet, h]
  escapes := by decide

theorem covers_segmentSet : Covers databaseSet Url.segmentSet where
  encoded := by
    intro c h
    simp only [Url.segmentSet, Bool.or_eq_true] at h
    rcases h with h | h <;> simp [databaseSet, h]
  escapes := by decide

theorem kept_encoded (database : String) :
    Parts.kept (percentEncode databaseSet database.toList) =
      if IsDots database then [] else percentEncode databaseSet database.toList := by
  have hp := percent_mem_databaseSet
  have hd : Url.encodes databaseSet '.' = false := by decide
  have hdots : (Url.isDoubleDot (percentEncode databaseSet database.toList) ||
      Url.isDot (percentEncode databaseSet database.toList)) = true ↔ IsDots database := by
    rw [Bool.or_eq_true, Url.isDoubleDot_percentEncode hp hd, Url.isDot_percentEncode hp hd,
      IsDots, ← String.toList_inj, ← String.toList_inj]
    exact or_comm
  unfold Parts.kept
  by_cases h : IsDots database
  · rw [if_pos (hdots.2 h), if_pos h]
  · rw [if_neg (mt hdots.1 h), if_neg h]

theorem decodeOptional_percentEncode {set : Url.EncodeSet} (h : set '%' = true) (field : String)
    (s : Option String) :
    Profile.decodeOptional field (s.map fun t ↦ percentEncode set t.toList) = .ok s := by
  cases s with
  | none => rfl
  | some t =>
    rw [Option.map_some, Profile.decodeOptional, Profile.decodePart,
      Url.percentText?_percentEncode h]
    rfl

theorem databasePath_cons {name : List Char} (h : name ≠ []) :
    Profile.databasePath ('/' :: name) = some name := by
  obtain ⟨c, r, rfl⟩ := List.exists_cons_of_ne_nil h
  rfl

section

variable {driver : Driver} {username password host database : String} {port : UInt16}

def shownPassword (password : String) : Option String := if password = "" then none else some password

def parts (username password host : String) (port : UInt16) (database : String)
    (hu : ¬Text.Blank username) (hh : SoundHost host) : Parts where
  user := percentEncode credentialSet username.toList
  secret := (shownPassword password).map fun s ↦ percentEncode credentialSet s.toList
  host := host.toList
  port := port.toNat
  name := percentEncode databaseSet database.toList
  user_ne_nil := Url.percentEncode_ne_nil (Text.ne_nil_of_not_blank hu)
  user_settled := covers_userinfoSet.settled _
  secret_settled := by
    intro p hp
    obtain ⟨s, hs, rfl⟩ := Option.map_eq_some_iff.1 hp
    refine ⟨Url.percentEncode_ne_nil ?_, covers_userinfoSet.settled _⟩
    unfold shownPassword at hs
    split at hs
    · exact absurd hs (Option.some_ne_none s).symm
    · next hne =>
      cases hs
      rwa [Ne, ← String.toList_empty, String.toList_inj]
  host_ne_nil := hh.toList_ne_nil
  host_allowed := hh.allowed
  port_le := by
    have hp := port.toNat_lt
    omega
  name_settled := covers_segmentSet.settled _

variable (hu : ¬Text.Blank username) (hh : SoundHost host) (hd : ¬Text.Blank database)

include hu hh

theorem urlText_eq : urlText driver username password host port database =
    String.ofList (parts username password host port database hu hh).text := by
  have hscheme : driver.urlScheme.toList = Parts.scheme := by
    cases driver
    rfl
  have hslashes : "://".toList = [':', '/', '/'] := rfl
  have hsecret : (if password = "" then []
      else ':' :: percentEncode credentialSet password.toList) =
      Url.marked ':' ((shownPassword password).map fun s ↦ percentEncode credentialSet s.toList) := by
    unfold shownPassword
    split <;> rfl
  unfold urlText
  dsimp only
  rw [hscheme, hslashes, hsecret]
  simp only [Parts.text, Parts.info, Parts.place, parts, List.append_assoc, List.cons_append]

include hd

theorem build_eq : build driver username password host port database =
    .ok ⟨username, password, host, port, database, driver,
      (parts username password host port database hu hh).url, .standard⟩ := by
  have hr : requireText [("username", username), ("host", host), ("database", database)] = .ok () := by
    simp only [requireText, if_neg hu, if_neg hh.not_blank, if_neg hd]
  have hp : Url.parse (urlText driver username password host port database) =
      .ok (parts username password host port database hu hh).url := by
    rw [urlText_eq hu hh, Parts.parse_text]
  simp only [build, hr, hh.bracketed_eq, hp, bind, Except.bind]

theorem ofUrl_eq : Profile.ofUrl (parts username password host port database hu hh).url =
    .ok ⟨some host, some port, if IsDots database then none else some database, some username,
      shownPassword password⟩ := by
  have hname : percentEncode credentialSet username.toList ≠ [] :=
    Url.percentEncode_ne_nil (Text.ne_nil_of_not_blank hu)
  have hpath : Profile.databasePath
      ('/' :: Parts.kept (percentEncode databaseSet database.toList)) =
      (if IsDots database then none else some database).map fun s ↦
        percentEncode databaseSet s.toList := by
    rw [kept_encoded]
    split
    · rfl
    · exact databasePath_cons (Url.percentEncode_ne_nil (Text.ne_nil_of_not_blank hd))
  have huser : Profile.decodeOptional "user" (some (percentEncode credentialSet username.toList)) =
      .ok (some username) :=
    decodeOptional_percentEncode percent_mem_credentialSet "user" (some username)
  have hhost : percentEncode Url.controls host.toList = host.toList :=
    Url.percentEncode_eq_self hh.settled
  simp only [Profile.ofUrl, Parts.url, parts, hpath, if_neg hname, hhost, huser,
    decodeOptional_percentEncode percent_mem_databaseSet,
    decodeOptional_percentEncode percent_mem_credentialSet, bind, Except.bind, Option.map_some,
    hh.withoutBrackets_eq, String.ofList_toList, UInt16.ofNat_toNat]

variable (driver password port) in
theorem ofConnectionString_connectionUrl_of_sound :
    ∃ t, build driver username password host port database = .ok t ∧
      Profile.ofConnectionString t.connectionUrl =
        .ok ⟨some host, some port, if IsDots database then none else some database,
          some username, shownPassword password⟩ := by
  have hscheme : Driver.parse? (String.ofList Parts.scheme) = some .postgresql := by decide
  refine ⟨_, build_eq hu hh hd, ?_⟩
  unfold Profile.ofConnectionString connectionUrl
  rw [Parts.parse_render_url]
  dsimp only [Parts.url]
  rw [hscheme]
  exact ofUrl_eq hu hh hd

end

variable {driver : Driver} {username password host database : String} {port : UInt16} {t : Target}

theorem not_blank_of_build (h : build driver username password host port database = .ok t) :
    ¬Text.Blank username ∧ ¬Text.Blank host ∧ ¬Text.Blank database := by
  unfold build at h
  cases hr : requireText [("username", username), ("host", host), ("database", database)] with
  | error f =>
    rw [hr] at h
    cases h
  | ok u =>
    have hall := requireText_eq_ok.1 hr
    simpa only [List.forall_mem_cons, List.not_mem_nil, false_implies, implies_true, and_true] using hall

theorem read_back_of_sound (h : build driver username password host port database = .ok t)
    (hh : SoundHost host) :
    Profile.ofConnectionString t.connectionUrl =
      .ok ⟨some host, some port, if IsDots database then none else some database,
        some username, shownPassword password⟩ := by
  obtain ⟨hu, -, hd⟩ := not_blank_of_build h
  obtain ⟨t', ht, hp⟩ := ofConnectionString_connectionUrl_of_sound driver password port hu hh hd
  cases ht.symm.trans h
  exact hp

theorem ofConnectionString_connectionUrl (driver : Driver) (password : String) (port : UInt16)
    (hu : ¬Text.Blank username) (hh : PlainHost host) (hd : ¬Text.Blank database) :
    ∃ t, build driver username password host port database = .ok t ∧
      Profile.ofConnectionString t.connectionUrl =
        .ok ⟨some host, some port, if IsDots database then none else some database,
          some username, shownPassword password⟩ :=
  ofConnectionString_connectionUrl_of_sound driver password port hu hh.sound hd

theorem read_back (h : build driver username password host port database = .ok t)
    (hh : PlainHost host) :
    Profile.ofConnectionString t.connectionUrl =
      .ok ⟨some host, some port, if IsDots database then none else some database,
        some username, shownPassword password⟩ :=
  read_back_of_sound h hh.sound

/-- Name, password, host and port come back from the URL, whatever characters they hold. -/
theorem credentials_survive_url (driver : Driver) (username password host database : String)
    (port : UInt16) (hu : ¬Text.Blank username) (hd : ¬Text.Blank database)
    (hh : PlainHost host) :
    ∃ t p, build driver username password host port database = .ok t ∧
      Profile.ofConnectionString t.connectionUrl = .ok p ∧
      p.user = some username ∧ p.password = (if password = "" then none else some password) ∧
      p.host = some host ∧ p.port = some port := by
  obtain ⟨t, ht, hp⟩ := ofConnectionString_connectionUrl driver password port hu hh hd
  exact ⟨t, _, ht, hp, rfl, rfl, rfl, rfl⟩

theorem credentials_survive_url_delimiters :
    (¬Text.Blank "a:b@c%41\t" ∧ ¬Text.Blank ".." ∧ PlainHost "db-1.example_net") ∧
    ∃ t p, build .postgresql "a:b@c%41\t" "/?#[é]" "db-1.example_net" 0 ".." = .ok t ∧
      Profile.ofConnectionString t.connectionUrl = .ok p ∧
      p.user = some "a:b@c%41\t" ∧
      p.password = (if "/?#[é]" = "" then none else some "/?#[é]") ∧
      p.host = some "db-1.example_net" ∧ p.port = some 0 :=
  ⟨by decide, credentials_survive_url _ _ _ _ _ _ (by decide) (by decide) (by decide)⟩

theorem not_blank_of_isDots (h : IsDots database) : ¬Text.Blank database := by
  rcases h with rfl | rfl <;> decide

theorem connectionUrl_of_isDots (hu : ¬Text.Blank username) (hh : PlainHost host)
    (hd : IsDots database) (h : build driver username password host port database = .ok t)
    {database' : String} (hd' : IsDots database') :
    ∃ t', build driver username password host port database' = .ok t' ∧
      t'.connectionUrl = t.connectionUrl := by
  refine ⟨_, build_eq hu hh.sound (not_blank_of_isDots hd'), ?_⟩
  cases (build_eq hu hh.sound (not_blank_of_isDots hd)).symm.trans h
  simp only [connectionUrl, Parts.url, parts, kept_encoded, if_pos hd, if_pos hd']

/-- The name of the database comes back from the URL exactly if it is no step of a path. Only such
names share a URL, and they all do. -/
theorem database_survives_url_iff (driver : Driver) (username password host database : String)
    (port : UInt16) (hu : ¬Text.Blank username) (hd : ¬Text.Blank database)
    (hh : PlainHost host) :
    ∃ t p, build driver username password host port database = .ok t ∧
      Profile.ofConnectionString t.connectionUrl = .ok p ∧
      (p.database = some database ↔ ¬IsDots database) ∧
      (∀ driver' username' password' host' port' database' t', PlainHost host' →
        build driver' username' password' host' port' database' = .ok t' →
        t'.connectionUrl = t.connectionUrl →
        database' = database ∨ IsDots database' ∧ IsDots database) ∧
      (IsDots database → p.database = none ∧ ∀ database', IsDots database' →
        ∃ t', build driver username password host port database' = .ok t' ∧
          t'.connectionUrl = t.connectionUrl) := by
  obtain ⟨t, ht, hp⟩ := ofConnectionString_connectionUrl driver password port hu hh hd
  refine ⟨t, _, ht, hp, ?_, ?_, ?_⟩
  · by_cases h : IsDots database <;> simp [h]
  · intro _ _ _ _ _ database' t' hh' ht' hurl
    have hp' := read_back ht' hh'
    rw [hurl, hp] at hp'
    have hdb := congrArg Profile.database (Except.ok.inj hp')
    by_cases h : IsDots database <;> by_cases h' : IsDots database' <;> simp_all
  · intro h
    exact ⟨if_pos h, fun _ h' ↦ connectionUrl_of_isDots hu hh h ht h'⟩

theorem database_survives_url_iff_dot :
    (¬Text.Blank "u" ∧ ¬Text.Blank "." ∧ PlainHost "h") ∧
    ∃ t p, build .postgresql "u" "p" "h" 5432 "." = .ok t ∧
      Profile.ofConnectionString t.connectionUrl = .ok p ∧
      (p.database = some "." ↔ ¬IsDots ".") ∧
      (∀ driver' username' password' host' port' database' t', PlainHost host' →
        build driver' username' password' host' port' database' = .ok t' →
        t'.connectionUrl = t.connectionUrl →
        database' = "." ∨ IsDots database' ∧ IsDots ".") ∧
      (IsDots "." → p.database = none ∧ ∀ database', IsDots database' →
        ∃ t', build .postgresql "u" "p" "h" 5432 database' = .ok t' ∧
          t'.connectionUrl = t.connectionUrl) :=
  ⟨by decide, database_survives_url_iff _ _ _ _ _ _ (by decide) (by decide) (by decide)⟩

end ScriptEnv.Target
