import ScriptEnv.Proofs.Target.ReadBack

namespace ScriptEnv.Target

variable {driver : Driver} {username password host database : String} {port : UInt16} {t : Target}

theorem sound_or_colon_of_read {s : String} {p : Profile} (h : Profile.ofConnectionString s = .ok p)
    (hhost : p.host = some host) : (∀ c ∈ host.toList, Url.isSound c = true) ∨ ':' ∈ host.toList := by
  obtain ⟨url, hurl, hspecial, hp⟩ := Profile.ofConnectionString_eq_ok h
  rw [(Profile.ofUrl_eq_ok hp).1] at hhost
  obtain ⟨text, htext, rfl⟩ := Option.map_eq_some_iff.1 hhost
  rw [String.toList_ofList]
  rcases (Url.readFrom_of_parse hurl hspecial).host hspecial htext with hsound | hcolon
  · -- Brackets are delimiters, so taking them off a sound text takes nothing off.
    have hbracket {b : Char} (hb : Url.isSound b = false) : b ∉ text := by
      intro hm
      rw [hsound b hm] at hb
      cases hb
    rw [Profile.withoutBrackets_eq_self (hbracket (by decide)) (hbracket (by decide))]
    exact .inl hsound
  · exact .inr (Profile.mem_withoutBrackets hcolon (by decide) (by decide))

theorem sound_of_read_back (h : build driver username password host port database = .ok t)
    (hcolon : ':' ∉ host.toList) {p : Profile}
    (hp : Profile.ofConnectionString t.connectionUrl = .ok p) (hhost : p.host = some host) :
    SoundHost host := by
  have hne : host ≠ "" := by
    rintro rfl
    exact (not_blank_of_build h).2.1 (by decide)
  exact ⟨hne, (sound_or_colon_of_read hp hhost).resolve_right hcolon⟩

/-- Of the hosts without a colon, those come back from the URL, together with the port and the name,
that hold no delimiter and nothing that has to be encoded. If any other host is accepted, then it is
read back as something else, or the URL is no connection string at all. -/
theorem host_survives_url_iff (h : build driver username password host port database = .ok t)
    (hcolon : ':' ∉ host.toList) :
    ((∃ p, Profile.ofConnectionString t.connectionUrl = .ok p ∧
      p.host = some host ∧ p.port = some port ∧ p.user = some username) ↔ SoundHost host) ∧
    ∀ p, Profile.ofConnectionString t.connectionUrl = .ok p → p.host = some host →
      p.port = some port ∧ p.user = some username := by
  refine ⟨⟨?_, fun hh ↦ ⟨_, read_back_of_sound h hh, rfl, rfl, rfl⟩⟩, fun p hp hhost ↦ ?_⟩
  · rintro ⟨p, hp, hhost, -⟩
    exact sound_of_read_back h hcolon hp hhost
  · cases hp.symm.trans (read_back_of_sound h (sound_of_read_back h hcolon hp hhost))
    exact ⟨rfl, rfl⟩

theorem host_survives_url_iff_slash :
    ∃ t, build .postgresql "u" "p" "a/b" 5432 "db" = .ok t ∧ ':' ∉ "a/b".toList ∧
      Profile.ofConnectionString t.connectionUrl =
        .ok ⟨some "a", none, some "b:5432/db", some "u", some "p"⟩ ∧
      ((∃ p, Profile.ofConnectionString t.connectionUrl = .ok p ∧
        p.host = some "a/b" ∧ p.port = some 5432 ∧ p.user = some "u") ↔ SoundHost "a/b") ∧
      ∀ p, Profile.ofConnectionString t.connectionUrl = .ok p → p.host = some "a/b" →
        p.port = some 5432 ∧ p.user = some "u" := by
  have hb : build .postgresql "u" "p" "a/b" 5432 "db" =
      .ok ⟨"u", "p", "a/b", 5432, "db", .postgresql,
        ⟨"postgresql".toList, true, ['u'], some ['p'], some ['a'], none, "/b:5432/db".toList, none,
          none⟩, .standard⟩ := by rfl
  exact ⟨_, hb, by decide, by rfl, host_survives_url_iff hb (by decide)⟩

end ScriptEnv.Target
