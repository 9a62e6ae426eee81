import ScriptEnv.Proofs.Profile.Reading

namespace ScriptEnv.Profile

open Url (HasOpaquePath Rooted cleaned cutScheme ofPath)

variable {s : String} {url : Url} {p : Profile}

def pathText? : List Char → Option String
  | '/' :: r => Url.percentText? r
  | r => Url.percentText? r

def KeepsPath (url : Url) (p : Profile) : Prop :=
  url.path ≠ [] → url.path ≠ ['/'] →
    ∃ database, pathText? url.path = some database ∧ p.database = some database

theorem keepsPath_of_rooted (h : ofUrl url = .ok p) (hpath : url.path = [] ∨ Rooted url.path) :
    KeepsPath url p := by
  intro hne hslash
  have hdatabase := (ofUrl_eq_ok h).2
  rcases hpath with hpath | hpath
  · exact absurd hpath hne
  · obtain ⟨r, hr⟩ := Url.rooted_iff.1 hpath
    rw [hr] at hdatabase hslash ⊢
    cases r with
    | nil => exact absurd rfl hslash
    | cons c r =>
      obtain ⟨database, hd, hp⟩ := map_eq_ok.1 hdatabase
      exact ⟨database, decodePart_eq_ok.1 hd, hp.symm⟩

theorem databasePath_of_not_rooted {path : List Char} (h : ¬Rooted path) :
    databasePath path = none := by
  unfold databasePath
  split
  · exact absurd rfl h
  · rfl

theorem ofUrl_of_opaquePath {scheme r : List Char} (h : ¬Rooted (ofPath scheme r).path) :
    ofUrl (ofPath scheme r) = .ok .empty := by
  unfold ofUrl
  rw [databasePath_of_not_rooted h]
  rfl

theorem not_keepsPath_empty (hne : url.path ≠ []) (hroot : ¬Rooted url.path) :
    ¬KeepsPath url .empty := by
  intro hkeeps
  have hslash : url.path ≠ ['/'] := fun he ↦ hroot (Url.rooted_iff.2 ⟨[], he⟩)
  obtain ⟨database, -, hdatabase⟩ := hkeeps hne hslash
  cases hdatabase

theorem ofConnectionString_of_opaquePath {scheme r : List Char} {c : Char} {d : Driver}
    (hcut : cutScheme (cleaned s.toList) = some (scheme, c :: r))
    (hd : Driver.parse? (String.ofList scheme) = some d) (hslash : c ≠ '/') (hquery : c ≠ '?')
    (hfragment : c ≠ '#') : ofConnectionString s = .ok .empty := by
  have hspecial := not_special_of_driver hd
  have hfile : scheme ≠ "file".toList := by
    rintro rfl
    exact absurd hspecial (by decide)
  have hparse : Url.parse s = .ok (ofPath scheme (c :: r)) := by
    unfold Url.parse Url.parseText
    rw [hcut]
    dsimp only
    rw [if_neg hfile, hspecial, if_neg Bool.false_ne_true]
    split
    · next t ht =>
      cases ht
      exact absurd rfl hslash
    · rfl
  unfold ofConnectionString
  rw [hparse]
  have hscheme : (ofPath scheme (c :: r)).scheme = scheme := rfl
  dsimp only
  rw [hscheme, hd]
  exact ofUrl_of_opaquePath (Url.path_ofPath_of_opaquePath hslash hquery hfragment scheme r).2

/-- An accepted connection string keeps its path as the name of the database exactly if the path is
not of the kind that begins with no slash. A string of that kind is never refused, and nothing of it
is kept. -/
theorem path_kept_iff (s : String) :
    (∀ p, ofConnectionString s = .ok p → ∃ url, Url.parse s = .ok url ∧
      (KeepsPath url p ↔ ¬HasOpaquePath (cleaned s.toList))) ∧
    ∀ scheme c r d, cutScheme (cleaned s.toList) = some (scheme, c :: r) →
      Driver.parse? (String.ofList scheme) = some d → c ≠ '/' → c ≠ '?' → c ≠ '#' →
      ofConnectionString s = .ok .empty := by
  refine ⟨fun p h ↦ ?_, fun _ _ _ _ ↦ ofConnectionString_of_opaquePath⟩
  obtain ⟨url, hurl, hspecial, hp⟩ := ofConnectionString_eq_ok h
  have hread := Url.readFrom_of_parse hurl hspecial
  refine ⟨url, hurl, ?_, fun ho ↦ keepsPath_of_rooted hp (hread.path_nil_or_rooted hspecial ho)⟩
  intro hkeeps ho
  -- Of such a string only the empty profile is read, which names no database.
  obtain ⟨scheme, c, r, rfl, hslash, hquery, hfragment⟩ := hread.eq_ofPath_of_opaquePath ho
  obtain ⟨hne, hroot⟩ := Url.path_ofPath_of_opaquePath hslash hquery hfragment scheme r
  cases (ofUrl_of_opaquePath hroot).symm.trans hp
  exact not_keepsPath_empty hne hroot hkeeps

theorem path_kept_iff_bare :
    (cutScheme (cleaned "postgres:db".toList) = some ("postgres".toList, ['d', 'b']) ∧
      Driver.parse? "postgres" = some .postgresql ∧ 'd' ≠ '/' ∧ 'd' ≠ '?' ∧ 'd' ≠ '#') ∧
    ofConnectionString "postgres:db" = .ok .empty ∧
    ∃ url, Url.parse "postgres:db" = .ok url ∧
      (KeepsPath url .empty ↔ ¬HasOpaquePath (cleaned "postgres:db".toList)) := by
  have hcut : cutScheme (cleaned "postgres:db".toList) = some ("postgres".toList, ['d', 'b']) := by
    rfl
  have hdriver : Driver.parse? "postgres" = some .postgresql := by decide
  have hp := (path_kept_iff "postgres:db").2 _ _ _ _ hcut hdriver (by decide) (by decide) (by decide)
  exact ⟨⟨hcut, hdriver, by decide⟩, hp, (path_kept_iff "postgres:db").1 _ hp⟩

end ScriptEnv.Profile
