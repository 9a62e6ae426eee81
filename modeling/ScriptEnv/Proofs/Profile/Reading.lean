import ScriptEnv.Profile
import ScriptEnv.Proofs.Url.Shape

namespace ScriptEnv.Profile

variable {s : String} {url : Url} {p : Profile}

theorem not_special_of_driver {scheme : List Char} {d : Driver}
    (h : Driver.parse? (String.ofList scheme) = some d) : Url.isSpecial scheme = false := by
  have hall : ∀ e ∈ Url.specialSchemes, Driver.parse? (String.ofList e.1.toList) = none := by decide
  rw [Bool.eq_false_iff]
  intro hspecial
  obtain ⟨e, he, hscheme⟩ := List.any_eq_true.1 hspecial
  rw [← eq_of_beq hscheme, hall e he] at h
  cases h

theorem ofConnectionString_eq_ok (h : ofConnectionString s = .ok p) :
    ∃ url, Url.parse s = .ok url ∧ Url.isSpecial url.scheme = false ∧ ofUrl url = .ok p := by
  unfold ofConnectionString at h
  split at h
  · cases h
  · next url hurl =>
    dsimp only at h
    split at h
    · cases h
    · next d hd => exact ⟨url, hurl, not_special_of_driver hd, h⟩

theorem ofUrl_eq_ok (h : ofUrl url = .ok p) :
    p.host = url.host.map (fun host ↦ String.ofList (withoutBrackets host)) ∧
      decodeOptional "database" (databasePath url.path) = .ok p.database := by
  unfold ofUrl at h
  obtain ⟨database, hdatabase, h⟩ := bind_eq_ok.1 h
  obtain ⟨user, -, h⟩ := bind_eq_ok.1 h
  obtain ⟨password, -, h⟩ := bind_eq_ok.1 h
  cases h
  exact ⟨rfl, hdatabase⟩

theorem decodePart_eq_ok {field t : String} {r : List Char} :
    decodePart field r = .ok t ↔ Url.percentText? r = some t := by
  unfold decodePart
  split
  · next u hu => rw [hu, Except.ok.injEq, Option.some_inj]
  · next hn => simp [hn]

theorem withoutBrackets_eq_self {host : List Char} (hopen : '[' ∉ host) (hclose : ']' ∉ host) :
    withoutBrackets host = host := by
  have drop {b : Char} {s : List Char} (hb : b ∉ s) : s.dropWhile (· = b) = s := by
    cases s with
    | nil => rfl
    | cons c s =>
      have hne : c ≠ b := fun he ↦ hb (he ▸ List.mem_cons_self)
      rw [List.dropWhile_cons, if_neg (by simpa using hne)]
  unfold withoutBrackets
  rw [drop hopen, drop (by simpa using hclose), List.reverse_reverse]

theorem mem_withoutBrackets {host : List Char} {c : Char} (h : c ∈ host) (hopen : c ≠ '[')
    (hclose : c ≠ ']') : c ∈ withoutBrackets host := by
  have kept {b : Char} {s : List Char} (hb : c ≠ b) (hs : c ∈ s) : c ∈ s.dropWhile (· = b) := by
    rw [← List.takeWhile_append_dropWhile (p := (· = b)) (l := s), List.mem_append] at hs
    rcases hs with hs | hs
    · have hd := List.all_eq_true.1 List.all_takeWhile c hs
      exact absurd (of_decide_eq_true hd) hb
    · exact hs
  unfold withoutBrackets
  rw [List.mem_reverse]
  exact kept hclose (List.mem_reverse.2 (kept hopen h))

end ScriptEnv.Profile
