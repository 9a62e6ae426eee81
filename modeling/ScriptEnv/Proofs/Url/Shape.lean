import ScriptEnv.Failure
import ScriptEnv.Proofs.Url.Escaping

namespace ScriptEnv.Url

variable {s : String} {u : Url} {scheme : List Char}

def Rooted (path : List Char) : Prop := path.head? = some '/'

theorem rooted_iff {path : List Char} : Rooted path ↔ ∃ r, path = '/' :: r := by
  cases path with
  | nil => simp [Rooted]
  | cons c r => simp [Rooted]

theorem Rooted.append {path : List Char} (h : Rooted path) (r : List Char) : Rooted (path ++ r) := by
  unfold Rooted at h ⊢
  rw [List.head?_append, h, Option.some_or]

theorem Rooted.of_prefix {path above : List Char} (h : Rooted path) (hp : above <+: path)
    (hne : above ≠ []) : Rooted above := by
  obtain ⟨r, rfl⟩ := hp
  obtain ⟨c, above, rfl⟩ := List.exists_cons_of_ne_nil hne
  exact h

theorem prefix_upToSlash (path : List Char) : upToSlash path <+: path := by
  have hs := List.dropWhile_suffix (l := path.reverse) (· ≠ '/')
  have hp := List.reverse_prefix.2 hs
  rwa [List.reverse_reverse] at hp

theorem Rooted.parent {path : List Char} (h : Rooted path) : Rooted (parent path) := by
  unfold Url.parent
  dsimp only
  split
  · exact h
  · next hne =>
    rw [not_or] at hne
    exact h.of_prefix ((prefix_upToSlash _).trans (List.dropLast_prefix path)) hne.1

theorem Rooted.addSegment {path : List Char} (h : Rooted path) (segment : List Char) (slash : Bool) :
    Rooted (addSegment path segment slash) := by
  unfold Url.addSegment
  split
  · exact h.parent
  split
  · exact h
  · exact (h.append segment).append _

theorem Rooted.addSegments {path : List Char} (h : Rooted path) (segments : List (List Char)) :
    Rooted (addSegments path segments) := by
  induction segments generalizing path with
  | nil => exact h
  | cons segment segments ih =>
    cases segments with
    | nil => exact h.addSegment _ _
    | cons _ _ => exact ih (h.addSegment _ _)

theorem rooted_addPath (text : List Char) : Rooted (addPath ['/'] text) := by
  have hroot : Rooted ['/'] := rfl
  exact hroot.addSegments _

theorem rootedPath_nil_or_rooted (text : List Char) :
    rootedPath false text = [] ∨ Rooted (rootedPath false text) := by
  cases text with
  | nil => exact .inl rfl
  | cons c r =>
    right
    by_cases hc : c = '/'
    · subst hc
      exact rooted_addPath r
    · have hpath : rootedPath false (c :: r) = addPath ['/'] (c :: r) := by
        unfold rootedPath
        dsimp only
        split <;> simp_all
      rw [hpath]
      exact rooted_addPath _

theorem cutTail_cons (special : Bool) {c : Char} (hquery : c ≠ '?') (hfragment : c ≠ '#')
    (r : List Char) : ∃ t, (cutTail special (c :: r)).1 = c :: t := by
  unfold cutTail
  rw [Text.cutFirst, if_neg hfragment]
  cases Text.cutFirst '#' r with
  | none =>
    rw [Option.map_none]
    dsimp only
    rw [Text.cutFirst, if_neg hquery]
    cases Text.cutFirst '?' r <;> exact ⟨_, rfl⟩
  | some p =>
    obtain ⟨front, fragment⟩ := p
    rw [Option.map_some]
    dsimp only
    rw [Text.cutFirst, if_neg hquery]
    cases Text.cutFirst '?' front <;> exact ⟨_, rfl⟩

theorem cutTail_mark (special : Bool) {c : Char} (h : c = '?' ∨ c = '#') (r : List Char) :
    (cutTail special (c :: r)).1 = [] := by
  unfold cutTail
  rcases h with rfl | rfl
  · rw [Text.cutFirst, if_neg (by decide)]
    cases Text.cutFirst '#' r <;> rfl
  · rfl

/-- Behind the scheme stands the text of a path that begins with no slash. -/
def HasOpaquePath (text : List Char) : Prop :=
  ∃ scheme c r, cutScheme text = some (scheme, c :: r) ∧ c ≠ '/' ∧ c ≠ '?' ∧ c ≠ '#'

theorem not_rooted_percentEncode {c : Char} (h : c ≠ '/') (r : List Char) :
    ¬Rooted (percentEncode controls (c :: r)) := by
  rw [percentEncode_cons]
  split
  · obtain ⟨b, bs, hb⟩ := List.exists_cons_of_ne_nil (String.utf8EncodeChar_ne_nil (c := c))
    rw [percentChar, hb]
    exact fun hp ↦ absurd (Option.some_inj.1 hp) (by decide)
  · exact fun hp ↦ h (Option.some_inj.1 hp)

theorem path_ofPath_of_opaquePath {c : Char} (hslash : c ≠ '/') (hquery : c ≠ '?') (hfragment : c ≠ '#')
    (scheme r : List Char) :
    (ofPath scheme (c :: r)).path ≠ [] ∧ ¬Rooted (ofPath scheme (c :: r)).path := by
  obtain ⟨t, ht⟩ := cutTail_cons false hquery hfragment r
  have hpath : (ofPath scheme (c :: r)).path = percentEncode controls (c :: t) := by
    unfold ofPath
    dsimp only
    rw [ht]
    split
    · next hc =>
      cases hc
      exact absurd rfl hslash
    · rfl
  rw [hpath]
  exact ⟨percentEncode_ne_nil (List.cons_ne_nil c t), not_rooted_percentEncode hslash t⟩

theorem path_ofPath_nil_or_rooted {r : List Char}
    (h : ∀ c t, r = c :: t → c = '/' ∨ c = '?' ∨ c = '#') :
    (ofPath scheme r).path = [] ∨ Rooted (ofPath scheme r).path := by
  unfold ofPath
  dsimp only
  cases r with
  | nil => exact .inl rfl
  | cons c t =>
    rcases h c t rfl with rfl | hmark
    · obtain ⟨t', ht⟩ := cutTail_cons false (by decide : '/' ≠ '?') (by decide) t
      rw [ht]
      exact .inr (rooted_addPath t')
    · rw [cutTail_mark false hmark]
      exact .inl rfl

inductive ReadFrom (text : List Char) : Url → Prop
  | authority {scheme r rest : List Char} {a : Authority}
      (cut : cutScheme text = some (scheme, '/' :: '/' :: r))
      (read : cutAuthority scheme r = .ok (a, rest)) : ReadFrom text (ofAuthority scheme a rest)
  | path {scheme r : List Char} (cut : cutScheme text = some (scheme, r))
      (bare : ∀ t, r ≠ '/' :: '/' :: t) : ReadFrom text (ofPath scheme r)

theorem scheme_of_parseFile {r : List Char} (h : parseFile scheme r = .ok u) : u.scheme = scheme := by
  unfold parseFile at h
  dsimp only at h
  split at h
  · split at h
    · obtain ⟨⟨host, t⟩, -, rfl⟩ := map_eq_ok.1 h
      rfl
    · cases h
      rfl
  · cases h
    rfl

theorem readFrom_of_parse (h : parse s = .ok u) (hu : isSpecial u.scheme = false) :
    ReadFrom (cleaned s.toList) u := by
  unfold parse parseText at h
  split at h
  · cases h
  · next scheme r hcut =>
    split at h
    · next hfile =>
      rw [scheme_of_parseFile h, hfile] at hu
      exact absurd hu (by decide)
    split at h
    · next hspecial =>
      obtain ⟨⟨a, rest⟩, -, rfl⟩ := map_eq_ok.1 h
      have hscheme : (ofAuthority scheme a rest).scheme = scheme := rfl
      rw [hscheme, hspecial] at hu
      cases hu
    split at h
    · next t =>
      obtain ⟨⟨a, rest⟩, ha, rfl⟩ := map_eq_ok.1 h
      exact .authority hcut ha
    · next r hr =>
      cases h
      exact .path hcut hr

theorem ReadFrom.path_nil_or_rooted {text : List Char} (h : ReadFrom text u)
    (hu : isSpecial u.scheme = false) (ho : ¬HasOpaquePath text) : u.path = [] ∨ Rooted u.path := by
  cases h with
  | @authority scheme r rest a hcut hread =>
    have hscheme : isSpecial scheme = false := hu
    have hpath : (ofAuthority scheme a rest).path = rootedPath false (cutTail false rest).1 := by
      unfold ofAuthority
      rw [hscheme]
    rw [hpath]
    exact rootedPath_nil_or_rooted _
  | @path scheme r hcut hbare =>
    apply path_ofPath_nil_or_rooted
    rintro c t rfl
    refine Decidable.byContradiction fun hc ↦ ho ⟨scheme, c, t, hcut, ?_⟩
    simpa only [not_or] using hc

theorem ReadFrom.eq_ofPath_of_opaquePath {text : List Char} (h : ReadFrom text u)
    (ho : HasOpaquePath text) :
    ∃ scheme c r, u = ofPath scheme (c :: r) ∧ c ≠ '/' ∧ c ≠ '?' ∧ c ≠ '#' := by
  obtain ⟨scheme, c, r, hcut, hc⟩ := ho
  cases h with
  | authority hcut' hread =>
    rw [hcut] at hcut'
    cases hcut'
    exact absurd rfl hc.1
  | path hcut' hbare =>
    rw [hcut] at hcut'
    cases hcut'
    exact ⟨scheme, c, r, rfl, hc⟩

/-- What a host is made of that is written as it stands: no delimiter, and nothing to encode. -/
def isSound (c : Char) : Bool := !forbiddenInHost c && !encodes controls c

theorem isSound_iff {c : Char} :
    isSound c = true ↔ forbiddenInHost c = false ∧ encodes controls c = false := by
  simp [isSound]

theorem Ipv6.le_length_of_parse? {text : List Char} {pieces : List Nat}
    (h : Ipv6.parse? text = some pieces) : 8 ≤ pieces.length := by
  have full {front : List Nat}
      (h : (if front.length = 8 then some front else none) = some pieces) : 8 ≤ pieces.length := by
    split at h
    · next hlength =>
      cases h
      omega
    · cases h
  have filled {front : List Nat} {k : Nat}
      (h : some (front.take k ++ List.replicate (8 - front.length) 0 ++ front.drop k) =
        some pieces) : 8 ≤ pieces.length := by
    cases h
    simp only [List.length_append, List.length_take, List.length_drop, List.length_replicate]
    omega
  unfold Ipv6.parse? at h
  dsimp only at h
  split at h
  -- However the text begins, what is read is either full or has a gap that is filled.
  all_goals
    obtain ⟨⟨front, gap⟩, -, h⟩ := Option.bind_eq_some_iff.1 h
    cases gap with
    | none => exact full h
    | some k => exact filled h

theorem Ipv6.colon_mem_joined {pieces : List Nat} (h : 2 ≤ pieces.length) :
    ':' ∈ Ipv6.joined pieces := by
  match pieces, h with
  | a :: b :: r, _ => simp [Ipv6.joined, Text.join]

theorem Ipv6.colon_mem_render {pieces : List Nat} (h : 2 ≤ pieces.length) :
    ':' ∈ Ipv6.render pieces := by
  unfold Ipv6.render
  dsimp only
  split
  · exact Ipv6.colon_mem_joined h
  · simp

theorem opaqueHost_eq_ok {text host : List Char} (h : opaqueHost text = .ok host) :
    (∀ c ∈ host, isSound c = true) ∨ ':' ∈ host := by
  unfold opaqueHost at h
  split at h
  · right
    unfold bracketedHost at h
    split at h
    · split at h
      · next pieces hpieces =>
        cases h
        have hlength := Ipv6.le_length_of_parse? hpieces
        have hcolon : ':' ∈ Ipv6.render pieces := Ipv6.colon_mem_render (by omega)
        simp [hcolon]
      · cases h
    · cases h
  · left
    split at h
    · cases h
    · next hallowed =>
      cases h
      have hall : ∀ c ∈ text, forbiddenInHost c = false := by simpa using hallowed
      exact fun c hc ↦ isSound_iff.2
        ⟨allowed_percentEncode hall c hc, settled_controls_encoded text c hc⟩

theorem host_of_cutAuthority {r rest : List Char} {a : Authority}
    (hscheme : isSpecial scheme = false) (h : cutAuthority scheme r = .ok (a, rest)) :
    (∀ c ∈ a.host, isSound c = true) ∨ ':' ∈ a.host := by
  unfold cutAuthority at h
  rw [hscheme] at h
  obtain ⟨⟨info, r⟩, -, h⟩ := bind_eq_ok.1 h
  obtain ⟨host, hhost, h⟩ := bind_eq_ok.1 h
  have ha : a.host = host := by
    dsimp only at h
    split at h
    · cases h
    split at h
    · obtain ⟨⟨port, r⟩, -, h⟩ := bind_eq_ok.1 h
      cases h
      rfl
    · cases h
      rfl
  rw [ha]
  exact opaqueHost_eq_ok hhost

theorem ReadFrom.host {text host : List Char} (h : ReadFrom text u) (hu : isSpecial u.scheme = false)
    (hhost : u.host = some host) : (∀ c ∈ host, isSound c = true) ∨ ':' ∈ host := by
  cases h with
  | @authority scheme r rest a hcut hread =>
    have ha : a.host = host := by
      unfold ofAuthority at hhost
      dsimp only at hhost
      split at hhost
      · cases hhost
      · exact Option.some_inj.1 hhost
    exact ha ▸ host_of_cutAuthority hu hread
  | path hcut hbare => cases hhost

end ScriptEnv.Url
