import ScriptEnv.Proofs.Url.Escaping

namespace ScriptEnv.Url

theorem marked_none (mark : Char) : marked mark none = [] := rfl

theorem marked_some (mark : Char) (s : List Char) : marked mark (some s) = mark :: s := rfl

theorem percentDecode_of_isDot {s : List Char} (h : isDot s = true) :
    percentDecode s = ['.'].flatMap String.utf8EncodeChar := by
  have hall : ∀ e ∈ [['.'], ['%', '2', 'e'], ['%', '2', 'E']],
      percentDecode e = ['.'].flatMap String.utf8EncodeChar := by decide
  exact hall s (List.contains_iff_mem.1 h)

theorem percentDecode_of_isDoubleDot {s : List Char} (h : isDoubleDot s = true) :
    percentDecode s = ['.', '.'].flatMap String.utf8EncodeChar := by
  have hall : ∀ e ∈ [['.', '.'], ['.', '%', '2', 'e'], ['.', '%', '2', 'E'],
      ['%', '2', 'e', '.'], ['%', '2', 'E', '.'], ['%', '2', 'e', '%', '2', 'e'],
      ['%', '2', 'e', '%', '2', 'E'], ['%', '2', 'E', '%', '2', 'e'],
      ['%', '2', 'E', '%', '2', 'E']],
      percentDecode e = ['.', '.'].flatMap String.utf8EncodeChar := by decide
  exact hall s (List.contains_iff_mem.1 h)

variable {set : EncodeSet} {s : List Char}

theorem isDot_percentEncode (h : set '%' = true) (hd : encodes set '.' = false) :
    isDot (percentEncode set s) = true ↔ s = ['.'] := by
  constructor
  · intro he
    exact eq_of_percentDecode h (percentDecode_of_isDot he)
  · rintro rfl
    rw [percentEncode_eq_self (by simpa [Settled] using hd)]
    rfl

theorem isDoubleDot_percentEncode (h : set '%' = true) (hd : encodes set '.' = false) :
    isDoubleDot (percentEncode set s) = true ↔ s = ['.', '.'] := by
  constructor
  · intro he
    exact eq_of_percentDecode h (percentDecode_of_isDoubleDot he)
  · rintro rfl
    rw [percentEncode_eq_self (by simpa [Settled] using hd)]
    rfl

def segmentSet : EncodeSet := fun c ↦ pathSet c || c == '/'

/-- The parts of a connection URL, as far as no reader takes one for another: each is free of the
characters that end it. -/
structure Parts where
  user : List Char
  secret : Option (List Char)
  host : List Char
  port : Nat
  name : List Char
  user_ne_nil : user ≠ []
  user_settled : Settled userinfoSet user
  secret_settled : ∀ p ∈ secret, p ≠ [] ∧ Settled userinfoSet p
  host_ne_nil : host ≠ []
  host_allowed : ∀ c ∈ host, forbiddenInHost c = false
  port_le : port ≤ 65535
  name_settled : Settled segmentSet name

namespace Parts

variable (p : Parts)

def info : List Char := p.user ++ marked ':' p.secret

def place : List Char := p.host ++ ':' :: Nat.toDigits 10 p.port

def scheme : List Char := "postgresql".toList

def text : List Char :=
  scheme ++ [':', '/', '/'] ++ (p.info ++ '@' :: p.place ++ '/' :: p.name)

def kept (name : List Char) : List Char := if isDoubleDot name || isDot name then [] else name

def url : Url :=
  ⟨scheme, true, p.user, p.secret, some (percentEncode controls p.host), some p.port,
    '/' :: kept p.name, none, none⟩

theorem mem_info {c : Char} (h : c ∈ p.info) : c = ':' ∨ encodes userinfoSet c = false := by
  rcases List.mem_append.1 h with hu | hs
  · exact .inr (p.user_settled c hu)
  · cases hp : p.secret with
    | none => simp [hp, marked] at hs
    | some s =>
      rw [hp, marked] at hs
      rcases List.mem_cons.1 hs with hc | hc
      · exact .inl hc
      · exact .inr ((p.secret_settled s hp).2 c hc)

theorem notMem_info {c : Char} (h : userinfoSet c = true) (hc : c ≠ ':') : c ∉ p.info := by
  intro hm
  rcases p.mem_info hm with rfl | he
  · exact hc rfl
  · simp [encodes, h] at he

theorem notMem_host {c : Char} (h : forbiddenInHost c = true) : c ∉ p.host :=
  notMem_of_forall_false p.host_allowed h

theorem notMem_digits {n : Nat} {c : Char} (h : Number.isDigit c = false) :
    c ∉ Nat.toDigits 10 n := by
  intro hm
  rw [Number.isDigit_of_mem_toDigits hm] at h
  exact Bool.false_ne_true h.symm

theorem notMem_authority {c : Char} (hu : userinfoSet c = true) (hh : forbiddenInHost c = true)
    (hd : Number.isDigit c = false) (hc : c ≠ ':') : c ∉ p.info ∧ c ∉ p.place := by
  refine ⟨p.notMem_info hu hc, ?_⟩
  simp only [place, List.mem_append, List.mem_cons, not_or]
  exact ⟨p.notMem_host hh, hc, notMem_digits hd⟩

theorem authority_open {c : Char} (h : c ∈ p.info ++ '@' :: p.place) :
    endsAuthority false c = false := by
  have hs := p.notMem_authority (c := '/') (by decide) (by decide) (by decide) (by decide)
  have hq := p.notMem_authority (c := '?') (by decide) (by decide) (by decide) (by decide)
  have hf := p.notMem_authority (c := '#') (by decide) (by decide) (by decide) (by decide)
  have hne : ∀ d, d ∉ p.info ∧ d ∉ p.place → d ≠ '@' → c ≠ d := by
    rintro d ⟨hi, hp⟩ ha rfl
    simp only [List.mem_append, List.mem_cons] at h
    rcases h with h | h | h
    · exact hi h
    · exact ha h
    · exact hp h
  simp [endsAuthority, hne _ hs (by decide), hne _ hq (by decide), hne _ hf (by decide)]

theorem cutUserinfo_eq :
    cutUserinfo false (p.info ++ '@' :: p.place ++ '/' :: p.name) =
      .ok (.ofText p.info, p.place ++ '/' :: p.name) := by
  have hopen : ∀ c ∈ p.info ++ '@' :: p.place, (!endsAuthority false c) = true := by
    intro c hc
    rw [p.authority_open hc, Bool.not_false]
  have hat := p.notMem_authority (c := '@') (by decide) (by decide) (by decide) (by decide)
  have hinfo : p.info ≠ [] := by simp [info, p.user_ne_nil]
  have hslash : (!endsAuthority false '/') = false := by decide
  unfold cutUserinfo
  dsimp only
  rw [List.takeWhile_append_of_pos hopen, List.dropWhile_append_of_pos hopen,
    List.takeWhile_cons, List.dropWhile_cons, hslash, if_neg Bool.false_ne_true,
    if_neg Bool.false_ne_true, List.append_nil, Text.cutLast_append hat.2]
  simp [hinfo]

theorem userinfo_eq : Userinfo.ofText p.info = ⟨p.user, p.secret⟩ := by
  have hu : ':' ∉ p.user := p.user_settled.notMem (by decide)
  have hue := percentEncode_eq_self p.user_settled
  unfold Userinfo.ofText info
  cases hp : p.secret with
  | none => rw [marked, List.append_nil, Text.cutFirst_eq_none.2 hu, hue]
  | some s =>
    obtain ⟨hne, hs⟩ := p.secret_settled s hp
    rw [marked, Text.cutFirst_append hu]
    dsimp only
    rw [hue, if_neg hne, percentEncode_eq_self hs]

theorem cutHost_append {special : Bool} {host : List Char} (r : List Char)
    (h : ∀ c ∈ host, c ≠ ':' ∧ c ≠ '[' ∧ endsAuthority special c = false) :
    cutHost special false (host ++ ':' :: r) = (host, ':' :: r) := by
  induction host with
  | nil => simp [cutHost]
  | cons c host ih =>
    obtain ⟨⟨hc, hb, he⟩, hr⟩ := List.forall_mem_cons.1 h
    simp [cutHost, hc, hb, he, ih hr]

theorem cutHost_eq (r : List Char) :
    cutHost false false (p.host ++ ':' :: r) = (p.host, ':' :: r) := by
  apply cutHost_append
  intro c hc
  refine ⟨?_, ?_, p.authority_open (by simp [place, hc])⟩
  · rintro rfl
    exact p.notMem_host (by decide) hc
  · rintro rfl
    exact p.notMem_host (by decide) hc

theorem opaqueHost_eq : opaqueHost p.host = .ok (percentEncode controls p.host) := by
  have hany : p.host.any forbiddenInHost = false := by
    rw [List.any_eq_false]
    intro c hc
    rw [p.host_allowed c hc]
    exact Bool.false_ne_true
  unfold opaqueHost
  split
  · next hs =>
    have hb := p.host_allowed '[' (by simp [hs])
    exact absurd hb (by decide)
  · rw [hany, if_neg Bool.false_ne_true]

theorem cutPort_toDigits {n : Nat} (hn : n ≤ 65535) (r : List Char) :
    cutPort (Nat.toDigits 10 n ++ '/' :: r) = .ok (some n, '/' :: r) := by
  have hd : ∀ c ∈ Nat.toDigits 10 n, Number.isDigit c = true :=
    fun _ ↦ Number.isDigit_of_mem_toDigits
  have hslash : Number.isDigit '/' = false := by decide
  unfold cutPort
  dsimp only
  rw [List.takeWhile_append_of_pos hd, List.dropWhile_append_of_pos hd, List.takeWhile_cons,
    List.dropWhile_cons, hslash, if_neg Bool.false_ne_true, if_neg Bool.false_ne_true,
    List.append_nil, Number.decimalValue_toDigits, if_neg (by omega)]
  simp [endsAuthority, Nat.toDigits_ne_nil]

theorem cutAuthority_eq :
    cutAuthority scheme (p.info ++ '@' :: p.place ++ '/' :: p.name) =
      .ok (⟨⟨p.user, p.secret⟩, percentEncode controls p.host, some p.port⟩, '/' :: p.name) := by
  have hspecial : isSpecial scheme = false := by decide
  have hdefault : defaultPort scheme = none := by decide
  have hhost : percentEncode controls p.host ≠ [] := percentEncode_ne_nil p.host_ne_nil
  unfold cutAuthority
  dsimp only
  rw [hspecial, hdefault, p.cutUserinfo_eq, p.userinfo_eq]
  simp only [place, List.append_assoc, List.cons_append, bind, Except.bind, p.cutHost_eq,
    Bool.false_eq_true, ↓reduceIte, p.opaqueHost_eq, hhost, false_and]
  rw [cutPort_toDigits p.port_le]
  rfl

theorem cutTail_eq : cutTail false ('/' :: p.name) = ('/' :: p.name, none, none) := by
  have hf : '#' ∉ '/' :: p.name := by
    simpa using p.name_settled.notMem (c := '#') (by decide)
  have hq : '?' ∉ '/' :: p.name := by
    simpa using p.name_settled.notMem (c := '?') (by decide)
  unfold cutTail
  rw [Text.cutFirst_eq_none.2 hf]
  dsimp only
  rw [Text.cutFirst_eq_none.2 hq]

theorem Settled.of_segment {s : List Char} (h : Settled segmentSet s) : Settled pathSet s := by
  intro c hc
  have hs := h c hc
  simp only [encodes, segmentSet, Bool.or_eq_false_iff] at hs ⊢
  exact ⟨hs.1, hs.2.1⟩

theorem rootedPath_eq : rootedPath false ('/' :: p.name) = '/' :: kept p.name := by
  have hs : '/' ∉ p.name := p.name_settled.notMem (by decide)
  have he := percentEncode_eq_self (Settled.of_segment p.name_settled)
  have hroot : rootedPath false ('/' :: p.name) = addPath ['/'] p.name := rfl
  rw [hroot, addPath, Text.splitOn_of_notMem hs, addSegments, he, addSegment, kept]
  cases isDoubleDot p.name <;> cases isDot p.name <;> simp [parent, upToSlash]

theorem cleaned_eq_filter {s : List Char} (hfirst : ∀ c ∈ s.head?, 0x20 < c.toNat)
    (hlast : ∀ c ∈ s.getLast?, 0x20 < c.toNat) :
    cleaned s = s.filter fun c ↦ c ≠ '\t' && c ≠ '\n' && c ≠ '\r' := by
  have edge {t : List Char} (h : ∀ c ∈ t.head?, 0x20 < c.toNat) :
      t.dropWhile (fun c ↦ decide (c.toNat ≤ 0x20)) = t := by
    cases t with
    | nil => rfl
    | cons c t =>
      have hc := h c rfl
      rw [List.dropWhile_cons, if_neg (by simpa using hc)]
  unfold cleaned
  dsimp only
  rw [edge hfirst, edge (by simpa using hlast), List.reverse_reverse]

theorem cleaned_eq {s : List Char} (hs : ∀ c ∈ s, c ≠ '\t' ∧ c ≠ '\n' ∧ c ≠ '\r')
    (hfirst : ∀ c ∈ s.head?, 0x20 < c.toNat) (hlast : ∀ c ∈ s.getLast?, 0x20 < c.toNat) :
    cleaned s = s := by
  rw [cleaned_eq_filter hfirst hlast, List.filter_eq_self]
  intro c hc
  simp [hs c hc]

theorem notMem_text {c : Char} (hu : userinfoSet c = true) (hh : forbiddenInHost c = true)
    (hs : segmentSet c = true) (hd : Number.isDigit c = false)
    (hx : c ∉ scheme) (ha : c ∉ [':', '/', '@']) : c ∉ p.text := by
  simp only [List.mem_cons, List.not_mem_nil, or_false, not_or] at ha
  obtain ⟨hcolon, hslash, hat⟩ := ha
  obtain ⟨hi, hp⟩ := p.notMem_authority hu hh hd hcolon
  simp only [text, List.mem_append, List.mem_cons, List.not_mem_nil, or_false, not_or]
  exact ⟨⟨hx, hcolon, hslash, hslash⟩, ⟨hi, hat, hp⟩, hslash, p.name_settled.notMem hs⟩

theorem lt_of_mem_segment {name : List Char} (h : Settled segmentSet name) {c : Char}
    (hc : c ∈ '/' :: name) : 0x20 < c.toNat := by
  rcases List.mem_cons.1 hc with rfl | hn
  · decide
  · have hs := h c hn
    have hsp : c ≠ ' ' := by
      rintro rfl
      exact h.notMem (by decide) hn
    have h20 : c.toNat ≠ ' '.toNat := fun h ↦ hsp (Char.toNat_inj.1 h)
    simp only [encodes, segmentSet, pathSet, fragmentSet, controls, Bool.or_eq_false_iff,
      decide_eq_false_iff_not] at hs
    have h32 : ' '.toNat = 32 := rfl
    omega

theorem cleaned_text : cleaned p.text = p.text := by
  apply cleaned_eq
  · intro c hc
    refine ⟨?_, ?_, ?_⟩ <;> rintro rfl <;>
      exact p.notMem_text (by decide) (by decide) (by decide) (by decide) (by decide)
        (by decide) hc
  · intro c hc
    obtain rfl : 'p' = c := Option.some_inj.1 hc
    decide
  · intro c hc
    have hlast : p.text.getLast? = ('/' :: p.name).getLast? := by
      rw [text, List.getLast?_append, List.getLast?_append, List.getLast?_cons, Option.some_or,
        Option.some_or]
    exact lt_of_mem_segment p.name_settled (List.mem_of_getLast? (hlast ▸ hc))

/-- Reading gives the parts, with the host encoded and a dot segment resolved. -/
theorem parse_text : parse (String.ofList p.text) = .ok p.url := by
  have hscheme : cutScheme p.text =
      some (scheme,
        '/' :: '/' :: (p.info ++ '@' :: p.place ++ '/' :: p.name)) := rfl
  rw [parse, String.toList_ofList, p.cleaned_text, parseText, hscheme]
  dsimp only
  rw [if_neg (by decide), if_neg (by decide)]
  change (cutAuthority _ (p.info ++ '@' :: p.place ++ '/' :: p.name)).map _ = _
  rw [p.cutAuthority_eq]
  have hspecial : isSpecial scheme = false := by decide
  have hhost : percentEncode controls p.host ≠ [] := percentEncode_ne_nil p.host_ne_nil
  simp only [Except.map, ofAuthority, hspecial, p.cutTail_eq, p.rootedPath_eq, if_neg hhost, url]

theorem kept_kept (name : List Char) : kept (kept name) = kept name := by
  cases h : isDoubleDot name || isDot name with
  | true =>
    have hk : kept name = [] := by rw [kept, h, if_pos rfl]
    rw [hk]
    rfl
  | false =>
    have hk : kept name = name := by rw [kept, h, if_neg Bool.false_ne_true]
    rw [hk, hk]

def resolved : Parts :=
  { p with
    host := percentEncode controls p.host
    name := kept p.name
    host_ne_nil := percentEncode_ne_nil p.host_ne_nil
    host_allowed := allowed_percentEncode p.host_allowed
    name_settled := by
      unfold kept
      split
      · exact fun c hc ↦ absurd hc List.not_mem_nil
      · exact p.name_settled }

theorem url_resolved : p.resolved.url = p.url := by
  simp only [url, resolved, kept_kept, percentEncode_eq_self (settled_controls_encoded p.host)]

theorem render_url : render p.url = String.ofList p.resolved.text := by
  have hu : ¬(p.user = [] ∧ p.secret = none) := fun h ↦ p.user_ne_nil h.1
  unfold render url
  dsimp only
  rw [if_neg hu, if_pos rfl]
  simp only [text, info, place, resolved, Option.getD_some, Option.map_some, marked_none,
    marked_some, List.append_assoc, List.cons_append, List.nil_append, List.append_nil]

theorem parse_render_url : parse (render p.url) = .ok p.url := by
  rw [p.render_url, parse_text, url_resolved]

end Parts

end ScriptEnv.Url
