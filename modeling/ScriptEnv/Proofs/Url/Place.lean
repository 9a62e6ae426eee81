import ScriptEnv.Proofs.Url.Reading

namespace ScriptEnv

namespace Text

variable {sep : Char}

def afterLast (sep : Char) (s : List Char) : List Char :=
  match cutLast sep s with
  | some (_, b) => b
  | none => s

theorem cutLast_append_cons (sep : Char) (a b : List Char) :
    ∃ x, cutLast sep (a ++ sep :: b) = some (a ++ x, afterLast sep b) := by
  induction a with
  | nil =>
    unfold afterLast
    rw [List.nil_append, cutLast]
    cases cutLast sep b with
    | none => exact ⟨[], by simp⟩
    | some p => exact ⟨sep :: p.1, rfl⟩
  | cons c a ih =>
    obtain ⟨x, hx⟩ := ih
    refine ⟨x, ?_⟩
    rw [List.cons_append, cutLast, hx]
    rfl

theorem cutLast_append_right {b : List Char} (h : sep ∉ b) (a : List Char) :
    cutLast sep (a ++ b) = (cutLast sep a).map fun p ↦ (p.1, p.2 ++ b) := by
  induction a with
  | nil => exact cutLast_eq_none.2 h
  | cons c a ih =>
    rw [List.cons_append, cutLast, cutLast, ih]
    cases cutLast sep a with
    | some p => rfl
    | none =>
      simp only [Option.map_none]
      split <;> rfl

theorem afterLast_append {b : List Char} (h : sep ∉ b) (a : List Char) :
    afterLast sep (a ++ b) = afterLast sep a ++ b := by
  unfold afterLast
  rw [cutLast_append_right h]
  cases cutLast sep a <;> rfl

end Text

namespace Url

def isOpen (c : Char) : Bool := !endsAuthority false c

def isKept (c : Char) : Bool := c ≠ '\t' && c ≠ '\n' && c ≠ '\r'

/-- User information that begins with a name and is taken for nothing else. -/
structure IsInfo (info : List Char) : Prop where
  settled : ∀ c ∈ info, c = ':' ∨ encodes userinfoSet c = false
  named : ∃ c r, info = c :: r ∧ c ≠ ':'

def placeText (s : List Char) : List Char :=
  Text.afterLast '@' (s.takeWhile isOpen) ++ s.dropWhile isOpen

variable {info : List Char}

theorem isKept_of_notMem {s : List Char} {c : Char} (hc : c ∈ s) (ht : '\t' ∉ s) (hn : '\n' ∉ s)
    (hr : '\r' ∉ s) : isKept c = true := by
  have hne : ∀ d, d ∉ s → c ≠ d := by
    rintro d hd rfl
    exact hd hc
  simp [isKept, hne _ ht, hne _ hn, hne _ hr]

theorem IsInfo.notMem (h : IsInfo info) {c : Char} (hc : userinfoSet c = true) (hne : c ≠ ':') :
    c ∉ info := by
  intro hm
  rcases h.settled c hm with rfl | hsettled
  · exact hne rfl
  · simp [encodes, hc] at hsettled

theorem IsInfo.isOpen (h : IsInfo info) : ∀ c ∈ info, isOpen c = true := by
  intro c hc
  have hne : ∀ d, userinfoSet d = true → d ≠ ':' → c ≠ d := by
    rintro d hd hcolon rfl
    exact h.notMem hd hcolon hc
  simp [Url.isOpen, endsAuthority, hne '/' (by decide) (by decide), hne '?' (by decide) (by decide),
    hne '#' (by decide) (by decide)]

theorem IsInfo.isKept (h : IsInfo info) : ∀ c ∈ info, isKept c = true := by
  intro c hc
  exact isKept_of_notMem hc (h.notMem (by decide) (by decide)) (h.notMem (by decide) (by decide))
    (h.notMem (by decide) (by decide))

theorem not_isEmpty_ofText {c : Char} (h : c ≠ ':') (r : List Char) :
    (Userinfo.ofText (c :: r)).isEmpty = false := by
  have hne : ∀ s, percentEncode userinfoSet (c :: s) ≠ [] :=
    fun s ↦ percentEncode_ne_nil (List.cons_ne_nil c s)
  unfold Userinfo.isEmpty Userinfo.ofText
  rw [Text.cutFirst, if_neg h]
  cases Text.cutFirst ':' r <;> simp [hne]

theorem cutUserinfo_info (h : IsInfo info) (s : List Char) :
    ∃ user, user.isEmpty = false ∧
      cutUserinfo false (info ++ '@' :: s) = .ok (user, placeText s) := by
  obtain ⟨c, r, rfl, hc⟩ := h.named
  have hopen : ∀ d ∈ (c :: r) ++ ['@'], isOpen d = true := by
    intro d hd
    rcases List.mem_append.1 hd with hd | hd
    · exact h.isOpen d hd
    · rw [List.mem_singleton.1 hd]
      decide
  have hsplit : (c :: r) ++ '@' :: s = ((c :: r) ++ ['@']) ++ s := by simp
  obtain ⟨x, hx⟩ := Text.cutLast_append_cons '@' (c :: r) (s.takeWhile isOpen)
  refine ⟨.ofText (c :: (r ++ x)), not_isEmpty_ofText hc _, ?_⟩
  have hcut : Text.cutLast '@' (((c :: r) ++ '@' :: s).takeWhile isOpen) =
      some ((c :: r) ++ x, Text.afterLast '@' (s.takeWhile isOpen)) := by
    rw [hsplit, List.takeWhile_append_of_pos hopen, List.append_assoc, List.singleton_append, hx]
  have hrest : ((c :: r) ++ '@' :: s).dropWhile isOpen = s.dropWhile isOpen := by
    rw [hsplit, List.dropWhile_append_of_pos hopen]
  unfold isOpen at hcut hrest
  unfold cutUserinfo
  dsimp only
  rw [hcut, hrest]
  rfl

def readHost (text r : List Char) : Except Fault Unit := do
  let host ← opaqueHost text
  if host = [] then .error .emptyHost
  else if r.head? = some ':' then (cutPort r.tail).map fun _ ↦ ()
  else .ok ()

/-- Whether the place can be read that a text begins with. -/
def readPlace (s : List Char) : Except Fault Unit :=
  readHost (cutHost false false s).1 (cutHost false false s).2

theorem cutAuthority_info (h : IsInfo info) (s : List Char) :
    (cutAuthority Parts.scheme (info ++ '@' :: s)).map (fun _ ↦ ()) = readPlace (placeText s) := by
  obtain ⟨user, huser, hcut⟩ := cutUserinfo_info h s
  have hspecial : isSpecial Parts.scheme = false := by decide
  unfold cutAuthority readPlace readHost
  dsimp only
  rw [hspecial, hcut]
  simp only [bind, Except.bind, Bool.false_eq_true, ↓reduceIte, huser]
  rcases cutHost false false (placeText s) with ⟨text, r⟩
  cases opaqueHost text with
  | error f => rfl
  | ok host =>
    dsimp only
    by_cases hhost : host = []
    · simp [hhost, Except.map]
    · simp only [hhost, false_and, ↓reduceIte]
      split
      · next r =>
        rw [List.head?_cons, if_pos rfl, List.tail_cons]
        cases cutPort r <;> rfl
      · next hr =>
        rw [if_neg]
        · rfl
        · intro hcolon
          obtain ⟨r', rfl⟩ := List.head?_eq_some_iff.1 hcolon
          exact hr r' rfl

theorem readHost_of_ne {c c' : Char} (h : c ≠ ':') (h' : c' ≠ ':') (text r r' : List Char) :
    readHost text (c :: r) = readHost text (c' :: r') := by
  unfold readHost
  simp only [List.head?_cons, Option.some_inj, if_neg h, if_neg h']

theorem readHost_congr {r r' : List Char}
    (h : (cutPort r).map (fun _ ↦ ()) = (cutPort r').map fun _ ↦ ()) (text : List Char) :
    readHost text (':' :: r) = readHost text (':' :: r') := by
  unfold readHost
  rw [List.head?_cons, List.head?_cons, List.tail_cons, List.tail_cons, h]

inductive Ending
  | closed
  | port

def Ending.Begins : Ending → List Char → Prop
  | closed, t => ∃ e r, t = e :: r ∧ endsAuthority false e = true
  | port, t => ∃ n r, t = ':' :: (Nat.toDigits 10 n ++ '/' :: r) ∧ n ≤ 65535

theorem Ending.Begins.exists_cons {k : Ending} {t : List Char} (h : k.Begins t) :
    ∃ e r, t = e :: r ∧ Number.isDigit e = false ∧
      (endsAuthority true e = true ↔ k = .closed) := by
  cases k with
  | closed =>
    obtain ⟨e, r, rfl, he⟩ := h
    have hall : Number.isDigit e = false ∧ endsAuthority true e = true := by
      simp only [endsAuthority, Bool.false_and, Bool.or_false, Bool.or_eq_true, beq_iff_eq] at he
      rcases he with (rfl | rfl) | rfl <;> decide
    exact ⟨e, r, rfl, hall.1, iff_of_true hall.2 rfl⟩
  | port =>
    obtain ⟨n, r, rfl, -⟩ := h
    exact ⟨':', _, rfl, by decide, iff_of_false (by decide) fun h ↦ by cases h⟩

/-- A host is read to its end within a text, or it is read through and on. -/
theorem cutHost_stops_or_passes (special inside : Bool) (y : List Char) :
    (∃ a c b, ∀ t, cutHost special inside (y ++ t) = (a, c :: (b ++ t))) ∨
      ∃ inside', ∀ t, cutHost special inside (y ++ t) =
        (y ++ (cutHost special inside' t).1, (cutHost special inside' t).2) := by
  induction y generalizing inside with
  | nil => exact .inr ⟨inside, fun _ ↦ rfl⟩
  | cons c y ih =>
    by_cases hstop : (c = ':' ∧ ¬inside) ∨ endsAuthority special c
    · refine .inl ⟨[], c, y, fun t ↦ ?_⟩
      rw [List.cons_append, cutHost, if_pos hstop]
    · have hstep : ∀ t, cutHost special inside (c :: y ++ t) =
          (c :: (cutHost special (c = '[' || (inside && c ≠ ']')) (y ++ t)).1,
            (cutHost special (c = '[' || (inside && c ≠ ']')) (y ++ t)).2) := by
        intro t
        rw [List.cons_append, cutHost, if_neg hstop]
      rcases ih (c = '[' || (inside && c ≠ ']')) with ⟨a, d, b, h⟩ | ⟨inside', h⟩
      · refine .inl ⟨c :: a, d, b, fun t ↦ ?_⟩
        rw [hstep, h]
      · refine .inr ⟨inside', fun t ↦ ?_⟩
        rw [hstep, h]
        rfl

theorem cutHost_closed {inside : Bool} {e : Char} (he : endsAuthority false e = true)
    (r : List Char) : cutHost false inside (e :: r) = ([], e :: r) := by
  rw [cutHost, if_pos (.inr he)]

theorem isOpen_of_isDigit {c : Char} (h : Number.isDigit c = true) : isOpen c = true := by
  have hne : ∀ d, Number.isDigit d = false → c ≠ d := by
    rintro d hd rfl
    exact Bool.false_ne_true (hd.symm.trans h)
  simp [isOpen, endsAuthority, hne '/' (by decide), hne '?' (by decide), hne '#' (by decide)]

theorem cutHost_digits {ds : List Char} (h : ∀ c ∈ ds, Number.isDigit c = true) (r : List Char) :
    cutHost false true (ds ++ '/' :: r) = (ds, '/' :: r) := by
  induction ds with
  | nil => exact cutHost_closed (by decide) r
  | cons c ds ih =>
    obtain ⟨hc, hds⟩ := List.forall_mem_cons.1 h
    have hend : endsAuthority false c = false := by
      simpa [isOpen] using isOpen_of_isDigit hc
    have hbracket : c ≠ ']' := by
      rintro rfl
      exact absurd hc (by decide)
    rw [List.cons_append, cutHost, if_neg (by simp [hend])]
    simp [hbracket, ih hds]

theorem opaqueHost_with_port (y : List Char) (n : Nat) :
    opaqueHost (y ++ ':' :: Nat.toDigits 10 n) =
      .error (if y.head? = some '[' then .badIpv6 else .badHostCharacter) := by
  have hlast : ∀ s, (s ++ ':' :: Nat.toDigits 10 n).getLast? ≠ some ']' := by
    intro s h
    have hend : (s ++ ':' :: Nat.toDigits 10 n).getLast? = (':' :: Nat.toDigits 10 n).getLast? := by
      rw [List.getLast?_append, List.getLast?_cons, Option.some_or]
    have hm : ']' ∈ ':' :: Nat.toDigits 10 n := List.mem_of_getLast? (hend ▸ h)
    rcases List.mem_cons.1 hm with hm | hm
    · exact absurd hm (by decide)
    · exact absurd (Number.isDigit_of_mem_toDigits hm) (by decide)
  have hany : (y ++ ':' :: Nat.toDigits 10 n).any forbiddenInHost = true := by
    rw [List.any_eq_true]
    exact ⟨':', by simp, by decide⟩
  by_cases hy : y.head? = some '['
  · obtain ⟨r, rfl⟩ := List.head?_eq_some_iff.1 hy
    rw [if_pos hy]
    change bracketedHost (r ++ _) = _
    unfold bracketedHost
    rw [if_neg (hlast r)]
  · rw [if_neg hy]
    unfold opaqueHost
    split
    · next r hr =>
      cases y with
      | nil => exact absurd (List.cons.inj hr).1 (by decide)
      | cons c y => exact absurd (congrArg some (List.cons.inj hr).1) hy
    · rw [if_pos hany]

theorem cutPort_append {e : Char} (he : Number.isDigit e = false) (b r : List Char) :
    (cutPort (b ++ e :: r)).map (fun _ ↦ ()) =
      if 65535 < Number.decimalValue (b.takeWhile Number.isDigit) then .error .badPort
      else if endsAuthority true ((b.dropWhile Number.isDigit).headD e) then .ok ()
      else .error .badPort := by
  have htake : (b ++ e :: r).takeWhile Number.isDigit = b.takeWhile Number.isDigit := by
    rw [List.takeWhile_append]
    split
    · next hall =>
      have hb := (List.takeWhile_prefix Number.isDigit).eq_of_length hall
      rw [hb, List.takeWhile_cons, if_neg (by simp [he]), List.append_nil]
    · rfl
  have hdrop : (b ++ e :: r).dropWhile Number.isDigit = b.dropWhile Number.isDigit ++ e :: r := by
    rw [List.dropWhile_append]
    split <;> simp_all
  unfold cutPort
  dsimp only
  rw [htake, hdrop]
  split
  · rfl
  · cases b.dropWhile Number.isDigit with
    | nil =>
      dsimp only [List.nil_append, List.headD]
      rw [apply_ite (Except.map fun _ ↦ ())]
      rfl
    | cons c d =>
      dsimp only [List.cons_append, List.headD]
      rw [apply_ite (Except.map fun _ ↦ ())]
      rfl

theorem cutPort_congr {k : Ending} {t t' : List Char} (ht : k.Begins t) (ht' : k.Begins t')
    (b : List Char) :
    (cutPort (b ++ t)).map (fun _ ↦ ()) = (cutPort (b ++ t')).map fun _ ↦ () := by
  obtain ⟨e, r, rfl, hdigit, hends⟩ := ht.exists_cons
  obtain ⟨e', r', rfl, hdigit', hends'⟩ := ht'.exists_cons
  have he : endsAuthority true e = endsAuthority true e' := by
    rw [Bool.eq_iff_iff, hends, hends']
  rw [cutPort_append hdigit, cutPort_append hdigit']
  cases b.dropWhile Number.isDigit with
  | nil => rw [List.headD_nil, List.headD_nil, he]
  | cons c d => rfl

theorem readPlace_port {n n' : Nat} (hn : n ≤ 65535) (hn' : n' ≤ 65535) (inside : Bool)
    (y r r' : List Char) :
    readHost (y ++ (cutHost false inside (':' :: (Nat.toDigits 10 n ++ '/' :: r))).1)
        (cutHost false inside (':' :: (Nat.toDigits 10 n ++ '/' :: r))).2 =
      readHost (y ++ (cutHost false inside (':' :: (Nat.toDigits 10 n' ++ '/' :: r'))).1)
        (cutHost false inside (':' :: (Nat.toDigits 10 n' ++ '/' :: r'))).2 := by
  cases inside with
  | false =>
    have hport : (cutPort (Nat.toDigits 10 n ++ '/' :: r)).map (fun _ ↦ ()) =
        (cutPort (Nat.toDigits 10 n' ++ '/' :: r')).map fun _ ↦ () := by
      rw [Parts.cutPort_toDigits hn, Parts.cutPort_toDigits hn']
      rfl
    exact readHost_congr hport (y ++ [])
  | true =>
    have hcut : ∀ m s, cutHost false true (':' :: (Nat.toDigits 10 m ++ '/' :: s)) =
        (':' :: Nat.toDigits 10 m, '/' :: s) := by
      intro m s
      have hdigits : ∀ c ∈ Nat.toDigits 10 m, Number.isDigit c = true :=
        fun _ ↦ Number.isDigit_of_mem_toDigits
      rw [cutHost, if_neg (by decide)]
      change (':' :: (cutHost false true _).1, (cutHost false true _).2) = _
      rw [cutHost_digits hdigits]
    unfold readHost
    rw [hcut, hcut, opaqueHost_with_port, opaqueHost_with_port]
    rfl

theorem readPlace_congr {k : Ending} {t t' : List Char} (ht : k.Begins t) (ht' : k.Begins t')
    (y : List Char) : readPlace (y ++ t) = readPlace (y ++ t') := by
  unfold readPlace
  rcases cutHost_stops_or_passes false false y with ⟨a, c, b, hy⟩ | ⟨inside, hy⟩
  · rw [hy, hy]
    by_cases hc : c = ':'
    · subst hc
      exact readHost_congr (cutPort_congr ht ht' b) a
    · exact readHost_of_ne hc hc a _ _
  · rw [hy, hy]
    cases k with
    | closed =>
      obtain ⟨e, r, rfl, he⟩ := ht
      obtain ⟨e', r', rfl, he'⟩ := ht'
      have hne : ∀ d, endsAuthority false d = true → d ≠ ':' := by
        rintro d hd rfl
        exact absurd hd (by decide)
      rw [cutHost_closed he, cutHost_closed he']
      exact readHost_of_ne (hne e he) (hne e' he') _ r r'
    | port =>
      obtain ⟨n, r, rfl, hn⟩ := ht
      obtain ⟨n', r', rfl, hn'⟩ := ht'
      exact readPlace_port hn hn' inside y r r'

theorem all_open_or_ends (s : List Char) :
    (∀ c ∈ s, isOpen c = true) ∨
      ∃ a e b, s = a ++ e :: b ∧ (∀ c ∈ a, isOpen c = true) ∧ isOpen e = false := by
  induction s with
  | nil => exact .inl fun c hc ↦ absurd hc List.not_mem_nil
  | cons c s ih =>
    cases hc : isOpen c with
    | false => exact .inr ⟨[], c, s, rfl, fun c hc ↦ absurd hc List.not_mem_nil, hc⟩
    | true =>
      rcases ih with hs | ⟨a, e, b, rfl, ha, he⟩
      · exact .inl (List.forall_mem_cons.2 ⟨hc, hs⟩)
      · exact .inr ⟨c :: a, e, b, rfl, List.forall_mem_cons.2 ⟨hc, ha⟩, he⟩

theorem placeText_of_open {a : List Char} (ha : ∀ c ∈ a, isOpen c = true) {e : Char}
    (he : isOpen e = false) (b : List Char) :
    placeText (a ++ e :: b) = Text.afterLast '@' a ++ e :: b := by
  unfold placeText
  rw [List.takeWhile_append_of_pos ha, List.dropWhile_append_of_pos ha, List.takeWhile_cons,
    List.dropWhile_cons, he, if_neg Bool.false_ne_true, if_neg Bool.false_ne_true, List.append_nil]

theorem placeText_append (host : List Char) :
    ∃ y, ∃ k : Ending, ∀ n r, n ≤ 65535 →
      ∃ t, k.Begins t ∧ placeText (host ++ ':' :: (Nat.toDigits 10 n ++ '/' :: r)) = y ++ t := by
  rcases all_open_or_ends host with hhost | ⟨a, e, b, rfl, ha, he⟩
  · refine ⟨Text.afterLast '@' host, .port, fun n r hn ↦ ⟨_, ⟨n, r, rfl, hn⟩, ?_⟩⟩
    have hport : ∀ c ∈ ':' :: Nat.toDigits 10 n, isOpen c = true := by
      intro c hc
      rcases List.mem_cons.1 hc with rfl | hc
      · decide
      · exact isOpen_of_isDigit (Number.isDigit_of_mem_toDigits hc)
    have hat : '@' ∉ ':' :: Nat.toDigits 10 n := by
      intro hm
      rcases List.mem_cons.1 hm with hm | hm
      · exact absurd hm (by decide)
      · exact Parts.notMem_digits (by decide) hm
    have hfront : ∀ c ∈ host ++ ':' :: Nat.toDigits 10 n, isOpen c = true := by
      intro c hc
      exact (List.mem_append.1 hc).elim (hhost c) (hport c)
    have hplace := placeText_of_open hfront (e := '/') (by decide) r
    rw [Text.afterLast_append hat] at hplace
    simpa using hplace
  · have hend : endsAuthority false e = true := by simpa [isOpen] using he
    refine ⟨Text.afterLast '@' a, .closed, fun n r _ ↦
      ⟨e :: (b ++ ':' :: (Nat.toDigits 10 n ++ '/' :: r)), ⟨e, _, rfl, hend⟩, ?_⟩⟩
    rw [List.append_assoc, List.cons_append]
    exact placeText_of_open ha he _

def hostOutcome (host : List Char) : Except Fault Unit :=
  readPlace (placeText (host.filter isKept ++ ":0/".toList))

theorem readPlace_placeText {n : Nat} (hn : n ≤ 65535) (host r : List Char) :
    readPlace (placeText (host ++ ':' :: (Nat.toDigits 10 n ++ '/' :: r))) =
      readPlace (placeText (host ++ ":0/".toList)) := by
  obtain ⟨y, k, h⟩ := placeText_append host
  obtain ⟨t, ht, hplace⟩ := h n r hn
  obtain ⟨t', ht', hplace'⟩ := h 0 [] (by decide)
  have hzero : ":0/".toList = ':' :: (Nat.toDigits 10 0 ++ '/' :: []) := by decide
  rw [hplace, hzero, hplace', readPlace_congr ht ht']

def placed (info host : List Char) (n : Nat) (name : List Char) : List Char :=
  Parts.scheme ++ [':', '/', '/'] ++
    (info ++ '@' :: (host ++ ':' :: (Nat.toDigits 10 n ++ '/' :: name)))

variable {name : List Char} {n : Nat}

theorem cleaned_placed (h : IsInfo info) (hname : Settled segmentSet name) (host : List Char) :
    cleaned (placed info host n name) = placed info (host.filter isKept) n name := by
  have hinfo : info.filter isKept = info := List.filter_eq_self.2 h.isKept
  have hdigits : (Nat.toDigits 10 n).filter isKept = Nat.toDigits 10 n := by
    refine List.filter_eq_self.2 fun c hc ↦ ?_
    exact isKept_of_notMem hc (Parts.notMem_digits (by decide)) (Parts.notMem_digits (by decide))
      (Parts.notMem_digits (by decide))
  have hpath : name.filter isKept = name := by
    refine List.filter_eq_self.2 fun c hc ↦ ?_
    exact isKept_of_notMem hc (hname.notMem (by decide)) (hname.notMem (by decide))
      (hname.notMem (by decide))
  rw [Parts.cleaned_eq_filter]
  · change List.filter isKept _ = _
    unfold placed
    simp only [List.filter_append, List.filter_cons, hinfo, hdigits, hpath]
    rfl
  · intro c hc
    obtain rfl : 'p' = c := Option.some_inj.1 hc
    decide
  · intro c hc
    have hlast : (placed info host n name).getLast? = ('/' :: name).getLast? := by
      simp [placed, List.getLast?_append, List.getLast?_cons]
    exact Parts.lt_of_mem_segment hname (List.mem_of_getLast? (hlast ▸ hc))

/-- Whether a URL can be read is up to the host alone. -/
theorem parse_placed (h : IsInfo info) (hname : Settled segmentSet name) (hn : n ≤ 65535)
    (host : List Char) :
    (parse (String.ofList (placed info host n name))).map (fun _ ↦ ()) = hostOutcome host := by
  have hscheme : ∀ s, cutScheme (Parts.scheme ++ [':', '/', '/'] ++ s) =
      some (Parts.scheme, '/' :: '/' :: s) := fun _ ↦ rfl
  have hmap : ∀ (f : Authority × List Char → Url) s, ((cutAuthority Parts.scheme s).map f).map
      (fun _ ↦ ()) = (cutAuthority Parts.scheme s).map fun _ ↦ () := by
    intro f s
    cases cutAuthority Parts.scheme s <;> rfl
  rw [parse, String.toList_ofList, cleaned_placed h hname, parseText, placed, hscheme]
  dsimp only
  rw [if_neg (by decide), if_neg (by decide)]
  change (Except.map _ (cutAuthority _ _)).map _ = _
  rw [hmap, cutAuthority_info h, readPlace_placeText hn]
  rfl

end Url

end ScriptEnv
