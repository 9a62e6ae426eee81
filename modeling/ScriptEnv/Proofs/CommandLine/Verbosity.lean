import ScriptEnv.Proofs.CommandLine.Reading

namespace ScriptEnv.CommandLine

variable {l m : Level} {s w : String} {ws words before after : List String} {v : Variables}
  {i : Invocation} {n k : Nat} {p : Parameter} {verb : Verb}

/-- How often some letters ask for more; one that takes a value takes all the letters after it. -/
def askedByLetters : List Char → Nat
  | [] => 0
  | c :: r =>
    if (Parameter.all.find? fun p ↦ p.short? = some c).isSome then 0
    else (if c = Switch.verbose.short then 1 else 0) + askedByLetters r

def Word.asked : Word → Nat
  | long name none => if name = Switch.verbose.long.toList then 1 else 0
  | short letters => askedByLetters letters
  | _ => 0

/-- How often some words ask for more; after two dashes alone none does. -/
def asked : List String → Nat
  | [] => 0
  | w :: ws => if Word.ofString w = .escape then 0 else (Word.ofString w).asked + asked ws

theorem asked_cons (w : String) (ws : List String) :
    asked (w :: ws) = (Word.ofString w).asked +
      if Word.ofString w = .escape then 0 else asked ws := by
  rw [asked]
  split
  · next hw => rw [hw]; rfl
  · rfl

theorem asked_append (h : ∀ w ∈ before, Word.ofString w ≠ .escape) (ws : List String) :
    asked (before ++ ws) = asked before + asked ws := by
  induction before with
  | nil => exact (Nat.zero_add _).symm
  | cons w before ih =>
    obtain ⟨hw, hbefore⟩ := List.forall_mem_cons.1 h
    rw [List.cons_append, asked, asked, if_neg hw, if_neg hw, ih hbefore, Nat.add_assoc]

theorem asked_name (verb : Verb) (after : List String) : asked (verb.name :: after) = asked after := by
  rw [asked_cons]
  cases verb <;> exact Nat.zero_add _

namespace Level

def tally (n : Nat) : Option Nat := if n = 0 then none else some (min verbosityLimit n)

theorem tally_succ (n : Nat) : some (min verbosityLimit ((tally n).getD 0 + 1)) = tally (n + 1) := by
  cases n with
  | zero => rfl
  | succ n =>
    simp only [tally, verbosityLimit, Nat.add_one_ne_zero, ↓reduceIte, Option.getD_some,
      Option.some.injEq]
    omega

def counted (l : Level) (n : Nat) : Level := { l with verbosity := tally n }

@[simp] theorem counted_verb (l : Level) (n : Nat) : (l.counted n).verb = l.verb := rfl

@[simp] theorem counted_operand (l : Level) (n : Nat) : (l.counted n).operand = l.operand := rfl

@[simp] theorem counted_pending (l : Level) (n : Nat) : (l.counted n).pending = l.pending := rfl

@[simp] theorem counted_escaped (l : Level) (n : Nat) : (l.counted n).escaped = l.escaped := rfl

@[simp] theorem counted_value? (l : Level) (n : Nat) (p : Parameter) :
    (l.counted n).value? p = l.value? p := rfl

@[simp] theorem counted_switches (l : Level) (n : Nat) : (l.counted n).switches = l.switches := rfl

theorem counted_start (verb? : Option Verb) : (start verb?).counted 0 = start verb? := rfl

theorem assign_counted (l : Level) (n : Nat) (p : Parameter) (s : String) :
    (l.counted n).assign p s = (l.assign p s).map (·.counted n) := by
  unfold assign
  rw [counted_value?]
  split
  · rfl
  · cases judge p s <;> rfl

theorem assignOperand_counted (l : Level) (n : Nat) (s : String) :
    (l.counted n).assignOperand s = (l.assignOperand s).map (·.counted n) := by
  unfold assignOperand
  rw [counted_verb]
  cases l.verb with
  | none => rfl
  | some verb =>
    dsimp only
    split <;> rfl

theorem settle_counted (l : Level) (n : Nat) : (l.counted n).settle = l.settle.map (·.counted n) := by
  obtain ⟨verb, given, verbosity, operand, pending, escaped⟩ := l
  rcases pending with _ | ⟨_ | _, _ | s⟩
  · rfl
  · rfl
  · exact assign_counted ⟨verb, given, verbosity, operand, none, escaped⟩ n _ s
  · rfl
  · exact assignOperand_counted ⟨verb, given, verbosity, operand, none, escaped⟩ n s

theorem flip_verbose (l : Level) (n : Nat) :
    (l.counted n).flip .verbose = l.settle.map (·.counted (n + 1)) := by
  unfold flip
  rw [settle_counted]
  cases l.settle with
  | error notice => rfl
  | ok m =>
    change Except.ok { m with verbosity := _ } = Except.ok { m with verbosity := _ }
    rw [← tally_succ]
    rfl

theorem flip_counted (l : Level) (n : Nat) (s : Switch) :
    (l.counted n).flip s = (l.flip s).map (·.counted (n + if s = .verbose then 1 else 0)) := by
  cases s with
  | verbose =>
    rw [flip_verbose, flip]
    cases l.settle <;> rfl
  | help | version =>
    unfold flip
    rw [settle_counted]
    cases l.settle <;> rfl

theorem take_counted (l : Level) (n : Nat) (p : Parameter) (value : Option String) :
    (l.counted n).take p value = (l.take p value).map (·.counted n) := by
  unfold take
  rw [settle_counted]
  cases l.settle with
  | error notice => rfl
  | ok m =>
    cases value with
    | none => rfl
    | some s => exact assign_counted m n p s

theorem short_counted (l : Level) (n : Nat) (letters : List Char) :
    (l.counted n).short letters = (l.short letters).map (·.counted (n + askedByLetters letters)) := by
  induction letters generalizing l n with
  | nil => rfl
  | cons c r ih =>
    rw [short, short, askedByLetters]
    cases Parameter.all.find? fun p ↦ p.short? = some c with
    | some p => exact take_counted l n p _
    | none =>
      dsimp only
      rw [counted_switches]
      cases hs : l.switches.find? fun s ↦ s.short = c with
      | none => rfl
      | some s =>
        -- A letter that asks is that of one switch, and no parameter comes before it.
        have hc : s.short = c := by simpa using List.find?_some hs
        have hasked : (if c = Switch.verbose.short then 1 else 0) =
            if s = .verbose then 1 else 0 := by
          rw [← hc]
          cases s <;> rfl
        simp only [Option.isSome_none, Bool.false_eq_true, ↓reduceIte, hasked, flip_counted]
        cases l.flip s with
        | error notice => rfl
        | ok m =>
          rw [← Nat.add_assoc]
          exact ih m _

theorem long_counted (l : Level) (n : Nat) (name : List Char) (value : Option String) :
    (l.counted n).long name value =
      (l.long name value).map (·.counted (n + (Word.long name value).asked)) := by
  unfold long
  cases hp : Parameter.all.find? fun p ↦ p.long.toList = name with
  | some p =>
    have hasked : (Word.long name value).asked = 0 := by
      have hname : p.long.toList = name := by simpa using List.find?_some hp
      rw [← hname]
      cases value <;> cases p <;> rfl
    rw [hasked]
    exact take_counted l n p value
  | none =>
    dsimp only
    rw [counted_switches]
    cases hs : l.switches.find? fun s ↦ s.long.toList = name with
    | none => rfl
    | some s =>
      cases value with
      | some value => rfl
      | none =>
        have hname : s.long.toList = name := by simpa using List.find?_some hs
        have hasked : (Word.long name none).asked = if s = .verbose then 1 else 0 := by
          rw [← hname]
          cases s <;> rfl
        rw [hasked]
        exact flip_counted l n s

theorem addOperand_counted (l : Level) (n : Nat) (s : String) :
    (l.counted n).addOperand s = (l.addOperand s).map (·.counted n) := by
  unfold addOperand
  rw [counted_verb, counted_operand, counted_pending, counted_escaped]
  cases l.verb with
  | none => rfl
  | some verb =>
    dsimp only
    split
    · rfl
    · rw [settle_counted]
      cases l.settle <;> rfl

/-- A word counts by itself, whatever the level has read before. -/
theorem add_counted (l : Level) (n : Nat) (s : String) :
    (l.counted n).add s =
      (l.add s).map (·.counted (n + if l.escaped then 0 else (Word.ofString s).asked)) := by
  unfold add
  rw [counted_escaped, counted_pending]
  cases l.escaped with
  | true => exact addOperand_counted l n s
  | false =>
    simp only [Bool.false_eq_true, ↓reduceIte]
    cases Word.ofString s with
    | escape => rfl
    | long name value => exact long_counted l n name value
    | short letters => exact short_counted l n letters
    | plain =>
      rcases l.pending with _ | ⟨slot, _ | value⟩
      · exact addOperand_counted l n s
      · rfl
      · exact addOperand_counted l n s

theorem assign_keeps (h : l.assign p s = .ok m) :
    m.pending = l.pending ∧ m.escaped = l.escaped := by
  unfold assign at h
  split at h
  · cases h
  · obtain ⟨-, -, rfl⟩ := map_eq_ok.1 h
    exact ⟨rfl, rfl⟩

theorem assignOperand_keeps (h : l.assignOperand s = .ok m) :
    m.pending = l.pending ∧ m.escaped = l.escaped := by
  unfold assignOperand at h
  split at h
  · split at h <;> cases h
    exact ⟨rfl, rfl⟩
  · cases h
    exact ⟨rfl, rfl⟩

theorem settle_keeps (h : l.settle = .ok m) : m.pending = none ∧ m.escaped = l.escaped := by
  unfold settle at h
  split at h
  · next hpending =>
    cases h
    exact ⟨hpending, rfl⟩
  · cases h
  · exact (assign_keeps h :)
  · exact (assignOperand_keeps h :)

theorem pending_of_settle (h : l.settle = .ok m) : m.pending = none := (settle_keeps h).1

theorem escaped_of_settle (h : l.settle = .ok m) : m.escaped = l.escaped := (settle_keeps h).2

theorem escaped_of_flip {switch : Switch} (h : l.flip switch = .ok m) : m.escaped = l.escaped := by
  obtain ⟨l', hl', h⟩ := bind_eq_ok.1 h
  rw [← escaped_of_settle hl']
  cases switch <;> cases h
  rfl

theorem escaped_of_take {value : Option String} (h : l.take p value = .ok m) :
    m.escaped = l.escaped := by
  obtain ⟨l', hl', h⟩ := bind_eq_ok.1 h
  rw [← escaped_of_settle hl']
  cases value with
  | none =>
    cases h
    rfl
  | some s => exact (assign_keeps h).2

theorem escaped_of_short {letters : List Char} (h : l.short letters = .ok m) :
    m.escaped = l.escaped := by
  induction letters generalizing l with
  | nil =>
    cases h
    rfl
  | cons c r ih =>
    rw [short] at h
    split at h
    · exact escaped_of_take h
    · split at h
      · obtain ⟨l', hl', h⟩ := bind_eq_ok.1 h
        exact (ih h).trans (escaped_of_flip hl')
      · cases h

theorem escaped_of_long {name : List Char} {value : Option String} (h : l.long name value = .ok m) :
    m.escaped = l.escaped := by
  unfold long at h
  split at h
  · exact escaped_of_take h
  · split at h
    · split at h
      · cases h
      · exact escaped_of_flip h
    · cases h

theorem escaped_of_addOperand (h : l.addOperand s = .ok m) : m.escaped = l.escaped := by
  unfold addOperand at h
  split at h
  · cases h
  · split at h
    · cases h
    · obtain ⟨l', hl', rfl⟩ := map_eq_ok.1 h
      exact (escaped_of_settle hl' : l'.escaped = l.escaped)

theorem escaped_of_add (h : l.add w = .ok m) :
    m.escaped = (l.escaped || decide (Word.ofString w = .escape)) := by
  unfold add at h
  split at h
  · next hescaped =>
    rw [escaped_of_addOperand h, hescaped]
    rfl
  · next hescaped =>
    rw [Bool.not_eq_true] at hescaped
    rw [hescaped, Bool.false_or]
    split at h
    · next hw =>
      cases h
      rw [hw]
      rfl
    · next hw => rw [escaped_of_long h, hw, hescaped]; rfl
    · next hw => rw [escaped_of_short h, hw, hescaped]; rfl
    · next hw =>
      rw [hw]
      change m.escaped = false
      rw [← hescaped]
      split at h
      · cases h
        rfl
      · exact escaped_of_addOperand h

theorem foldlM_counted (l : Level) (n : Nat) (ws : List String) :
    ws.foldlM add (l.counted n) =
      (ws.foldlM add l).map (·.counted (n + if l.escaped then 0 else asked ws)) := by
  induction ws generalizing l n with
  | nil => cases hescaped : l.escaped <;> rfl
  | cons w ws ih =>
    rw [List.foldlM_cons, List.foldlM_cons, add_counted]
    cases hadd : l.add w with
    | error notice => rfl
    | ok m =>
      refine (ih m _).trans ?_
      -- Whether the rest counts depends on this word too, if it is two dashes alone.
      rw [escaped_of_add hadd, asked_cons, Nat.add_assoc]
      cases l.escaped <;> by_cases hw : Word.ofString w = .escape <;> simp [hw] <;> rfl

theorem escaped_of_foldlM (h : ws.foldlM add l = .ok m) :
    m.escaped = (l.escaped || ws.any fun w ↦ Word.ofString w = .escape) := by
  induction ws generalizing l with
  | nil =>
    cases h
    exact (Bool.or_false _).symm
  | cons w ws ih =>
    obtain ⟨l', hl', h⟩ := bind_eq_ok.1 h
    rw [ih h, escaped_of_add hl', Bool.or_assoc, List.any_cons]

theorem counted_of_foldlM {verb? : Option Verb} (h : ws.foldlM add (start verb?) = .ok m) :
    m.counted (asked ws) = m := by
  have hcounted := foldlM_counted (start verb?) 0 ws
  rw [counted_start, h] at hcounted
  have hm := Except.ok.inj hcounted
  rw [Nat.zero_add] at hm
  exact hm.symm

theorem counted_of_settle (hl : l.counted n = l) (h : l.settle = .ok m) : m.counted n = m := by
  have hcounted := settle_counted l n
  rw [hl, h] at hcounted
  exact (Except.ok.inj hcounted).symm

theorem settle_of_pending (h : l.pending = none) : l.settle = .ok l := by
  unfold settle
  rw [h]

theorem settle_of_settle (h : l.settle = .ok m) (n : Nat) :
    (m.counted n).settle = .ok (m.counted n) :=
  settle_of_pending ((m.counted_pending n).trans (pending_of_settle h))

theorem isWaiting_of_settle (h : l.settle = .ok m) : l.isWaiting = false := by
  unfold settle at h
  unfold isWaiting
  split at h <;> simp_all

end Level

inductive Asking : String → Nat → Prop
  | long : Asking "--verbose" 1
  | letters (k : Nat) : Asking (String.ofList ('-' :: List.replicate (k + 1) 'v')) (k + 1)

theorem Level.short_letters (l : Level) (n k : Nat) :
    (l.counted n).short (List.replicate (k + 1) 'v') = l.settle.map (·.counted (n + (k + 1))) := by
  induction k generalizing l n with
  | zero =>
    change ((l.counted n).flip .verbose).bind _ = _
    rw [flip_verbose]
    cases l.settle <;> rfl
  | succ k ih =>
    change ((l.counted n).flip .verbose).bind (fun l ↦ l.short (List.replicate (k + 1) 'v')) = _
    rw [flip_verbose]
    cases hsettle : l.settle with
    | error notice => rfl
    | ok m =>
      refine (ih m (n + 1)).trans ?_
      rw [settle_of_pending (pending_of_settle hsettle), Nat.add_right_comm, Nat.add_assoc]

namespace Asking

theorem head (h : Asking w k) : w.toList.head? = some '-' := by
  cases h with
  | long => rfl
  | letters k => simp

theorem pos (h : Asking w k) : 0 < k := by
  cases h with
  | long => exact Nat.zero_lt_one
  | letters k => exact Nat.succ_pos k

theorem add (h : Asking w k) (hescaped : l.escaped = false) (n : Nat) :
    (l.counted n).add w = l.settle.map (·.counted (n + k)) := by
  cases h with
  | long =>
    rw [← Level.flip_verbose]
    unfold Level.add
    rw [Level.counted_escaped, hescaped]
    rfl
  | letters k =>
    have hword : Word.ofString (String.ofList ('-' :: List.replicate (k + 1) 'v')) =
        .short (List.replicate (k + 1) 'v') := by
      simp only [Word.ofString, String.toList_ofList, List.replicate_succ]
      rfl
    rw [← Level.short_letters]
    unfold Level.add
    rw [Level.counted_escaped, hescaped, hword]
    rfl

theorem ne_name (h : Asking w k) (verb : Verb) : verb.name ≠ w := by
  intro hname
  have hhead := h.head
  rw [← hname] at hhead
  cases verb <;> cases hhead

theorem named? (h : Asking w k) : Verb.named? w = none := by
  simp [Verb.named?, Verb.all, h.ne_name]

theorem ne_help (h : Asking w k) : w ≠ "help" := by
  rintro rfl
  cases h.head

end Asking

theorem readGlobal_name (hescaped : l.escaped = false) (hsettle : l.settle = .ok m)
    (verb : Verb) (after : List String) :
    readGlobal l (verb.name :: after) = .ok (l, some (verb, after)) := by
  unfold readGlobal
  rw [hescaped, Level.isWaiting_of_settle hsettle]
  cases verb <;> rfl

/-- Words in front of a verb: a level takes them all, and reads on behind them. -/
structure Passes (l : Level) (before : List String) (m : Level) : Prop where
  read : before.foldlM Level.add l = .ok m
  passed : ∀ rest, readGlobal l (before ++ rest) = readGlobal m rest
  escaped : m.escaped = false

theorem passes_of_readGlobal (h : readGlobal l words = .ok (m, some (verb, after))) :
    ∃ before, words = before ++ verb.name :: after ∧ Passes l before m := by
  -- The level changes with each word, so it is general in the induction; only the last one is open.
  induction words generalizing l with
  | nil => cases h
  | cons w ws ih =>
    unfold readGlobal at h
    dsimp only at h
    split at h
    · next hverb =>
      cases h
      obtain ⟨hopen, hname⟩ := Option.ite_none_left_eq_some.1 hverb
      obtain ⟨hescaped, -⟩ := not_or.1 hopen
      obtain rfl : verb.name = w := by simpa using List.find?_some hname
      exact ⟨[], rfl, rfl, fun _ ↦ rfl, Bool.eq_false_iff.2 hescaped⟩
    · next hverb =>
      split at h
      · cases h
      · next hhelp =>
        obtain ⟨l', hl', h⟩ := bind_eq_ok.1 h
        obtain ⟨before, rfl, hpasses⟩ := ih h
        refine ⟨w :: before, rfl, ?_, ?_, hpasses.escaped⟩
        · rw [List.foldlM_cons, hl']
          exact hpasses.read
        · intro rest
          rw [List.cons_append, readGlobal]
          simp only [hverb, if_neg hhelp, hl']
          exact hpasses.passed rest

def Divided (words before : List String) (verb : Verb) (after : List String) : Prop :=
  words = before ++ verb.name :: after ∧
    ∃ l, readGlobal (.start none) words = .ok (l, some (verb, after))

/-- What a line counts as: the count after its verb, or else the one before. -/
def laterCount (b a : Nat) : Nat := min Level.verbosityLimit (if a = 0 then b else a)

theorem tally_or_tally (b a : Nat) :
    ((Level.tally a).or (Level.tally b)).getD 0 = laterCount b a := by
  cases a with
  | zero => cases b <;> rfl
  | succ a => rfl

theorem laterCount_eq_sum_iff (b a : Nat) : laterCount b a = min Level.verbosityLimit (b + a) ↔
    b = 0 ∨ a = 0 ∨ Level.verbosityLimit ≤ a := by
  unfold laterCount Level.verbosityLimit
  split <;> omega

theorem laterCount_add_eq_iff (b a : Nat) (hk : 0 < k) : laterCount (b + k) a = laterCount b (a + k) ↔
    Level.verbosityLimit ≤ a ∨ a = 0 ∧ (b = 0 ∨ Level.verbosityLimit ≤ k) := by
  unfold laterCount Level.verbosityLimit
  rw [if_neg (by omega : a + k ≠ 0)]
  split <;> omega

theorem invocation_counted (l m : Level) (password : Option String) (command : Builtin) (b a : Nat) :
    invocation (l.counted b) (m.counted a) password command =
      { invocation l m password command with verbosity := laterCount b a } := by
  rw [← tally_or_tally]
  rfl

theorem Asking.readGlobal_before (hw : Asking w k) (hpasses : Passes (.start none) before l)
    (hsettle : l.settle = .ok m) (verb : Verb) (after : List String) :
    readGlobal (.start none) (before ++ w :: verb.name :: after) =
      .ok (m.counted (asked before + k), some (verb, after)) := by
  have hadd := hw.add hpasses.escaped (asked before)
  rw [Level.counted_of_foldlM hpasses.read, hsettle] at hadd
  have hescaped := (Level.escaped_of_settle hsettle).trans hpasses.escaped
  rw [hpasses.passed, readGlobal]
  simp only [hw.named?, hw.ne_help, ite_self, false_and, ↓reduceIte, hadd]
  exact readGlobal_name (l := m.counted _) hescaped (Level.settle_of_settle hsettle _) verb after

theorem Asking.foldlM_after {verb? : Option Verb} (hw : Asking w k)
    (h : ws.foldlM Level.add (.start verb?) = .ok m) :
    (w :: ws).foldlM Level.add (.start verb?) = .ok (m.counted (asked ws + k)) := by
  have hadd := hw.add (l := .start verb?) rfl 0
  rw [Level.counted_start, Nat.zero_add] at hadd
  rw [List.foldlM_cons, hadd, Nat.add_comm]
  refine (Level.foldlM_counted (.start verb?) k ws).trans ?_
  rw [h]
  rfl

theorem parse_counted {command : Builtin} {password unused : Option String} {a b : Nat}
    (h : Reads words (l.counted b) (m.counted a) command)
    (hpassword : environmentPassword m v = .ok password)
    (hunused : environmentPassword l v = .ok unused) :
    parse words v = .ok { invocation l m password command with verbosity := laterCount b a } := by
  rw [← invocation_counted]
  exact parse_eq_ok_iff.2 ⟨_, _, command, password, h, hpassword, ⟨unused, hunused⟩, rfl⟩

/-- A line is counted by the words after its verb alone, if they ask at all. So it is counted as often
as it asks only if the words on one side of the verb do not ask, or those after it reach the limit;
and a word that asks says something else on the other side of the verb. -/
theorem verbosity_counted_iff (h : parse words v = .ok i) :
    ∃ before verb after, Divided words before verb after ∧
      i.verbosity = laterCount (asked before) (asked after) ∧
      (i.verbosity = min Level.verbosityLimit (asked words) ↔
        asked before = 0 ∨ asked after = 0 ∨ Level.verbosityLimit ≤ asked after) ∧
      ∀ w k, Asking w k →
        parse (before ++ w :: verb.name :: after) v =
          .ok { i with verbosity := laterCount (asked before + k) (asked after) } ∧
        parse (before ++ verb.name :: w :: after) v =
          .ok { i with verbosity := laterCount (asked before) (asked after + k) } ∧
        (laterCount (asked before + k) (asked after) = laterCount (asked before) (asked after + k) ↔
          Level.verbosityLimit ≤ asked after ∨
            asked after = 0 ∧ (asked before = 0 ∨ Level.verbosityLimit ≤ k)) := by
  obtain ⟨l', m', command, password, hreads, hpassword, ⟨unused, hunused⟩, rfl⟩ :=
    parse_eq_ok_iff.1 h
  obtain @⟨after, l, _, m, _, verb, _, hfound, hafter, hm, told, hl⟩ := hreads
  obtain ⟨before, rfl, hpasses⟩ := passes_of_readGlobal hfound
  have hl' := Level.counted_of_settle (Level.counted_of_foldlM hpasses.read) hl
  have hm' := Level.counted_of_settle (Level.counted_of_foldlM hafter) hm
  have hcounted : (invocation l' m' password command).verbosity =
      laterCount (asked before) (asked after) := by
    rw [← hl', ← hm', invocation_counted]
  refine ⟨before, verb, after, ⟨rfl, l, hfound⟩, hcounted, ?_, fun w k hw ↦ ⟨?_, ?_, ?_⟩⟩
  · have hbefore : ∀ w ∈ before, Word.ofString w ≠ .escape := by
      have hescaped := (Level.escaped_of_foldlM hpasses.read).symm.trans hpasses.escaped
      rw [Level.start, Bool.false_or] at hescaped
      simpa using hescaped
    rw [hcounted, asked_append hbefore, asked_name]
    exact laterCount_eq_sum_iff _ _
  · have hreads : Reads (before ++ w :: verb.name :: after)
        (l'.counted (asked before + k)) m' command :=
      .intro (hw.readGlobal_before hpasses hl verb after) hafter hm told
        (Level.settle_of_settle hl _)
    rw [← hm'] at hreads
    exact parse_counted hreads hpassword hunused
  · have hreads : Reads (before ++ verb.name :: w :: after)
        l' (m'.counted (asked after + k)) command := by
      refine .intro ?_ (hw.foldlM_after hafter) ?_ told hl
      · rw [hpasses.passed, readGlobal_name hpasses.escaped hl]
      · rw [Level.settle_counted, hm]
        rfl
    rw [← hl'] at hreads
    exact parse_counted hreads hpassword hunused
  · exact laterCount_add_eq_iff _ _ hw.pos

def loudTables : List String := ["-vvv", "list", "tables", "-v"]

def loudInvocation : Invocation :=
  ⟨.list .table, none, none, none, none, none, none, none, none, "cli", "text", 1⟩

theorem verbosity_counted_iff_loud : parse loudTables .unset = .ok loudInvocation ∧
    asked loudTables = 4 ∧ ∃ before verb after, Divided loudTables before verb after ∧
      asked before ≠ 0 ∧ asked after ≠ 0 ∧ asked after < Level.verbosityLimit := by
  have hparse : parse loudTables .unset = .ok loudInvocation := rfl
  obtain ⟨before, verb, after, hdivided, -, hsum, -⟩ := verbosity_counted_iff hparse
  have hloud := (not_congr hsum).1 (by decide)
  obtain ⟨hbefore, hafter, hlimit⟩ := by simpa only [not_or, Nat.not_le] using hloud
  exact ⟨hparse, rfl, before, verb, after, hdivided, hbefore, hafter, hlimit⟩

end ScriptEnv.CommandLine
