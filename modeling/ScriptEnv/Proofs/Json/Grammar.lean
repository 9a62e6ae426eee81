import ScriptEnv.Json.Skip

namespace ScriptEnv.Json

open Number (isDigit)

def Gap (s : List Char) : Prop := ∀ c ∈ s, isSpace c = true

/-- Nothing, or a text that no value goes on with. -/
def Stops (s : List Char) : Prop :=
  ∀ c ∈ s.head?, isSpace c = true ∨ c = ',' ∨ c = ']' ∨ c = '\x7d'

def quoted (body : List Char) : List Char := '"' :: (body ++ ['"'])

inductive Body : List Char → Prop
  | nil : Body []
  | plain {c : Char} {r : List Char} : c ≠ '"' → c ≠ '\\' → ¬c.toNat < 0x20 → Body r → Body (c :: r)
  | simple {c d : Char} {r : List Char} : simpleEscape? c = some d → Body r → Body ('\\' :: c :: r)
  | unicode {a b c d : Char} {n : Nat} {r : List Char} :
    fourHex? a b c d = some n → Body r → Body ('\\' :: 'u' :: a :: b :: c :: d :: r)

def IsLow (n : Nat) : Prop := 0xDC00 ≤ n ∧ n ≤ 0xDFFF

def IsHigh (n : Nat) : Prop := 0xD800 ≤ n ∧ n ≤ 0xDBFF

def paired (n m : Nat) : Char := Char.ofNat ((n - 0xD800) * 0x400 + (m - 0xDC00) + 0x10000)

/-- What follows a `\u`, and the character that it stands for; surrogates stand in pairs only. -/
inductive Unicode : List Char → Char → Prop
  | single {a b c d : Char} {n : Nat} :
    fourHex? a b c d = some n → ¬IsLow n → ¬IsHigh n → Unicode [a, b, c, d] (Char.ofNat n)
  | pair {a b c d a' b' c' d' : Char} {n m : Nat} :
    fourHex? a b c d = some n → IsHigh n → fourHex? a' b' c' d' = some m → IsLow m →
    Unicode [a, b, c, d, '\\', 'u', a', b', c', d'] (paired n m)

inductive Spelled : List Char → List Char → Prop
  | nil : Spelled [] []
  | plain {c : Char} {r t : List Char} :
    c ≠ '"' → c ≠ '\\' → ¬c.toNat < 0x20 → Spelled r t → Spelled (c :: r) (c :: t)
  | simple {c d : Char} {r t : List Char} :
    simpleEscape? c = some d → Spelled r t → Spelled ('\\' :: c :: r) (d :: t)
  | unicode {c : Char} {w r t : List Char} :
    Unicode w c → Spelled r t → Spelled ('\\' :: 'u' :: (w ++ r)) (c :: t)

def Spells (w : List Char) (t : String) : Prop := ∃ body, w = quoted body ∧ Spelled body t.toList

def Digits (s : List Char) : Prop := s ≠ [] ∧ ∀ c ∈ s, isDigit c = true

def Whole (s : List Char) : Prop := Digits s ∧ ∀ r, s = '0' :: r → r = []

def Fraction (s : List Char) : Prop := s = [] ∨ ∃ ds, s = '.' :: ds ∧ Digits ds

def Exponent (s : List Char) : Prop :=
  s = [] ∨ ∃ e sign ds, s = e :: (sign ++ ds) ∧ isExponentMark e = true ∧
    (sign = [] ∨ sign = ['+'] ∨ sign = ['-']) ∧ Digits ds

def Unsigned (s : List Char) : Prop :=
  ∃ w f e, s = w ++ (f ++ e) ∧ Whole w ∧ Fraction f ∧ Exponent e

inductive Tail : List (List Char) → List Char → Prop
  | last {b : List Char} : Gap b → Tail [] b
  | next {b a w t : List Char} {ws : List (List Char)} :
    Gap b → Gap a → Tail ws t → Tail (w :: ws) (b ++ ',' :: (a ++ (w ++ t)))

inductive Items : List (List Char) → List Char → Prop
  | none {a : List Char} : Gap a → Items [] a
  | some {a w t : List Char} {ws : List (List Char)} :
    Gap a → Tail ws t → Items (w :: ws) (a ++ (w ++ t))

structure Member where
  key : List Char
  before : List Char
  after : List Char
  value : List Char

def Member.text (m : Member) : List Char := m.key ++ (m.before ++ ':' :: (m.after ++ m.value))

structure Member.Keyed (m : Member) : Prop where
  key : ∃ body, m.key = quoted body ∧ Body body
  before : Gap m.before
  after : Gap m.after

def listed (body : List Char) : List Char := '[' :: (body ++ [']'])

def braced (body : List Char) : List Char := '\x7b' :: (body ++ ['\x7d'])

inductive Form : List Char → Prop
  | null : Form ['n', 'u', 'l', 'l']
  | true : Form ['t', 'r', 'u', 'e']
  | false : Form ['f', 'a', 'l', 's', 'e']
  | string {body : List Char} : Body body → Form (quoted body)
  | unsigned {w : List Char} : Unsigned w → Form w
  | negative {w : List Char} : Unsigned w → Form ('-' :: w)
  | list {ws : List (List Char)} {body : List Char} :
    Items ws body → (∀ w ∈ ws, Form w) → Form (listed body)
  | object {ms : List Member} {body : List Char} :
    Items (ms.map Member.text) body → (∀ m ∈ ms, m.Keyed) → (∀ m ∈ ms, Form m.value) →
    Form (braced body)

theorem form_object {ms : List Member} {body : List Char} (h : Items (ms.map Member.text) body)
    (hms : ∀ m ∈ ms, m.Keyed ∧ Form m.value) : Form (braced body) :=
  .object h (fun m hm ↦ (hms m hm).1) fun m hm ↦ (hms m hm).2

variable {s t : List Char} {c : Char}

theorem gap_nil : Gap [] := fun _ h ↦ absurd h List.not_mem_nil

theorem Gap.append (hs : Gap s) (ht : Gap t) : Gap (s ++ t) := by
  intro c hc
  exact (List.mem_append.1 hc).elim (hs c) (ht c)

theorem Gap.skipSpace_append (h : Gap s) (t : List Char) : skipSpace (s ++ t) = skipSpace t :=
  List.dropWhile_append_of_pos h

theorem skipSpace_cons (h : isSpace c = false) (t : List Char) : skipSpace (c :: t) = c :: t := by
  rw [skipSpace, List.dropWhile_cons, h, if_neg Bool.false_ne_true]

theorem Gap.skipSpace_eq_nil (h : Gap s) : skipSpace s = [] := by
  rw [← List.append_nil s, h.skipSpace_append]
  rfl

theorem skipSpace_append_cons (h : Gap s) (hc : isSpace c = false) (t : List Char) :
    skipSpace (s ++ c :: t) = c :: t := by
  rw [h.skipSpace_append, skipSpace_cons hc]

theorem exists_gap (s : List Char) : ∃ g, Gap g ∧ s = g ++ skipSpace s := by
  refine ⟨s.takeWhile isSpace, ?_, List.takeWhile_append_dropWhile.symm⟩
  intro c hc
  exact List.all_eq_true.1 List.all_takeWhile c hc

theorem Gap.stops_append (hs : Gap s) (ht : Stops t) : Stops (s ++ t) := by
  cases s with
  | nil => exact ht
  | cons c s =>
    intro d hd
    obtain rfl : c = d := Option.some_inj.1 hd
    exact .inl (hs c List.mem_cons_self)

theorem Gap.stops (h : Gap s) : Stops s := fun c hc ↦ .inl (h c (List.mem_of_mem_head? hc))

theorem stops_cons (h : c = ',' ∨ c = ']' ∨ c = '\x7d') : Stops (c :: t) := by
  intro d hd
  obtain rfl : c = d := Option.some_inj.1 hd
  exact .inr h

theorem Stops.not_isDigit (h : Stops (c :: t)) : isDigit c = false := by
  rcases h c rfl with hspace | rfl | rfl | rfl
  · simp only [isSpace, Bool.or_eq_true, decide_eq_true_eq] at hspace
    rcases hspace with ((rfl | rfl) | rfl) | rfl <;> decide
  · decide
  · decide
  · decide

end ScriptEnv.Json
