import ScriptEnv.Toml.Fault

namespace ScriptEnv.Toml

structure Cursor where
  rest : List Char
  offset : Nat
  deriving DecidableEq, Repr

/-- After a trouble that is not fatal an alternative is tried from the place where the parser began; of
several alternatives that fail, the last one is reported. -/
abbrev Parser := StateT Cursor (Except Trouble)

namespace Parser

variable {α β γ : Type}

def failAt (offset : Nat) (cause : Option Cause) : Parser α :=
  fun _ ↦ .error ⟨false, offset, none, [], cause⟩

def fail : Parser α := fun c ↦ failAt c.offset none c

def next (c : Cursor) (a : Char) (r : List Char) : Cursor := ⟨r, c.offset + a.utf8Size⟩

def satisfy (p : Char → Bool) : Parser Char := fun c ↦
  match c.rest with
  | a :: r => if p a then .ok (a, next c a r) else fail c
  | [] => fail c

def char (a : Char) : Parser Unit := discard (satisfy (· == a))

def anyChar : Parser Char := satisfy fun _ ↦ true

def spanOf (p : Char → Bool) : Parser (List Char) := fun c ↦
  let taken := c.rest.takeWhile p
  .ok (taken, ⟨c.rest.dropWhile p, c.offset + Text.byteCount taken⟩)

def spanOf1 (p : Char → Bool) : Parser (List Char) := fun c ↦
  match c.rest with
  | a :: _ => if p a then spanOf p c else fail c
  | [] => fail c

def exactly (w : List Char) : Parser Unit := fun c ↦
  if w.isPrefixOf c.rest then .ok ((), ⟨c.rest.drop w.length, c.offset + Text.byteCount w⟩)
  else fail c

def ending : Parser Unit := fun c ↦ if c.rest = [] then .ok ((), c) else fail c

def peek? : Parser (Option Char) := fun c ↦ .ok (c.rest.head?, c)

def place : Parser Nat := fun c ↦ .ok (c.offset, c)

def ahead (p : Parser α) : Parser α := fun c ↦ (p c).map fun (a, _) ↦ (a, c)

def mapTrouble (f : Trouble → Trouble) (p : Parser α) : Parser α := fun c ↦ (p c).mapError f

/-- After a failure no alternative is tried. -/
def commit (p : Parser α) : Parser α := mapTrouble ({ · with fatal := true }) p

def labelled (label : String) (p : Parser α) : Parser α :=
  mapTrouble (fun t ↦ { t with label := t.label.or (some label) }) p

def expecting (what : List String) (p : Parser α) : Parser α :=
  mapTrouble (fun t ↦ { t with expected := t.expected ++ what }) p

def either (p q : Parser α) : Parser α := fun c ↦
  match p c with
  | .error t => if t.fatal then .error t else q c
  | done => done

def firstOf : List (Parser α) → Parser α
  | [] => fail
  | [p] => p
  | p :: ps => either p (firstOf ps)

def opt (p : Parser α) : Parser (Option α) := either (some <$> p) (pure none)

def giving (b : β) (p : Parser α) : Parser β := (fun _ ↦ b) <$> p

/-- Judges what was read; a refusal counts from where it began. -/
def checked (judge : α → Except Cause β) (p : Parser α) : Parser β := do
  let start ← place
  match judge (← p) with
  | .ok b => pure b
  | .error cause => failAt start (some cause)

def spanned (p : Parser α) : Parser (α × Span) := do
  let start ← place
  let a ← p
  pure (a, ⟨start, ← place⟩)

def manyUpTo (p : Parser α) : Nat → Parser (List α)
  | 0 => pure []
  | n + 1 => do
    match (← opt p) with
    | none => pure []
    | some a => (a :: ·) <$> manyUpTo p n

def many (p : Parser α) : Parser (List α) := fun c ↦ manyUpTo p (c.rest.length + 1) c

def many1 (p : Parser α) : Parser (List α) := do
  let a ← p
  (a :: ·) <$> many p

/-- One item or more; a separator without an item after it is left unread. -/
def separated1 (separator : Parser β) (p : Parser α) : Parser (List α) := do
  let a ← p
  (a :: ·) <$> many (separator *> p)

def separated (separator : Parser β) (p : Parser α) : Parser (List α) :=
  (·.getD []) <$> opt (separated1 separator p)

end Parser

end ScriptEnv.Toml
