import ScriptEnv.Json.Skip

namespace ScriptEnv.Json

open Decode (Found Mismatch)
open Number (Binary64 isDigit)

/-- Lists and records read their own end even after a fault inside them; data that does not fit, and has
no place yet, gets the place after that end. -/
abbrev Reader (α : Type) := List Char → Except Fault (α × List Char)

variable {α σ : Type}

def Numeral.found : Numeral → Found
  | whole n => .integer n
  | float x => .float x

def wrongType (expected : String) (s : List Char) : Fault :=
  let mismatch (found : Found) (r : List Char) : Fault :=
    before (.mismatch (.wrongType found expected)) r
  let word (w : List Char) (found : Found) (r : List Char) : Fault :=
    match readWord w r with
    | .ok r => mismatch found r
    | .error f => f
  let number (x : Except Fault (Numeral × List Char)) : Fault :=
    match x with
    | .ok (n, r) => mismatch n.found r
    | .error f => f
  match s with
  | 'n' :: r => word ['u', 'l', 'l'] .null r
  | 't' :: r => word ['r', 'u', 'e'] (.bool true) r
  | 'f' :: r => word ['a', 'l', 's', 'e'] (.bool false) r
  | '-' :: r => number (readNumber true r)
  | '"' :: r =>
    match readString r with
    | .ok (t, r) => mismatch (.text t) r
    | .error f => f
  | '[' :: r => mismatch .sequence ('[' :: r)
  | '\x7b' :: r => mismatch .map ('\x7b' :: r)
  | [] => onNext .expectedValue []
  | c :: r => if isDigit c then number (readNumber false (c :: r)) else onNext .expectedValue (c :: r)

def textNamed (expected : String) : Reader String := fun s ↦
  match skipSpace s with
  | [] => .error (before .endInValue [])
  | '"' :: r => readString r
  | s => .error (wrongType expected s)

def text : Reader String := textNamed "a string"

def boolean : Reader Bool := fun s ↦
  match skipSpace s with
  | [] => .error (before .endInValue [])
  | 't' :: r => (readWord ['r', 'u', 'e'] r).map (true, ·)
  | 'f' :: r => (readWord ['a', 'l', 's', 'e'] r).map (false, ·)
  | s => .error (wrongType "a boolean" s)

def nothing : Reader Unit := fun s ↦
  match skipSpace s with
  | [] => .error (before .endInValue [])
  | 'n' :: r => (readWord ['u', 'l', 'l'] r).map ((), ·)
  | s => .error (wrongType "unit" s)

def judged (expected : String) (take : Numeral → Except Mismatch α) : Reader α := fun s ↦
  let judge (x : Except Fault (Numeral × List Char)) : Except Fault (α × List Char) := do
    let (n, r) ← x
    match take n with
    | .ok a => .ok (a, r)
    | .error m => .error (before (.mismatch m) r)
  match skipSpace s with
  | [] => .error (before .endInValue [])
  | '-' :: r => judge (readNumber true r)
  | c :: r => if isDigit c then judge (readNumber false (c :: r)) else .error (wrongType expected (c :: r))

def wholeBetween (expected : String) (low high : Int) : Reader Int :=
  judged expected fun
    | .whole n => if low ≤ n ∧ n ≤ high then .ok n else .error (.wrongValue (.integer n) expected)
    | .float x => .error (.wrongType (.float x) expected)

def naturalUpTo (expected : String) (bound : Nat) : Reader Nat := fun s ↦ do
  let (n, r) ← wholeBetween expected 0 bound s
  .ok (n.toNat, r)

def binary64 : Reader Binary64 :=
  judged "f64" fun
    | .whole n => .ok (if n < 0 then (Binary64.ofNat n.natAbs).neg else .ofNat n.natAbs)
    | .float x => .ok x

/-- Digits of a whole number of up to 128 bits; what follows them is left unread. -/
def natural128 : Reader Nat := fun s ↦
  match skipSpace s with
  | [] => .error (before .endInValue [])
  | '-' :: r => .error (onNext .numberRange ('-' :: r))
  | '0' :: r => if startsWithDigit r then .error (onNext .invalidNumber r) else .ok (0, r)
  | c :: r =>
    if isDigit c then
      let n := Number.decimalValue ((c :: r).takeWhile isDigit)
      let rest := r.dropWhile isDigit
      if n < Number.twoTo 128 then .ok (n, rest) else .error (before .numberRange rest)
    else .error (onNext .invalidNumber (c :: r))

def optional (item : Reader α) : Reader (Option α) := fun s ↦
  match skipSpace s with
  | 'n' :: r => (readWord ['u', 'l', 'l'] r).map (none, ·)
  | s => (item s).map fun (a, r) ↦ (some a, r)

/-- Is there another item? The rest begins with it, or with the closing bracket. -/
def nextItem (first : Bool) (s : List Char) : Except Fault (Bool × List Char) :=
  match skipSpace s with
  | [] => .error (before .endInList [])
  | ']' :: r => .ok (false, ']' :: r)
  | c :: r =>
    if first then .ok (true, c :: r)
    else if c = ',' then
      match skipSpace r with
      | [] => .error (before .endInValue [])
      | ']' :: r => .error (onNext .trailingComma (']' :: r))
      | r => .ok (true, r)
    else .error (onNext .expectedListEnd (c :: r))

def nextKey (first : Bool) (s : List Char) : Except Fault (Option String × List Char) :=
  let key (r : List Char) : Except Fault (Option String × List Char) :=
    (readString r).map fun (k, r) ↦ (some k, r)
  match skipSpace s with
  | [] => .error (before .endInObject [])
  | '\x7d' :: r => .ok (none, '\x7d' :: r)
  | c :: r =>
    if first then if c = '"' then key r else .error (onNext .keyNotString (c :: r))
    else if c = ',' then
      match skipSpace r with
      | [] => .error (before .endInValue [])
      | '"' :: r => key r
      | '\x7d' :: r => .error (onNext .trailingComma ('\x7d' :: r))
      | r => .error (onNext .keyNotString r)
    else .error (onNext .expectedObjectEnd (c :: r))

def colon (s : List Char) : Except Fault (List Char) :=
  match skipSpace s with
  | [] => .error (before .endInObject [])
  | ':' :: r => .ok r
  | r => .error (onNext .expectedColon r)

/-- The end of a list: a fault or none, and the text left after all that was looked at. -/
def closeList (s : List Char) : Option Fault × List Char :=
  match skipSpace s with
  | [] => (some (before .endInList []), [])
  | ']' :: r => (none, r)
  | ',' :: r =>
    match skipSpace r with
    | ']' :: r => (some (onNext .trailingComma (']' :: r)), ']' :: r)
    | r => (some (onNext .trailingText r), r)
  | r => (some (onNext .trailingText r), r)

def closeObject (s : List Char) : Option Fault × List Char :=
  match skipSpace s with
  | [] => (some (before .endInObject []), [])
  | '\x7d' :: r => (none, r)
  | ',' :: r => (some (onNext .trailingComma (',' :: r)), ',' :: r)
  | r => (some (onNext .trailingText r), r)

def enclosed (close : List Char → Option Fault × List Char)
    (body : Except Fault (α × List Char)) : Except Fault (α × List Char) :=
  match body with
  | .ok (a, r) =>
    match close r with
    | (none, r) => .ok (a, r)
    | (some f, _) => .error f
  | .error (.loose m r) => .error (before (.mismatch m) (close r).2)
  | .error f => .error f

def items (item : Reader α) : Nat → Bool → Reader (List α)
  | 0, _, s => .error (before .endInList s)
  | n + 1, first, s => do
    let (more, s) ← nextItem first s
    if more then
      let (a, s) ← item s
      let (as, s) ← items item n false s
      .ok (a :: as, s)
    else .ok ([], s)

def list (item : Reader α) : Reader (List α) := fun s ↦
  match skipSpace s with
  | [] => .error (before .endInValue [])
  | '[' :: r => enclosed closeList (items item (r.length + 1) true r)
  | s => .error (wrongType "a sequence" s)

structure Field (σ : Type) where
  name : String
  isSet : σ → Bool
  read : σ → Reader σ
  /-- A list of the fields may end before this one. -/
  hasDefault : Bool

/-- How a record is put together from its fields, through a state that holds those read so far. -/
structure Record (σ α : Type) where
  name : String
  fields : List (Field σ)
  start : σ
  finish : σ → Except Mismatch α

namespace Record

def members (rec : Record σ α) : Nat → Bool → σ → Reader σ
  | 0, _, _, s => .error (before .endInObject s)
  | n + 1, first, state, s => do
    let (key, s) ← nextKey first s
    match key with
    | none => .ok (state, s)
    | some k =>
      match rec.fields.find? (·.name = k) with
      | none => rec.members n false state (← skip (← colon s))
      | some field =>
        if field.isSet state then .error (.loose (.duplicateField k) s)
        else
          let (state, s) ← field.read state (← colon s)
          rec.members n false state s

def inOrder (rec : Record σ α) : List (Field σ) → Nat → Bool → σ → Reader σ
  | [], _, _, state, s => .ok (state, s)
  | field :: fields, i, first, state, s => do
    let (more, s) ← nextItem first s
    if more then
      let (state, s) ← field.read state s
      rec.inOrder fields (i + 1) false state s
    else if field.hasDefault then rec.inOrder fields (i + 1) first state s
    else .error (.loose (.wrongLength i (Decode.recordLength rec.name rec.fields.length)) s)

def finished (rec : Record σ α) (body : Except Fault (σ × List Char)) :
    Except Fault (α × List Char) := do
  let (state, s) ← body
  match rec.finish state with
  | .ok a => .ok (a, s)
  | .error m => .error (.loose m s)

def read (rec : Record σ α) : Reader α := fun s ↦
  match skipSpace s with
  | [] => .error (before .endInValue [])
  | '[' :: r => enclosed closeList (rec.finished (rec.inOrder rec.fields 0 true rec.start r))
  | '\x7b' :: r =>
    enclosed closeObject (rec.finished (rec.members (r.length + 1) true rec.start r))
  | s => .error (wrongType (Decode.recordName rec.name) s)

end Record

/-- The deepest nesting that is read, plus one. -/
def depthLimit : Nat := 128

mutual

/-- A value inside `depthLimit - depth` brackets; the fuel covers the length of the text. -/
def value : Nat → Nat → Reader Json
  | 0, _, s => .error (before .tooDeep s)
  | n + 1, depth, s =>
    let numeral (x : Except Fault (Numeral × List Char)) : Except Fault (Json × List Char) :=
      x.map fun
        | (.whole n, r) => (.integer n, r)
        | (.float x, r) => (.number x, r)
    match skipSpace s with
    | [] => .error (before .endInValue [])
    | 'n' :: r => (readWord ['u', 'l', 'l'] r).map (.null, ·)
    | 't' :: r => (readWord ['r', 'u', 'e'] r).map (.bool true, ·)
    | 'f' :: r => (readWord ['a', 'l', 's', 'e'] r).map (.bool false, ·)
    | '"' :: r => (readString r).map fun (t, r) ↦ (.string t, r)
    | '-' :: r => numeral (readNumber true r)
    | '[' :: r =>
      if depth ≤ 1 then .error (onNext .tooDeep ('[' :: r))
      else enclosed closeList ((values n (depth - 1) true r).map fun (vs, r) ↦ (.array vs, r))
    | '\x7b' :: r =>
      if depth ≤ 1 then .error (onNext .tooDeep ('\x7b' :: r))
      else enclosed closeObject
        ((entries n (depth - 1) true [] r).map fun (ms, r) ↦ (.object ms, r))
    | c :: r =>
      if isDigit c then numeral (readNumber false (c :: r))
      else .error (onNext .expectedValue (c :: r))

def values : Nat → Nat → Bool → Reader (List Json)
  | 0, _, _, s => .error (before .tooDeep s)
  | n + 1, depth, first, s => do
    let (more, s) ← nextItem first s
    if more then
      let (v, s) ← value n depth s
      let (vs, s) ← values n depth false s
      .ok (v :: vs, s)
    else .ok ([], s)

def entries : Nat → Nat → Bool → List (String × Json) → Reader (List (String × Json))
  | 0, _, _, _, s => .error (before .tooDeep s)
  | n + 1, depth, first, ms, s => do
    let (key, s) ← nextKey first s
    match key with
    | none => .ok (ms, s)
    | some k =>
      let (v, s) ← value n depth (← colon s)
      entries n depth false (Keyed.insert k v ms) s

end

def any (depth : Nat) : Reader Json := fun s ↦ value (2 * s.length + 2) depth s

def readAll (item : Reader α) (s : List Char) : Except Fault α := do
  let (a, r) ← item s
  match skipSpace r with
  | [] => .ok a
  | r => .error (onNext .trailingText r)

def decode (item : Reader α) (s : String) : Except String α :=
  (readAll item s.toList).mapError (·.message s.toList)

def parse (s : String) : Except String Json := decode (any depthLimit) s

end ScriptEnv.Json
