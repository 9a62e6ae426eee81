import ScriptEnv.Json.Fault
import ScriptEnv.Number.Numeral

namespace ScriptEnv.Json

open Number (Binary64 isDigit digitValue?)

def isSpace (c : Char) : Bool := c = ' ' || c = '\n' || c = '\t' || c = '\r'

def skipSpace (s : List Char) : List Char := s.dropWhile isSpace

def readWord : List Char → List Char → Except Fault (List Char)
  | [], s => .ok s
  | _ :: _, [] => .error (before .endInValue [])
  | w :: ws, c :: r => if c = w then readWord ws r else .error (onNext .expectedWord (c :: r))

def fourHex? (a b c d : Char) : Option Nat :=
  match Number.hexValue? a, Number.hexValue? b, Number.hexValue? c, Number.hexValue? d with
  | some a, some b, some c, some d => some (((a * 16 + b) * 16 + c) * 16 + d)
  | _, _, _, _ => none

/-- The text after the next four bytes is given by its length alone: they need not be characters. -/
def readFourHex (s : List Char) : Except Fault (Nat × List Char) :=
  if Text.byteCount s < 4 then .error (before .endInString [])
  else
    let bad := Except.error (Fault.placed .invalidEscape (Text.byteCount s - 4))
    match s with
    | a :: b :: c :: d :: r =>
      match fourHex? a b c d with
      | some n => .ok (n, r)
      | none => bad
    | _ => bad

def readUnicodeEscape (s : List Char) : Except Fault (Char × List Char) := do
  let (n, r) ← readFourHex s
  if 0xDC00 ≤ n ∧ n ≤ 0xDFFF then .error (before .loneSurrogate r)
  else if n < 0xD800 ∨ 0xDBFF < n then .ok (Char.ofNat n, r)
  else
    match r with
    | [] => .error (before .endInString [])
    | '\\' :: [] => .error (before .endInString [])
    | '\\' :: 'u' :: r =>
      let (m, r) ← readFourHex r
      if m < 0xDC00 ∨ 0xDFFF < m then .error (before .loneSurrogate r)
      else .ok (Char.ofNat ((n - 0xD800) * 0x400 + (m - 0xDC00) + 0x10000), r)
    | '\\' :: r => .error (onNext .escapeCutShort r)
    | r => .error (onNext .escapeCutShort r)

def simpleEscape? : Char → Option Char
  | '"' => some '"'
  | '\\' => some '\\'
  | '/' => some '/'
  | 'b' => some '\x08'
  | 'f' => some '\x0c'
  | 'n' => some '\n'
  | 'r' => some '\r'
  | 't' => some '\t'
  | _ => none

def readEscape : List Char → Except Fault (Char × List Char)
  | [] => .error (before .endInString [])
  | 'u' :: r => readUnicodeEscape r
  | c :: r =>
    match simpleEscape? c with
    | some d => .ok (d, r)
    | none => .error (onNext .invalidEscape (c :: r))

def readChars : Nat → List Char → Except Fault (List Char × List Char)
  | 0, _ => .error (before .endInString [])
  | _ + 1, [] => .error (before .endInString [])
  | n + 1, c :: r =>
    if c = '"' then .ok ([], r)
    else if c = '\\' then do
      let (d, r) ← readEscape r
      let (ds, r) ← readChars n r
      .ok (d :: ds, r)
    else if c.toNat < 0x20 then .error (before .controlInString r)
    else do
      let (ds, r) ← readChars n r
      .ok (c :: ds, r)

def readString (s : List Char) : Except Fault (String × List Char) := do
  let (cs, r) ← readChars (s.length + 1) s
  .ok (String.ofList cs, r)

inductive Numeral
  | whole (n : Int)
  | float (x : Binary64)
  deriving DecidableEq, Repr

def wordMax : Nat := Number.twoTo 64 - 1

/-- Digits for as long as the value fits 64 bits: the value, the number of digits, the rest. -/
def takeDigits (value count : Nat) : List Char → Nat × Nat × List Char
  | [] => (value, count, [])
  | c :: r =>
    match digitValue? c with
    | some d =>
      if value * 10 + d ≤ wordMax then takeDigits (value * 10 + d) (count + 1) r
      else (value, count, c :: r)
    | none => (value, count, c :: r)

def startsWithDigit (s : List Char) : Bool := (s.head?.map isDigit).getD false

def powerOfTen (n : Nat) : Binary64 := .ofRatio false (Number.tenTo n) 1

/-- `x * 10 ^ e` in steps of at most 308 powers, each of them rounded; nothing if it overflows. -/
def scale : Nat → Binary64 → Int → Option Binary64
  | 0, x, _ => some x
  | n + 1, x, e =>
    if e.natAbs ≤ 308 then
      if 0 ≤ e then
        let y := x.mul (powerOfTen e.toNat)
        if y.isFinite then some y else none
      else some (x.div (powerOfTen e.natAbs))
    else if x.significand = 0 then some x
    else if 0 ≤ e then none
    else scale n (x.div (powerOfTen 308)) (e + 308)

def signed (negative : Bool) (x : Binary64) : Binary64 := if negative then x.neg else x

def floatOf (negative : Bool) (value : Nat) (e : Int) (rest : List Char) :
    Except Fault (Binary64 × List Char) :=
  match scale 8 (.ofNat value) e with
  | some x => .ok (signed negative x, rest)
  | none => .error (before .numberRange rest)

def readExponent (negative : Bool) (value : Nat) (start : Int) (s : List Char) :
    Except Fault (Binary64 × List Char) :=
  let (down, s) : Bool × List Char := match s with
    | '+' :: r => (false, r)
    | '-' :: r => (true, r)
    | _ => (false, s)
  match s with
  | [] => .error (before .endInValue [])
  | c :: r =>
    match digitValue? c with
    | none => .error (onNext .invalidNumber (c :: r))
    | some d => go down r.length d r
where
  /-- The digits of the exponent, up to the last one of a 32-bit number. -/
  go (down : Bool) : Nat → Nat → List Char → Except Fault (Binary64 × List Char)
  | 0, e, s => floatOf negative value (if down then start - e else start + e) s
  | n + 1, e, s =>
    match s with
    | [] => floatOf negative value (if down then start - e else start + e) []
    | c :: r =>
      match digitValue? c with
      | none => floatOf negative value (if down then start - e else start + e) (c :: r)
      | some d =>
        if e * 10 + d ≤ Number.twoTo 31 - 1 then go down n (e * 10 + d) r
        else if value ≠ 0 ∧ ¬down then .error (before .numberRange r)
        else .ok (Binary64.zero negative, r.dropWhile isDigit)

def isExponentMark (c : Char) : Bool := c = 'e' || c = 'E'

def readScale (negative : Bool) (value : Nat) (start : Int) (s : List Char) :
    Except Fault (Binary64 × List Char) :=
  match s with
  | c :: r => if isExponentMark c then readExponent negative value start r
    else floatOf negative value start s
  | [] => floatOf negative value start []

/-- What follows the point; `start` counts the digits before it that were dropped. -/
def readFraction (negative : Bool) (value : Nat) (start : Int) (s : List Char) :
    Except Fault (Binary64 × List Char) :=
  let (value, count, r) := takeDigits value 0 s
  if startsWithDigit r then readScale negative value (start - count) (r.dropWhile isDigit)
  else if count = 0 then .error (onNext (if r = [] then .endInValue else .invalidNumber) r)
  else readScale negative value (start - count) r

def asFloat (x : Except Fault (Binary64 × List Char)) : Except Fault (Numeral × List Char) :=
  x.map fun (x, r) ↦ (.float x, r)

def readNumberEnd (negative : Bool) (value : Nat) (s : List Char) :
    Except Fault (Numeral × List Char) :=
  match s with
  | '.' :: r => asFloat (readFraction negative value 0 r)
  | c :: r =>
    if isExponentMark c then asFloat (readExponent negative value 0 r)
    else .ok (plain, c :: r)
  | [] => .ok (plain, [])
where
  plain : Numeral :=
    if ¬negative then .whole value
    else if value = 0 ∨ Number.twoTo 63 < value then .float (Binary64.ofNat value).neg
    else .whole (-value)

/-- A number too long for 64 bits: the digits that do not fit count for the exponent only. -/
def readLong (negative : Bool) (value : Nat) (s : List Char) :
    Except Fault (Numeral × List Char) :=
  let dropped := s.takeWhile isDigit
  let rest := s.dropWhile isDigit
  let e : Int := dropped.length
  match rest with
  | '.' :: r => asFloat (readFraction negative value e r)
  | _ => asFloat (readScale negative value e rest)

def readNumber (negative : Bool) (s : List Char) : Except Fault (Numeral × List Char) :=
  match s with
  | [] => .error (before .endInValue [])
  | '0' :: r =>
    if startsWithDigit r then .error (onNext .invalidNumber r) else readNumberEnd negative 0 r
  | c :: r =>
    if isDigit c then
      let (value, _, rest) := takeDigits 0 0 (c :: r)
      if startsWithDigit rest then readLong negative value rest
      else readNumberEnd negative value rest
    else .error (onNext .invalidNumber (c :: r))

end ScriptEnv.Json
