import ScriptEnv.Json.Scanner

namespace ScriptEnv.Json

open Number (isDigit)

def skipEscape : List Char → Except Fault (List Char)
  | [] => .error (before .endInString [])
  | 'u' :: r => (readFourHex r).map Prod.snd
  | c :: r =>
    match simpleEscape? c with
    | some _ => .ok r
    | none => .error (onNext .invalidEscape (c :: r))

def skipChars : Nat → List Char → Except Fault (List Char)
  | 0, _ => .error (before .endInString [])
  | _ + 1, [] => .error (before .endInString [])
  | n + 1, c :: r =>
    if c = '"' then .ok r
    else if c = '\\' then do skipChars n (← skipEscape r)
    else if c.toNat < 0x20 then .error (before .controlInString (c :: r))
    else skipChars n r

def skipString (s : List Char) : Except Fault (List Char) := skipChars (s.length + 1) s

def skipDigits (s : List Char) : List Char := s.dropWhile isDigit

def skipExponent (s : List Char) : Except Fault (List Char) :=
  let s := match s with
    | '+' :: r => r
    | '-' :: r => r
    | _ => s
  match s with
  | [] => .error (before .invalidNumber [])
  | c :: r => if isDigit c then .ok (skipDigits r) else .error (onNext .invalidNumber (c :: r))

def skipScale : List Char → Except Fault (List Char)
  | [] => .ok []
  | c :: r => if isExponentMark c then skipExponent r else .ok (c :: r)

def skipNumberEnd : List Char → Except Fault (List Char)
  | '.' :: r => if startsWithDigit r then skipScale (skipDigits r) else .error (onNext .invalidNumber r)
  | s => skipScale s

def skipNumber : List Char → Except Fault (List Char)
  | [] => .error (before .invalidNumber [])
  | '0' :: r => if startsWithDigit r then .error (onNext .invalidNumber r) else skipNumberEnd r
  | c :: r =>
    if isDigit c then skipNumberEnd (skipDigits r) else .error (onNext .invalidNumber (c :: r))

mutual

/-- The rest after a value of which only the form is checked, not the size of numbers, the pairing of
surrogates or the depth of nesting. The fuel covers the length of the text. -/
def skipValue : Nat → List Char → Except Fault (List Char)
  | 0, s => .error (before .tooDeep s)
  | n + 1, s =>
    match skipSpace s with
    | [] => .error (before .endInValue [])
    | 'n' :: r => readWord ['u', 'l', 'l'] r
    | 't' :: r => readWord ['r', 'u', 'e'] r
    | 'f' :: r => readWord ['a', 'l', 's', 'e'] r
    | '"' :: r => skipString r
    | '-' :: r => skipNumber r
    | '[' :: r =>
      match skipSpace r with
      | [] => .error (before .endInList [])
      | ']' :: r => .ok r
      | r => do skipItems n (← skipValue n r)
    | '\x7b' :: r =>
      match skipSpace r with
      | [] => .error (before .endInObject [])
      | '\x7d' :: r => .ok r
      | r => do skipMembers n (← skipMember n r)
    | c :: r => if isDigit c then skipNumber (c :: r) else .error (onNext .expectedValue (c :: r))

def skipItems : Nat → List Char → Except Fault (List Char)
  | 0, s => .error (before .tooDeep s)
  | n + 1, s =>
    match skipSpace s with
    | [] => .error (before .endInList [])
    | ']' :: r => .ok r
    | ',' :: r => do skipItems n (← skipValue n r)
    | r => .error (onNext .expectedListEnd r)

def skipMember : Nat → List Char → Except Fault (List Char)
  | 0, s => .error (before .tooDeep s)
  | n + 1, s =>
    match skipSpace s with
    | [] => .error (before .endInObject [])
    | '"' :: r => do
      match skipSpace (← skipString r) with
      | [] => .error (before .endInObject [])
      | ':' :: r => skipValue n r
      | r => .error (onNext .expectedColon r)
    | r => .error (onNext .keyNotString r)

def skipMembers : Nat → List Char → Except Fault (List Char)
  | 0, s => .error (before .tooDeep s)
  | n + 1, s =>
    match skipSpace s with
    | [] => .error (before .endInObject [])
    | '\x7d' :: r => .ok r
    | ',' :: r => do skipMembers n (← skipMember n r)
    | r => .error (onNext .expectedObjectEnd r)

end

def skip (s : List Char) : Except Fault (List Char) := skipValue (s.length + 1) s

end ScriptEnv.Json
