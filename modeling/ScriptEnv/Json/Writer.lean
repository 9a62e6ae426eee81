import ScriptEnv.Json.Value
import ScriptEnv.Number.Layout
import ScriptEnv.Text.Split

namespace ScriptEnv.Json

/-- Whole numbers of binary64 keep a `.0`; the exponent takes over below `10 ^ -5` and from
`10 ^ 16` on, and shows its sign. -/
def numberLayout : Number.Layout := ⟨.toEven, some (-5, 15), ".0", "+", "null", "null"⟩

def hexDigit (n : Nat) : Char := Nat.digitChar n

def escapeChar (c : Char) : List Char :=
  match c with
  | '"' => ['\\', '"']
  | '\\' => ['\\', '\\']
  | '\x08' => ['\\', 'b']
  | '\x0c' => ['\\', 'f']
  | '\n' => ['\\', 'n']
  | '\r' => ['\\', 'r']
  | '\t' => ['\\', 't']
  | c => if c.toNat < 0x20 then ['\\', 'u', '0', '0', hexDigit (c.toNat / 16), hexDigit (c.toNat % 16)]
    else [c]

def stringForm (s : String) : List Char := '"' :: s.toList.flatMap escapeChar ++ ['"']

def integerForm (n : Int) : List Char :=
  match n with
  | .ofNat n => Number.decimalDigits n
  | .negSucc n => '-' :: Number.decimalDigits (n + 1)

def wordForm : Bool → List Char
  | true => ['t', 'r', 'u', 'e']
  | false => ['f', 'a', 'l', 's', 'e']

def nullForm : List Char := ['n', 'u', 'l', 'l']

mutual

def compactForm : Json → List Char
  | null => nullForm
  | bool b => wordForm b
  | integer n => integerForm n
  | number x => (numberLayout.render x).toList
  | string s => stringForm s
  | array items => '[' :: Text.join [','] (compactItems items) ++ [']']
  | object members => '\x7b' :: Text.join [','] (compactMembers members) ++ ['\x7d']

def compactItems : List Json → List (List Char)
  | [] => []
  | v :: r => compactForm v :: compactItems r

def compactMembers : List (String × Json) → List (List Char)
  | [] => []
  | (k, v) :: r => (stringForm k ++ ':' :: compactForm v) :: compactMembers r

end

def compact (v : Json) : String := String.ofList (compactForm v)

def newline (depth : Nat) : List Char := '\n' :: List.replicate (2 * depth) ' '

def bracketed (left right : Char) (depth : Nat) (lines : List (List Char)) : List Char :=
  if lines = [] then [left, right]
  else left :: newline (depth + 1) ++ Text.join (',' :: newline (depth + 1)) lines
    ++ newline depth ++ [right]

mutual

def prettyForm (depth : Nat) : Json → List Char
  | null => nullForm
  | bool b => wordForm b
  | integer n => integerForm n
  | number x => (numberLayout.render x).toList
  | string s => stringForm s
  | array items => bracketed '[' ']' depth (prettyItems (depth + 1) items)
  | object members => bracketed '\x7b' '\x7d' depth (prettyMembers (depth + 1) members)

def prettyItems (depth : Nat) : List Json → List (List Char)
  | [] => []
  | v :: r => prettyForm depth v :: prettyItems depth r

def prettyMembers (depth : Nat) : List (String × Json) → List (List Char)
  | [] => []
  | (k, v) :: r => (stringForm k ++ ':' :: ' ' :: prettyForm depth v) :: prettyMembers depth r

end

def pretty (v : Json) : String := String.ofList (prettyForm 0 v)

end ScriptEnv.Json
