import ScriptEnv.Number.Numeral
import ScriptEnv.Toml.Lexical

namespace ScriptEnv.Toml

open ScriptEnv.Toml.Parser

def isBasicChar (c : Char) : Bool := isCommentChar c && c != '"' && c != '\\'

def isLiteralChar (c : Char) : Bool := isCommentChar c && c != '\''

def charOf (code : List Char) : Except Cause Char :=
  let n := Number.valueOf 16 Number.hexValue? 0 code
  if h : n.isValidChar then .ok (Char.ofNatAux n h) else .error .outOfRange

def hexDigits (n : Nat) : Parser (List Char) := fun c ↦
  let digits := (c.rest.take n).takeWhile Number.isHexDigit
  if digits.length = n then .ok (digits, ⟨c.rest.drop n, c.offset + n⟩) else fail c

def codePoint (n : Nat) : Parser Char :=
  commit (labelled s!"unicode {n}-digit hex code" (checked charOf (hexDigits n)))

def quoted (c : Char) : String := s!"`{c}`"

def escapeChars : List Char := ['b', 'f', 'n', 'r', 't', 'u', 'U', '\\', '"']

def escape : Parser Char := do
  char '\\'
  match (← anyChar) with
  | 'b' => pure '\x08'
  | 'f' => pure '\x0c'
  | 'n' => pure '\n'
  | 'r' => pure '\r'
  | 't' => pure '\t'
  | 'u' => codePoint 4
  | 'U' => codePoint 8
  | '\\' => pure '\\'
  | '"' => pure '"'
  | c =>
    /- The place is after the first byte, which for a longer character is inside it. -/
    let offset := (← place) - c.utf8Size + 1
    commit (labelled "escape sequence" (expecting (escapeChars.map quoted) (failAt offset none)))

def basicString : Parser (List Char) := do
  char '"'
  let parts ← many (either (spanOf1 isBasicChar) ((fun c ↦ [c]) <$> escape))
  commit (labelled "basic string" (char '"'))
  pure parts.flatten

def literalString : Parser (List Char) :=
  labelled "literal string" do
    char '\''
    let body ← spanOf isLiteralChar
    commit (char '\'')
    pure body

/-- A backslash at the end of a line, with the blanks and empty lines after it, is no text. -/
def continuation : Parser Unit := do
  char '\\'
  blanks
  lineBreak
  discard (many (either lineBreak (discard (spanOf1 isBlank))))

def basicContent : Parser (List Char) :=
  firstOf [spanOf1 isBasicChar, giving [] (many1 continuation), (fun c ↦ [c]) <$> escape,
    giving ['\n'] lineBreak]

/-- One or two quotes in front of what `after` accepts. -/
def quotes (q : Char) (after : Parser Unit) : Parser (List Char) :=
  either (giving [q, q] (exactly [q, q] <* ahead after)) (giving [q] (char q <* ahead after))

def otherThan (q : Char) : Parser Unit := discard (satisfy (· != q))

def fence (q : Char) : Parser Unit := exactly [q, q, q]

/-- Quotes inside the text, with the text after them; quotes in front of what cannot stand in the
text are taken, and end it. -/
def quotedParts : Nat → Parser (List Char)
  | 0 => pure []
  | n + 1 => do
    match (← opt (quotes '"' (otherThan '"'))) with
    | none => pure []
    | some q =>
      match (← many basicContent) with
      | [] => pure []
      | parts => (q ++ parts.flatten ++ ·) <$> quotedParts n

def longBasicString : Parser (List Char) :=
  labelled "multiline basic string" do
    fence '"'
    discard (opt lineBreak)
    let start := (← many basicContent).flatten
    let middle ← fun c ↦ quotedParts c.rest.length c
    let last ← opt (quotes '"' (fence '"'))
    commit (fence '"')
    pure (start ++ middle ++ last.getD [])

def literalContent : Parser (List Char) := either (spanOf1 isLiteralChar) (giving ['\n'] lineBreak)

def longLiteralString : Parser (List Char) :=
  labelled "multiline literal string" do
    fence '\''
    discard (opt lineBreak)
    let start := (← many literalContent).flatten
    let middle ← many do
      let q ← quotes '\'' (otherThan '\'')
      let parts ← many1 literalContent
      pure (q ++ parts.flatten)
    let last ← opt (quotes '\'' (fence '\''))
    commit (fence '\'')
    pure (start ++ middle.flatten ++ last.getD [])

def string : Parser String :=
  String.ofList <$> firstOf [longBasicString, basicString, longLiteralString, literalString]

end ScriptEnv.Toml
