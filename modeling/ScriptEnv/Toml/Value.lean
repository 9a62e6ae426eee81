import ScriptEnv.Toml.Numeral
import ScriptEnv.Toml.Table
import ScriptEnv.Toml.Text

namespace ScriptEnv.Toml

open ScriptEnv.Toml.Parser

def isBareKeyChar (c : Char) : Bool := c.isAlphanum || c == '_' || c == '-'

/-- The least number of nested brackets, and of parts of a key, that is refused. -/
def depthLimit : Nat := 80

def simpleKey : Parser String := do
  match (← peek?) with
  | none => fail
  | some '"' => String.ofList <$> basicString
  | some '\'' => String.ofList <$> literalString
  | some _ => String.ofList <$> spanOf1 isBareKeyChar

def keyPart : Parser Key := do
  blanks
  let (name, span) ← spanned simpleKey
  blanks
  pure ⟨name, span⟩

def dottedKey : Parser (List Key × Key) :=
  checked (fun (path, k) ↦ if path.length + 1 < depthLimit then .ok (path, k) else .error .tooDeep) <|
    labelled "key" do
      let first ← keyPart
      let more ← many (char '.' *> keyPart)
      let parts := first :: more
      pure (parts.dropLast, parts.getLast (List.cons_ne_nil _ _))

def keyValue (value : Parser Item) (after : Parser Unit) : Parser KeyValue := do
  let (path, key) ← dottedKey
  commit do
    expecting ["`.`", "`=`"] (char '=')
    blanks
    let item ← value
    after
    pure ⟨path, key, item⟩

def arrayItems (value : Parser Item) : Parser (List Item) := do
  if (← peek?) = some ']' then pure []
  else
    let items ← separated (char ',') (gap *> value <* gap)
    unless items.isEmpty do discard (opt (char ','))
    gap
    pure items

def array (value : Parser Item) : Parser Item := do
  let (items, span) ← spanned do
    char '['
    let items ← commit (arrayItems value)
    commit (labelled "array" (expecting ["`]`"] (char ']')))
    pure items
  pure (.array items span)

def inlineTable (value : Parser Item) : Parser Item := do
  let (t, span) ← spanned do
    char '\x7b'
    let t ← commit <| checked Table.ofKeyValues do
      let kvs ← separated (char ',') (keyValue value blanks)
      blanks
      pure kvs
    commit (labelled "inline table" (expecting ["`\x7d`"] (char '\x7d')))
    pure t
  pure (.table { t with span := some span })

def scalar (p : Parser Scalar) : Parser Item := do
  let (s, span) ← spanned p
  pure (.scalar s span)

/-- Most likely a string without its quotes. -/
def unquoted (p : Parser Scalar) : Parser Scalar :=
  labelled "string" (expecting ["`\"`", "`'`"] p)

def number : Parser Scalar := firstOf [.moment <$> moment, .float <$> float, .integer <$> integer]

def headless (p : Parser Scalar) : Parser Scalar := expecting ["leading digit"] p

def valueWith (bracketed : Parser Item) : Parser Item := do
  match (← peek?) with
  | none => fail
  | some '"' | some '\'' => scalar (.text <$> string)
  | some '[' | some '\x7b' => bracketed
  | some '_' => scalar (headless (.integer <$> integer))
  | some '.' => scalar (headless (.float <$> float))
  | some 't' => scalar (unquoted (giving (.boolean true) (commit (exactly "true".toList))))
  | some 'f' => scalar (unquoted (giving (.boolean false) (commit (exactly "false".toList))))
  | some 'i' | some 'n' => scalar (unquoted (.float <$> nonFinite))
  | some c =>
    if c == '+' || c == '-' || Number.isDigit c then scalar number else scalar (unquoted fail)

def tooDeep : Parser Item := do commit (failAt (← place) (some .tooDeep))

def inBrackets (value : Parser Item) : Parser Item := either (array value) (inlineTable value)

def valueUpTo : Nat → Parser Item
  | 0 => valueWith tooDeep
  | depth + 1 => valueWith (inBrackets (valueUpTo depth))

def value : Parser Item := valueUpTo (depthLimit - 1)

end ScriptEnv.Toml
