import ScriptEnv.Text.Quoted

namespace ScriptEnv.Identifier

def double : List Char → List Char
  | [] => []
  | c :: r => if c = '"' then '"' :: '"' :: double r else c :: double r

def quote (name : List Char) : List Char := '"' :: double name ++ ['"']

/-- What follows the opening quote: characters up to a quote that is not followed by another one. -/
def lexBody : List Char → Option (List Char × List Char)
  | [] => none
  | '"' :: '"' :: r => (lexBody r).map fun (name, rest) ↦ ('"' :: name, rest)
  | '"' :: r => some ([], r)
  | c :: r => (lexBody r).map fun (name, rest) ↦ (c :: name, rest)

def lex : List Char → Option (List Char × List Char)
  | '"' :: r => lexBody r
  | _ => none

end ScriptEnv.Identifier
