import ScriptEnv.CommandLine.Basic

namespace ScriptEnv.CommandLine

inductive Word
  /-- After two dashes alone every word is an operand. -/
  | escape
  | long (name : List Char) (value : Option String)
  | short (letters : List Char)
  | plain
  deriving DecidableEq, Repr

namespace Word

def ofString (s : String) : Word :=
  match s.toList with
  | ['-', '-'] => escape
  | '-' :: '-' :: r =>
    match Text.cutFirst '=' r with
    | some (name, value) => long name (some (String.ofList value))
    | none => long r none
  | '-' :: c :: r => short (c :: r)
  | _ => plain

end Word

/-- The value attached to a letter, after an equals sign or at once. -/
def attached : List Char → Option String
  | [] => none
  | '=' :: r => some (String.ofList r)
  | r => some (String.ofList r)

end ScriptEnv.CommandLine
