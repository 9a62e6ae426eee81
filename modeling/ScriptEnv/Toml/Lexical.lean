import ScriptEnv.Toml.Parser

namespace ScriptEnv.Toml

open ScriptEnv.Toml.Parser

def isBlank (c : Char) : Bool := c == ' ' || c == '\t'

def isCommentChar (c : Char) : Bool := c == '\t' || (' ' ≤ c && c != '\x7f')

def blanks : Parser Unit := discard (spanOf isBlank)

def lineBreak : Parser Unit := either (char '\n') (char '\r' *> char '\n')

def comment : Parser Unit := do
  char '#'
  discard (spanOf isCommentChar)

def lineEnd : Parser Unit := either lineBreak ending

def lineRest : Parser Unit :=
  expecting ["newline", "`#`"] do
    blanks
    discard (opt comment)
    lineEnd

def gap : Parser Unit :=
  discard (many (either (either (discard (spanOf1 isBlank)) lineBreak) comment))

end ScriptEnv.Toml
