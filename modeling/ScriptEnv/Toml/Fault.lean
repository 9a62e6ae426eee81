import ScriptEnv.Decode.Mismatch
import ScriptEnv.Text.Bytes

namespace ScriptEnv.Toml

/-- Bytes of a text, from the first up to, and without, the last. -/
structure Span where
  start : Nat
  stop : Nat
  deriving DecidableEq, Repr

inductive Cause
  | duplicateKey (key : String) (table : Option (List String))
  | extendsOther (path : List String) (found : String)
  | outOfRange
  | numberTooLarge
  | numberTooSmall
  | tooDeep
  deriving DecidableEq, Repr

def Cause.message : Cause → String
  | duplicateKey key none => s!"duplicate key `{key}`"
  | duplicateKey key (some []) => s!"duplicate key `{key}` in document root"
  | duplicateKey key (some path) =>
    let table := String.intercalate "." path
    s!"duplicate key `{key}` in table `{table}`"
  | extendsOther path found =>
    let key := String.intercalate "." path
    s!"dotted key `{key}` attempted to extend non-table type ({found})"
  | outOfRange => "value is out of range"
  | numberTooLarge => "number too large to fit in target type"
  | numberTooSmall => "number too small to fit in target type"
  | tooDeep => "recursion limit exceeded"

structure Trouble where
  /-- No alternative is tried any more. -/
  fatal : Bool
  offset : Nat
  label : Option String
  expected : List String
  cause : Option Cause
  deriving DecidableEq, Repr

def Trouble.message (t : Trouble) : String :=
  let expected := if t.expected = [] then none
    else some ("expected " ++ String.intercalate ", " t.expected)
  String.intercalate "\n"
    ((t.label.map ("invalid " ++ ·)).toList ++ expected.toList
      ++ (t.cause.map Cause.message).toList)

namespace Excerpt

open Text (byteCount)

def splitAtByte : Nat → List Char → List Char × List Char
  | _, [] => ([], [])
  | 0, s => ([], s)
  | n + 1, c :: r =>
    let (a, b) := splitAtByte (n + 1 - c.utf8Size) r
    (c :: a, b)

def lastLine (s : List Char) : Nat × List Char :=
  s.foldl (fun (n, line) c ↦ if c = '\n' then (n + 1, []) else (n, line ++ [c])) (0, [])

/-- Line and column, both from 0. A column counts characters, except that the place before a
character of several bytes counts the bytes in front of it; at the end of the text the column is one
past the last character, which may be a line break. -/
def position (text : List Char) (offset : Nat) : Nat × Nat :=
  let size := byteCount text
  if size = 0 then (0, offset)
  else if offset < size then
    let (before, after) := splitAtByte offset text
    let (line, part) := lastLine before
    match after with
    | c :: _ => (line, if c.utf8Size = 1 then part.length else byteCount part)
    | [] => (line, part.length)
  else
    let (line, part) := lastLine text.dropLast
    (line, part.length + 1 + (offset - size))

def lineAt : Nat → List Char → List Char
  | 0, s => s.takeWhile (· ≠ '\n')
  | n + 1, s => lineAt n (s.dropWhile (· ≠ '\n')).tail

/-- The bytes of the character at a place, the character being found from any of its bytes. -/
def characterSpan (text : List Char) (offset : Nat) : Span :=
  let size := byteCount text
  let rec go (start : Nat) : List Char → Span
    | [] => ⟨size, size⟩
    | c :: r => if offset < start + c.utf8Size then ⟨start, start + c.utf8Size⟩ else go (start + c.utf8Size) r
  go 0 text

def render (text : List Char) (span : Span) (message : String) : String :=
  let (line, column) := position text span.start
  let number := toString (line + 1)
  let content := lineAt line text
  let gutter := String.ofList (List.replicate (number.length + 1) ' ')
  let width := min (span.stop - span.start) (byteCount content - column)
  let carets := List.replicate (column + 1) ' ' ++ List.replicate (max 1 width) '^'
  s!"TOML parse error at line {number}, column {column + 1}\n" ++ s!"{gutter}|\n"
    ++ s!"{number} | {String.ofList content}\n" ++ s!"{gutter}|{String.ofList carets}\n"
    ++ s!"{message}\n"

end Excerpt

def Trouble.render (text : List Char) (t : Trouble) : String :=
  Excerpt.render text (Excerpt.characterSpan text t.offset) t.message

end ScriptEnv.Toml
