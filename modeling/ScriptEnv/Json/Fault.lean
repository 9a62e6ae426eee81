import ScriptEnv.Decode.Mismatch
import ScriptEnv.Json.Writer
import ScriptEnv.Text.Bytes

namespace ScriptEnv.Json

open Decode (Mismatch)
open Text (byteCount)

inductive Cause
  | endInValue
  | endInList
  | endInObject
  | endInString
  | expectedValue
  | expectedWord
  | expectedColon
  | expectedListEnd
  | expectedObjectEnd
  | keyNotString
  | trailingComma
  | trailingText
  | invalidNumber
  | numberRange
  | invalidEscape
  | loneSurrogate
  | escapeCutShort
  | controlInString
  | tooDeep
  | mismatch (m : Mismatch)
  deriving DecidableEq, Repr

def Cause.message : Cause → String
  | endInValue => "EOF while parsing a value"
  | endInList => "EOF while parsing a list"
  | endInObject => "EOF while parsing an object"
  | endInString => "EOF while parsing a string"
  | expectedValue => "expected value"
  | expectedWord => "expected ident"
  | expectedColon => "expected `:`"
  | expectedListEnd => "expected `,` or `]`"
  | expectedObjectEnd => "expected `,` or `\x7d`"
  | keyNotString => "key must be a string"
  | trailingComma => "trailing comma"
  | trailingText => "trailing characters"
  | invalidNumber => "invalid number"
  | numberRange => "number out of range"
  | invalidEscape => "invalid escape"
  | loneSurrogate => "lone leading surrogate in hex escape"
  | escapeCutShort => "unexpected end of hex escape"
  | controlInString => "control character (\\u0000-\\u001F) found while parsing a string"
  | tooDeep => "recursion limit exceeded"
  | mismatch m => m.message numberLayout

inductive Fault
  | placed (cause : Cause) (left : Nat)
  /-- Data that does not fit; the record around it gives the place, from the unread rest. -/
  | loose (mismatch : Mismatch) (rest : List Char)
  deriving DecidableEq, Repr

def before (cause : Cause) (rest : List Char) : Fault := .placed cause (byteCount rest)

/-- A fault on the next byte, which is counted as read; at the end of the text, there. -/
def onNext (cause : Cause) (rest : List Char) : Fault := .placed cause (byteCount rest - 1)

/-- Line (from 1) and column (bytes since the line's start) after the first bytes of a text. -/
def place (line column : Nat) : List Char → Nat → Nat × Nat
  | [], _ => (line, column)
  | c :: r, bytes =>
    if bytes < c.utf8Size then (line, column + bytes)
    else if c = '\n' then place (line + 1) 0 r (bytes - 1)
    else place line (column + c.utf8Size) r (bytes - c.utf8Size)

def Fault.message (text : List Char) : Fault → String
  | placed cause left =>
    let (line, column) := place 1 0 text (byteCount text - left)
    s!"{cause.message} at line {line} column {column}"
  | loose m _ => m.message numberLayout

end ScriptEnv.Json
