import ScriptEnv.Log
import ScriptEnv.Number.Numeral
import ScriptEnv.Text.Lower
import ScriptEnv.Text.Split

namespace ScriptEnv

structure Directive where
  source : List Char
  rank : Nat
  deriving DecidableEq, Repr

structure LogFilter where
  directives : List Directive
  deriving DecidableEq, Repr

namespace Directive

def ofRank (rank : Nat) : Directive := ⟨[], rank⟩

def everything : Nat := Level.trace.rank

/-- A level by its name in any case or by its rank; nothing passes at rank 0. -/
def rank? (s : List Char) : Option Nat :=
  let word := Text.lower (String.ofList s)
  if word = "off".toList then some 0
  else
    match [Level.error, .warn, .info, .debug, .trace].find? fun l ↦
      word = Text.lower l.name with
    | some l => some l.rank
    | none =>
      match s with
      | [c] => (Number.digitValue? c).filter (· ≤ everything)
      | _ => none

def isSourceChar (c : Char) : Bool := c.isAlphanum || c == '_' || c == '-' || c == ':'

/-- A level for all sources, a source for all levels, or a source and its level. -/
def parse? (s : List Char) : Option Directive :=
  match rank? s with
  | some rank => some (ofRank rank)
  | none =>
    let (source, level) := (Text.cutFirst '=' s).getD (s, [])
    if source = [] ∨ !source.all isSourceChar then none
    else if level = [] then some ⟨source, everything⟩
    else (rank? level).map (⟨source, ·⟩)

def concerns (d : Directive) (source : String) : Bool := d.source.isPrefixOf source.toList

end Directive

namespace LogFilter

/-- Directives between commas. Without any, errors are let through. -/
def parse? (s : String) : Option LogFilter :=
  match (Text.splitOn ',' s.toList).filter (· ≠ []) with
  | [] => some ⟨[.ofRank Level.error.rank]⟩
  | parts => (parts.mapM Directive.parse?).map (⟨·⟩)

def ofVerbosity : Nat → String
  | 0 => "info"
  | 1 => "debug"
  | _ => "trace"

/-- Of the directives whose source begins this one the longest decides, and of equal ones the last. -/
def deciding? (f : LogFilter) (source : String) : Option Directive :=
  (f.directives.filter (·.concerns source)).foldl
    (fun best d ↦
      match best with
      | some b => if b.source.length ≤ d.source.length then some d else some b
      | none => some d)
    none

def admits (f : LogFilter) (r : LogRecord) : Bool :=
  match f.deciding? r.source with
  | some d => r.level.rank ≤ d.rank
  | none => false

def choose (directives : Option String) (verbosity : Nat) : LogFilter :=
  ((directives.bind parse?).or (parse? (ofVerbosity verbosity))).getD ⟨[]⟩

end LogFilter

end ScriptEnv
