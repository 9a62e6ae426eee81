import ScriptEnv.Frame.Basic
import ScriptEnv.Text.Blank

namespace ScriptEnv.Frame

def texts (f : Frame) : List (List (List Char)) := f.rows.map (·.map (·.display.toList))

def width (texts : List (List (List Char))) (i : Nat) (name : List Char) : Nat :=
  ((texts.filterMap (·[i]?)).map List.length).foldl max name.length

def widths (f : Frame) : List Nat :=
  f.columns.mapIdx fun i c ↦ width f.texts i c.name.toList

def padRight (n : Nat) (s : List Char) : List Char := s ++ List.replicate (n - s.length) ' '

/-- Texts in columns of the given widths, without blanks at the end. -/
def line (widths : List Nat) (texts : List (List Char)) : List Char :=
  Text.trimEnd (Text.join " | ".toList ((texts.zip widths).map fun (t, n) ↦ padRight n t))

def rule (widths : List Nat) : List Char :=
  Text.join "-+-".toList (widths.map fun n ↦ List.replicate n '-')

def countLine (n : Nat) : List Char :=
  (s!"({n} row" ++ (if n = 1 then "" else "s") ++ ")").toList

def tableLines (f : Frame) : List (List Char) :=
  line f.widths (f.columns.map (·.name.toList)) :: rule f.widths :: f.texts.map (line f.widths)

def table (f : Frame) : String :=
  String.ofList (f.tableLines.flatMap (· ++ ['\n']) ++ countLine f.numRows)

end ScriptEnv.Frame
