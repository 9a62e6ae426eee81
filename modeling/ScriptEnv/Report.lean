import ScriptEnv.Frame.Records
import ScriptEnv.Frame.Table
import ScriptEnv.Text.Lower

namespace ScriptEnv

inductive Format
  | text
  | json
  deriving DecidableEq, Repr, Inhabited

namespace Format

def label : Format → String
  | text => "Text"
  | json => "Json"

def parse (s : String) : Except String Format :=
  let word := Text.lower s
  if word = "text".toList then .ok text
  else if word = "json".toList then .ok json
  else .error s!"Invalid output format: {s}. Expected: text or json"

end Format

namespace Report

def names (names : List String) : Format → String
  | .text => if names = [] then "(none)" else String.intercalate "\n" names
  | .json => Json.pretty (.array (names.map .string))

def frame (f : Frame) : Format → String
  | .text => f.table
  | .json => Json.pretty (.array f.records)

@[simp]
theorem names_nil_text : names [] .text = "(none)" := rfl

theorem names_text {l : List String} (h : l ≠ []) : names l .text = String.intercalate "\n" l :=
  if_neg h

@[simp]
theorem names_json (l : List String) : names l .json = Json.pretty (.array (l.map .string)) := rfl

@[simp]
theorem frame_text (f : Frame) : frame f .text = f.table := rfl

@[simp]
theorem frame_json (f : Frame) : frame f .json = Json.pretty (.array f.records) := rfl

end Report

end ScriptEnv
