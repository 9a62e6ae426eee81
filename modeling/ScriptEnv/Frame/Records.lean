import ScriptEnv.Frame.Basic

namespace ScriptEnv.Frame

/-- The name, or else the first of `name_1`, `name_2`, … that is not taken. -/
def freshKey (taken : List String) (name : String) : String :=
  if name ∈ taken then
    let numbered := (List.range (taken.length + 1)).map fun k ↦ s!"{name}_{k + 1}"
    (numbered.find? fun k ↦ k ∉ taken).getD name
  else name

def keysFor (taken : List String) : List String → List String
  | [] => []
  | name :: names =>
    let key := freshKey taken name
    key :: keysFor (taken ++ [key]) names

def recordKeys (f : Frame) : List String := keysFor [] f.columnNames

def record (keys : List String) (row : List Cell) : Json :=
  .object (Keyed.ofList (keys.zip (row.map Cell.plainJson)))

def records (f : Frame) : List Json := f.rows.map (record f.recordKeys)

end ScriptEnv.Frame
