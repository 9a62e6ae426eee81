import ScriptEnv.Program

namespace ScriptEnv.Main

def variableNames : List String :=
  ["PGHOST", "PGPORT", "PGDATABASE", "PGUSER", "PGPASSWORD", "XDG_CONFIG_HOME", "HOME", "RUST_LOG"]

def readVariables : IO Variables := do
  let found ← variableNames.filterMapM fun name ↦ do
    return (← IO.getEnv name).map fun value ↦ (name, value.toUTF8.data.toList)
  return ⟨fun name ↦ (found.find? (·.1 = name)).map Prod.snd⟩

def readFile (path : String) : IO FileContent := do
  try
    return .bytes (← IO.FS.readBinFile path).data.toList
  catch
    | .noFileOrDirectory .. => return .absent
    | .inappropriateType .. => return .directory
    | e => return .unreadable (toString e)

def settingsFile (words : List String) (v : Variables) : IO FileContent :=
  match CommandLine.parse words v with
  | .error _ => return .absent
  | .ok i => readFile (i.settingsPath v none)

end ScriptEnv.Main

def main (words : List String) : IO UInt32 := do
  let v ← ScriptEnv.Main.readVariables
  let file ← ScriptEnv.Main.settingsFile words v
  let peer := .noRoute ScriptEnv.networkUnreachable
  let ended := ScriptEnv.Program.run words ⟨v, none, fun _ ↦ file, peer⟩
  (← IO.getStdout).putStr ended.output
  let errors ← IO.getStderr
  errors.putStr ended.complaint
  for r in ended.log do
    errors.putStrLn s!"{r.level.name} {r.source}: {r.message}"
  return UInt32.ofNat ended.code
