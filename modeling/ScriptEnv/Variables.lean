import ScriptEnv.Text.Bytes

namespace ScriptEnv

structure Variables where
  bytes? : String → Option (List UInt8)

namespace Variables

def unset : Variables := ⟨fun _ ↦ none⟩

def text? (v : Variables) (name : String) : Option String := (v.bytes? name).bind Text.ofBytes?

/-- A value for display, with U+FFFD for bytes that are not UTF-8. -/
def shown? (v : Variables) (name : String) : Option String :=
  (v.bytes? name).map Text.ofBytesLossy

end Variables

end ScriptEnv
