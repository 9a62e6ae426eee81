import ScriptEnv.Failure
import ScriptEnv.Frame.Basic

namespace ScriptEnv

inductive Halt (ε : Type)
  | error (e : ε)
  | panic
  deriving Repr

structure Inspection where
  scriptName : String
  display : String
  url : String
  scripts : Nat
  queries : Nat
  tables : Nat
  me : Option String
  current : String
  description : String
  hasEngine : Bool
  deriving Repr

inductive Answer
  | nothing
  | truth (b : Bool)
  | word (s : String)
  | count (n : Nat)
  | frame (f : Frame)
  | inspection (i : Inspection)
  deriving Repr

abbrev Answered := Except (Halt Raised) Answer

end ScriptEnv
