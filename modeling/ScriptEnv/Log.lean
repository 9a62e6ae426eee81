namespace ScriptEnv

inductive Level
  | error
  | warn
  | info
  | debug
  | trace
  deriving DecidableEq, Repr

namespace Level

def name : Level → String
  | error => "ERROR"
  | warn => "WARN"
  | info => "INFO"
  | debug => "DEBUG"
  | trace => "TRACE"

def rank : Level → Nat
  | error => 1
  | warn => 2
  | info => 3
  | debug => 4
  | trace => 5

end Level

structure LogRecord where
  level : Level
  source : String
  message : String
  deriving DecidableEq, Repr

def programSource : String := "kakapo"

def runnerSource : String := "kakapo_script::runner"

def engineSource : String := "kakapo_script::db::info"

def connectionSource : String := "kakapo_script::db::connection"

end ScriptEnv
