import ScriptEnv.Script.Builtin
import ScriptEnv.Settings
import ScriptEnv.Variables

namespace ScriptEnv.CommandLine

inductive Parameter
  | url
  | host
  | port
  | database
  | user
  | password
  | connection
  | config
  | scriptName
  | format
  deriving DecidableEq, Repr

namespace Parameter

def all : List Parameter :=
  [url, host, port, database, user, password, connection, config, scriptName, format]

def long : Parameter → String
  | url => "url"
  | host => "host"
  | port => "port"
  | database => "database"
  | user => "user"
  | password => "password"
  | connection => "connection"
  | config => "config"
  | scriptName => "script-name"
  | format => "format"

def short? : Parameter → Option Char
  | host => some 'H'
  | port => some 'p'
  | database => some 'd'
  | user => some 'U'
  | connection => some 'c'
  | _ => none

end Parameter

inductive Switch
  | verbose
  | help
  | version
  deriving DecidableEq, Repr

namespace Switch

def all : List Switch := [verbose, help, version]

def long : Switch → String
  | verbose => "verbose"
  | help => "help"
  | version => "version"

def short : Switch → Char
  | verbose => 'v'
  | help => 'h'
  | version => 'V'

end Switch

inductive Verb
  | list
  | query
  | table
  deriving DecidableEq, Repr

namespace Verb

def all : List Verb := [list, query, table]

def name : Verb → String
  | list => "list"
  | query => "query"
  | table => "table"

def named? (s : String) : Option Verb := all.find? (·.name = s)

def kinds : List (String × EntityKind) :=
  [("scripts", .script), ("queries", .query), ("tables", .table)]

def command? (verb : Verb) (operand : String) : Option Builtin :=
  match verb with
  | list => (kinds.find? (·.1 = operand)).map fun k ↦ .list k.2
  | query => some (.query operand)
  | table => some (.dump operand)

end Verb

/-- Why a command line is answered at once and runs nothing. -/
inductive Notice
  | help
  | version
  | nothingGiven
  | missingVerb
  | missingOperand
  | unknownVerb
  | unknownWord
  | invalidValue
  | refusedValue
  | surplusValue
  | repeatedParameter
  | undecodable
  deriving DecidableEq, Repr

namespace Notice

def code : Notice → Nat
  | help | version => 0
  | _ => 2

end Notice

structure Invocation where
  command : Builtin
  url : Option String
  host : Option String
  port : Option UInt16
  database : Option String
  user : Option String
  /-- Typed, or else from the environment. -/
  password : Option String
  connection : Option String
  config : Option String
  scriptName : String
  format : String
  verbosity : Nat
  deriving DecidableEq, Repr

end ScriptEnv.CommandLine
