import ScriptEnv.Identifier
import ScriptEnv.Json.Reader

namespace ScriptEnv

inductive EntityKind
  | script
  | query
  | table
  deriving DecidableEq, Repr

def EntityKind.label : EntityKind → String
  | script => "Script"
  | query => "Query"
  | table => "TableData"

structure Entity (kind : EntityKind) where
  name : String
  deriving DecidableEq, Repr

abbrev Script := Entity .script

abbrev StoredQuery := Entity .query

abbrev Table := Entity .table

namespace Entity

variable {kind : EntityKind}

def toJson (e : Entity kind) : String := Json.compact (.object [("name", .string e.name)])

def describe (e : Entity kind) : String :=
  kind.label ++ " \x7b " ++ s!"name: {Text.quote e.name}" ++ " \x7d"

def record (kind : EntityKind) : Json.Record (Option String) (Entity kind) where
  name := kind.label
  start := none
  finish p := do .ok ⟨← Decode.required "name" p⟩
  fields := [⟨"name", Option.isSome, fun _ s ↦ (Json.text s).map fun (a, r) ↦ (some a, r), false⟩]

def ofJson (kind : EntityKind) (text : String) : Except String (Entity kind) :=
  Json.decode (record kind).read text

end Entity

def quoteIdentifier (name : String) : String := String.ofList (Identifier.quote name.toList)

def Table.select (t : Table) : String := s!"SELECT * FROM {quoteIdentifier t.name}"

end ScriptEnv
