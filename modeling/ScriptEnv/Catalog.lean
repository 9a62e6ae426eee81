import ScriptEnv.Entity
import ScriptEnv.Failure

namespace ScriptEnv

@[ext]
structure Catalog (kind : EntityKind) where
  entries : List (String × Entity kind)
  sorted : Keyed.Sorted entries

inductive OnDuplicate
  | update
  | ignore
  | fail
  deriving DecidableEq, Repr, Inhabited

/-- What an insertion is told besides the name; for a table that is nothing. -/
def EntityKind.Policy : EntityKind → Type
  | .table => Unit
  | .script | .query => OnDuplicate

instance {kind : EntityKind} : Coe OnDuplicate kind.Policy where
  coe policy :=
    match kind with
    | .table => ()
    | .script | .query => policy

namespace Catalog

variable {kind : EntityKind}

def empty : Catalog kind := ⟨[], Keyed.sorted_nil⟩

def ofList (es : List (Entity kind)) : Catalog kind :=
  ⟨Keyed.ofList (es.map fun e ↦ (e.name, e)), Keyed.sorted_ofList _⟩

def get? (c : Catalog kind) (name : String) : Option (Entity kind) := Keyed.find? name c.entries

def contains (c : Catalog kind) (name : String) : Bool := (c.get? name).isSome

def size (c : Catalog kind) : Nat := c.entries.length

def isEmpty (c : Catalog kind) : Bool := c.entries.isEmpty

def names (c : Catalog kind) : List String := Keyed.keys c.entries

def toList (c : Catalog kind) : List (Entity kind) := Keyed.values c.entries

/-- Writing is not available: the answer is a failure, and the catalog stays as it is. -/
def insert (c : Catalog kind) (_name : String) (_policy : kind.Policy) :
    Except Failure (Entity kind) × Catalog kind :=
  (.error .managementUnavailable, c)

end Catalog

structure ScriptCatalog where
  scripts : Catalog .script
  current : String

namespace ScriptCatalog

def me? (c : ScriptCatalog) : Option Script := c.scripts.get? c.current

def insert (c : ScriptCatalog) (name : String) (policy : OnDuplicate) :
    Except Failure Script × ScriptCatalog :=
  let (answer, scripts) := c.scripts.insert name policy
  (answer, { c with scripts })

end ScriptCatalog

end ScriptEnv
