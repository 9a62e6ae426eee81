import ScriptEnv.Toml.Fault
import ScriptEnv.Toml.Moment
import ScriptEnv.Number.Binary64

namespace ScriptEnv.Toml

structure Key where
  name : String
  span : Span
  deriving DecidableEq, Repr

inductive Origin
  /-- By a header of its own; the document's own table counts as such. -/
  | header
  /-- On the way to the table of a longer header. -/
  | path
  /-- On the way to a dotted key. -/
  | dotted
  /-- Between braces. -/
  | braces
  deriving DecidableEq, Repr

inductive Scalar
  | text (s : String)
  | integer (n : Int)
  | float (x : Number.Binary64)
  | boolean (b : Bool)
  | moment (m : Moment)
  deriving DecidableEq, Repr

/-- A table of items; it has no span if nothing but paths to other tables has mentioned it. -/
structure TableOf (ι : Type) where
  origin : Origin
  span : Option Span
  entries : List (Key × ι)

inductive Item
  | scalar (s : Scalar) (span : Span)
  | array (items : List Item) (span : Span)
  | table (t : TableOf Item)
  | tables (ts : List (TableOf Item))

abbrev Table := TableOf Item

instance : Inhabited Item := ⟨.tables []⟩

def Scalar.kind : Scalar → String
  | text _ => "string"
  | integer _ => "integer"
  | float _ => "float"
  | boolean _ => "boolean"
  | moment _ => "datetime"

namespace Item

def spanOfTables (ts : List Table) : Option Span := do
  let first ← (← ts.head?).span
  let last ← (← ts.getLast?).span
  some ⟨first.start, last.stop⟩

def span? : Item → Option Span
  | scalar _ span => some span
  | array _ span => some span
  | table t => t.span
  | tables ts => spanOfTables ts

def kind : Item → String
  | scalar s _ => s.kind
  | array _ _ => "array"
  | table _ => "inline table"
  | tables _ => "array of tables"

end Item

namespace TableOf

variable {ι : Type}

def empty (origin : Origin) (span : Option Span) : TableOf ι := ⟨origin, span, []⟩

def get? (t : TableOf ι) (name : String) : Option ι :=
  (t.entries.find? (·.1.name = name)).map Prod.snd

def erase (t : TableOf ι) (name : String) : TableOf ι :=
  { t with entries := t.entries.filter (·.1.name ≠ name) }

def append (t : TableOf ι) (k : Key) (i : ι) : TableOf ι := { t with entries := t.entries ++ [(k, i)] }

def put (t : TableOf ι) (k : Key) (i : ι) : TableOf ι :=
  { t with entries := t.entries.map fun e ↦ if e.1.name = k.name then (e.1, i) else e }

def isImplied (t : TableOf ι) : Bool := t.origin = .path || t.origin = .dotted

end TableOf

namespace Table

inductive Way
  | header
  | dottedKey
  | inlineKey
  deriving DecidableEq, Repr

def Way.origin : Way → Origin
  | header => .path
  | dottedKey | inlineKey => .dotted

abbrev Edit (α : Type) := Table → Except Cause (α × Table)

/-- Follows a path and edits the table it ends at. The names walked so far stand in front. -/
def edit {α : Type} (t : Table) (way : Way) (f : Edit α) (walked : List String)
    (path : List Key) : Except Cause (α × Table) :=
  match path with
  | [] => f t
  | k :: path => do
    let walked := walked ++ [k.name]
    let sub : Edit α := fun inner ↦ edit inner way f walked path
    match t.get? k.name with
    | none =>
      let (a, inner) ← sub (.empty way.origin none)
      .ok (a, t.append k (.table inner))
    | some (.table inner) =>
      if inner.origin = .braces ∧ way ≠ .inlineKey then .error (.extendsOther walked "inline table")
      else if way ≠ .header ∧ !inner.isImplied then .error (.duplicateKey k.name none)
      else
        let (a, inner) ← sub inner
        .ok (a, t.put k (.table inner))
    | some (.tables ts) =>
      let (a, last) ← sub (ts.getLast?.getD (.empty .header none))
      .ok (a, t.put k (.tables (ts.dropLast ++ [last])))
    | some i => .error (.extendsOther walked i.kind)

/-- Adds the last part of a key to the table its path ends at: a dotted key extends tables of dotted
keys only, and a plain key all other tables. The parent is the path of that table, where it is to be
named. -/
def addKey (parent : Option (List String)) (path : List Key) (k : Key) (i : Item) : Edit Unit :=
  fun t ↦
    if t.origin = .dotted ↔ path = [] then .error (.duplicateKey k.name none)
    else if (t.get? k.name).isSome then .error (.duplicateKey k.name parent)
    else .ok ((), t.append k i)

end Table

structure KeyValue where
  path : List Key
  key : Key
  value : Item

namespace KeyValue

def addTo (way : Table.Way) (parent : Option (List String)) (kv : KeyValue) (t : Table) :
    Except Cause Table :=
  (t.edit way (Table.addKey parent kv.path kv.key kv.value) [] kv.path).map Prod.snd

end KeyValue

def Table.ofKeyValues (kvs : List KeyValue) : Except Cause Table :=
  kvs.foldlM (fun t kv ↦ kv.addTo .inlineKey none t) (.empty .braces none)

end ScriptEnv.Toml
