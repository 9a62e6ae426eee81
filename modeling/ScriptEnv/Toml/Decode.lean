import ScriptEnv.Keyed
import ScriptEnv.Toml.Document

namespace ScriptEnv.Toml

open Decode (Found Mismatch)

structure Misfit where
  mismatch : Mismatch
  span : Option Span

abbrev Decoder (α : Type) := Item → Except Misfit α

variable {α σ : Type}

def numberLayout : Number.Layout := ⟨.up, none, ".0", "", "NaN", "inf"⟩

def located (span : Option Span) (x : Except Misfit α) : Except Misfit α :=
  x.mapError fun m ↦ { m with span := m.span.or span }

/-- What an item counts as; a date or time counts as a table of one unknown key. -/
def Item.found : Item → Found
  | .scalar (.text s) _ => .text s
  | .scalar (.integer n) _ => .integer n
  | .scalar (.float x) _ => .float x
  | .scalar (.boolean b) _ => .bool b
  | .scalar (.moment _) _ => .map
  | .array _ _ => .sequence
  | .table _ => .map
  | .tables _ => .sequence

def wrongType (expected : String) (i : Item) : Except Misfit α :=
  .error ⟨.wrongType i.found expected, i.span?⟩

def textValue : Decoder String
  | .scalar (.text s) _ => .ok s
  | i => wrongType "a string" i

def naturalUpTo (expected : String) (bound : Nat) : Decoder Nat
  | .scalar (.integer n) span =>
    if 0 ≤ n ∧ n ≤ bound then .ok n.toNat
    else .error ⟨.wrongValue (.integer n) expected, some span⟩
  | i => wrongType expected i

def foldEntries (f : σ → String → Item → Except Misfit σ) (start : σ) (t : Table) :
    Except Misfit σ :=
  t.entries.foldlM (fun state (k, i) ↦ located (i.span?.or (some k.span)) (f state k.name i)) start

structure Field (σ : Type) where
  name : String
  read : σ → Decoder σ
  hasDefault : Bool

/-- A record: a table whose unknown keys are passed over, or the list of its fields in order, of
which items past the last field are passed over. -/
structure Record (σ : Type) where
  name : String
  fields : List (Field σ)
  start : σ

namespace Record

def inOrder (rec : Record σ) (fields : List (Field σ)) (i : Nat) (state : σ) (items : List Item) :
    Except Misfit σ :=
  match fields, items with
  | [], _ => .ok state
  | f :: fields, item :: items => do
    inOrder rec fields (i + 1) (← located item.span? (f.read state item)) items
  | f :: fields, [] =>
    if f.hasDefault then inOrder rec fields (i + 1) state []
    else .error ⟨.wrongLength i (Decode.recordLength rec.name rec.fields.length), none⟩

def read (rec : Record σ) : Decoder σ := fun i ↦
  located i.span? <| match i with
  | .table t =>
    foldEntries
      (fun state name i ↦
        match rec.fields.find? (·.name = name) with
        | none => .ok state
        | some f => f.read state i)
      rec.start t
  | .scalar (.moment _) _ => .ok rec.start
  | .array items _ => rec.inOrder rec.fields 0 rec.start items
  | .tables ts => rec.inOrder rec.fields 0 rec.start (ts.map .table)
  | i => wrongType (Decode.recordName rec.name) i

end Record

def namedRecords (rec : Record σ) : Decoder (List (String × σ))
  | .table t =>
    foldEntries (fun m name i ↦ (rec.read i).map fun a ↦ Keyed.insert name a m) [] t
  | .scalar (.moment m) span =>
    .error ⟨.wrongType (.text m.render) (Decode.recordName rec.name), some span⟩
  | i => wrongType "a map" i

def decode (read : Decoder α) (text : List Char) : Except String α :=
  match parse text with
  | .error t => .error (t.render text)
  | .ok t =>
    (read (.table t)).mapError fun m ↦
      let message := m.mismatch.message numberLayout
      match m.span with
      | some span => Excerpt.render text span message
      | none => message ++ "\n"

end ScriptEnv.Toml
