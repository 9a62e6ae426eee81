import ScriptEnv.Frame.Cell

namespace ScriptEnv

structure Column where
  name : String
  type : String
  deriving DecidableEq, Repr

structure Frame where
  columns : List Column
  rows : List (List Cell)
  /-- How long it took to fetch the frame, in nanoseconds. -/
  elapsed : Nat
  deriving DecidableEq, Repr

namespace Frame

def empty : Frame := ⟨[], [], 0⟩

instance : Inhabited Frame := ⟨empty⟩

def isEmpty (f : Frame) : Bool := f.rows.isEmpty

def numRows (f : Frame) : Nat := f.rows.length

def numColumns (f : Frame) : Nat := f.columns.length

def columnNames (f : Frame) : List String := f.columns.map (·.name)

/-- The place of the first column of that name. -/
def columnIndex? (f : Frame) (name : String) : Option Nat :=
  f.columns.findIdx? fun c ↦ c.name = name

/-- The cells of the named column, in rows that reach so far. -/
def column? (f : Frame) (name : String) : Option (List Cell) :=
  (f.columnIndex? name).map fun i ↦ f.rows.filterMap (·[i]?)

def get? (f : Frame) (row : Nat) (name : String) : Option Cell := do
  let i ← f.columnIndex? name
  let cells ← f.rows[row]?
  cells[i]?

def head (f : Frame) (n : Nat) : Frame := { f with rows := f.rows.take n }

def Rectangular (f : Frame) : Prop := ∀ r ∈ f.rows, r.length = f.columns.length

instance (f : Frame) : Decidable f.Rectangular :=
  inferInstanceAs (Decidable (∀ r ∈ f.rows, r.length = f.columns.length))

end Frame

end ScriptEnv
