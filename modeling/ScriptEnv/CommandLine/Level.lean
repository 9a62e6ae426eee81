import ScriptEnv.CommandLine.Word

namespace ScriptEnv.CommandLine

inductive Slot
  | parameter (p : Parameter)
  | operand
  deriving DecidableEq, Repr

/-- Words are taken in turn. A value that stands apart from its option, and an operand, are only judged
at the next option or at the end. -/
structure Level where
  verb : Option Verb
  given : List (Parameter × String)
  verbosity : Option Nat
  operand : Option String
  pending : Option (Slot × Option String)
  escaped : Bool
  deriving DecidableEq, Repr

namespace Level

def start (verb : Option Verb) : Level := ⟨verb, [], none, none, none, false⟩

def value? (l : Level) (p : Parameter) : Option String :=
  (l.given.find? (·.1 = p)).map Prod.snd

def port? (s : String) : Option UInt16 :=
  ((Number.integer? 0 65535 s.toList).map Int.toNat).map UInt16.ofNat

def judge : Parameter → String → Except Notice Unit
  | .port, s => if (port? s).isSome then .ok () else .error .refusedValue
  | .config, s => if s = "" then .error .invalidValue else .ok ()
  | _, _ => .ok ()

def assign (l : Level) (p : Parameter) (s : String) : Except Notice Level :=
  if (l.value? p).isSome then .error .repeatedParameter
  else (judge p s).map fun () ↦ { l with given := l.given ++ [(p, s)] }

def assignOperand (l : Level) (s : String) : Except Notice Level :=
  match l.verb with
  | some verb =>
    if (verb.command? s).isSome then .ok { l with operand := some s } else .error .invalidValue
  | none => .ok { l with operand := some s }

def settle (l : Level) : Except Notice Level :=
  let rest := { l with pending := none }
  match l.pending with
  | none => .ok l
  | some (_, none) => .error .invalidValue
  | some (.parameter p, some s) => rest.assign p s
  | some (.operand, some s) => rest.assignOperand s

def isWaiting (l : Level) : Bool :=
  match l.pending with
  | some (_, none) => !l.escaped
  | _ => false

def verbosityLimit : Nat := 255

def flip (l : Level) (s : Switch) : Except Notice Level := do
  let l ← l.settle
  match s with
  | .verbose => .ok { l with verbosity := some (min verbosityLimit (l.verbosity.getD 0 + 1)) }
  | .help => .error .help
  | .version => .error .version

def take (l : Level) (p : Parameter) (value : Option String) : Except Notice Level := do
  let l ← l.settle
  match value with
  | some s => l.assign p s
  | none => .ok { l with pending := some (.parameter p, none) }

/-- The version is only told before a verb. -/
def switches (l : Level) : List Switch :=
  Switch.all.filter fun s ↦ s ≠ .version ∨ l.verb = none

def long (l : Level) (name : List Char) (value : Option String) : Except Notice Level :=
  match Parameter.all.find? fun p ↦ p.long.toList = name with
  | some p => l.take p value
  | none =>
    match l.switches.find? fun s ↦ s.long.toList = name with
    | some s => if value.isSome then .error .surplusValue else l.flip s
    | none => .error .unknownWord

/-- Letters one by one; the first option with a value takes all the letters after it as its value. -/
def short (l : Level) : List Char → Except Notice Level
  | [] => .ok l
  | c :: r =>
    match Parameter.all.find? fun p ↦ p.short? = some c with
    | some p => l.take p (attached r)
    | none =>
      match l.switches.find? fun s ↦ s.short = c with
      | some s => (l.flip s).bind fun l ↦ short l r
      | none => .error .unknownWord

def addOperand (l : Level) (s : String) : Except Notice Level :=
  match l.verb with
  | none =>
    .error (if l.escaped ∧ (s = "help" ∨ (Verb.named? s).isSome) then .unknownWord else .unknownVerb)
  | some _ =>
    if l.operand.isSome ∨ (l.pending.map Prod.fst) = some .operand then .error .unknownWord
    else l.settle.map fun l ↦ { l with pending := some (.operand, some s) }

def add (l : Level) (s : String) : Except Notice Level :=
  if l.escaped then l.addOperand s
  else
    match Word.ofString s with
    | .escape => .ok { l with escaped := true }
    | .long name value => l.long name value
    | .short letters => l.short letters
    | .plain =>
      match l.pending with
      | some (slot, none) => .ok { l with pending := some (slot, some s) }
      | _ => l.addOperand s

end Level

end ScriptEnv.CommandLine
