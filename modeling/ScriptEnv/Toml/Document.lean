import ScriptEnv.Toml.Value

namespace ScriptEnv.Toml

open ScriptEnv.Toml.Parser

/-- A key in messages: bare where it can be, else in the quotes that need the fewest escapes. -/
def keyText (name : String) : String :=
  let s := name.toList
  let needsCode (c : Char) : Bool := c != '\t' && (c < ' ' || c == '\x7f')
  let code (c : Char) : List Char :=
    let ds := (Nat.toDigits 16 c.toNat).map Char.toUpper
    '\\' :: 'u' :: Number.zeros (4 - ds.length) ++ ds
  let escaped (c : Char) : List Char :=
    match c with
    | '\x08' => ['\\', 'b']
    | '\t' => ['\\', 't']
    | '\n' => ['\\', 'n']
    | '\x0c' => ['\\', 'f']
    | '\r' => ['\\', 'r']
    | '"' => ['\\', '"']
    | '\\' => ['\\', '\\']
    | c => if needsCode c then code c else [c]
  if s ≠ [] ∧ s.all isBareKeyChar then name
  else if s.any needsCode ∨ ((s.contains '"' ∨ s.contains '\\') ∧ s.contains '\'') then
    String.ofList ('"' :: s.flatMap escaped ++ ['"'])
  else if s.contains '"' ∨ s.contains '\\' then String.ofList ('\'' :: s ++ ['\''])
  else String.ofList ('"' :: s.flatMap escaped ++ ['"'])

/-- A header, the last part of its key apart. -/
structure Header where
  path : List Key
  key : Key
  repeated : Bool
  span : Span

def Header.names (h : Header) : List String := h.path.map (·.name) ++ [h.key.name]

def Header.taken (h : Header) : Cause :=
  .duplicateKey (keyText h.key.name) (some (h.path.map (·.name)))

/-- The table of the last header is kept apart; it joins the document at the next header, or at the end. -/
structure Draft where
  document : Table
  header : Option Header
  table : Table

namespace Draft

def empty : Draft := ⟨.empty .header none, none, .empty .header none⟩

def names (d : Draft) : List String := (d.header.map Header.names).getD []

def join (h : Header) (new : Table) : Table.Edit Unit := fun t ↦
  match t.get? h.key.name with
  | some (.tables ts) =>
    if h.repeated then .ok ((), t.put h.key (.tables (ts ++ [new]))) else .error h.taken
  | some _ => .error h.taken
  | none => .ok ((), t.append h.key (if h.repeated then .tables [new] else .table new))

def finish (d : Draft) : Except Cause Table :=
  match d.header with
  | none => .ok d.table
  | some h => (d.document.edit .header (join h d.table) [] h.path).map Prod.snd

/-- Makes room for a header: a table that only paths have mentioned so far is taken out, to be filled
and put back. -/
def makeRoom (h : Header) : Table.Edit (Option Table) := fun t ↦
  match t.get? h.key.name with
  | none => .ok (none, t)
  | some (.tables _) =>
    if h.repeated then .ok (none, t) else .error h.taken
  | some (.table inner) =>
    if !h.repeated ∧ inner.origin = .path then .ok (some inner, t.erase h.key.name)
    else .error h.taken
  | some _ => .error h.taken

def addHeader (d : Draft) (h : Header) : Except Cause Draft := do
  let document ← d.finish
  let (found, document) ← document.edit .header (makeRoom h) [] h.path
  let entries := (found.map (·.entries)).getD []
  .ok ⟨document, some h, ⟨.header, some h.span, entries⟩⟩

def addKeyValue (d : Draft) (kv : KeyValue) : Except Cause Draft := do
  let span := match d.table.span, kv.value.span? with
    | some s, some v => some ⟨s.start, v.stop⟩
    | s, _ => s
  .ok { d with table := ← kv.addTo .dottedKey (some d.names) { d.table with span } }

end Draft

def headerIn (opening closing : List Char) (repeated : Bool) : Parser Header := do
  let ((path, key), span) ← spanned do
    exactly opening
    let k ← commit dottedKey
    commit (expecting ["`.`", quotedWord closing] (exactly closing))
    pure k
  commit lineRest
  pure ⟨path, key, repeated, span⟩
where
  quotedWord (w : List Char) : String := s!"`{String.ofList w}`"

def header (d : Draft) : Parser Draft :=
  labelled "table header" <| checked d.addHeader do
    match (← fun c ↦ .ok (c.rest.take 2, c)) with
    | ['[', '['] => headerIn ['[', '['] [']', ']'] true
    | [_, _] => headerIn ['['] [']'] false
    | _ => fail

def statement (d : Draft) : Parser Draft :=
  checked d.addKeyValue (keyValue value lineRest)

def statements : Nat → Draft → Parser Draft
  | 0, d => pure d
  | n + 1, d => do
    match (← peek?) with
    | none => pure d
    | some '#' =>
      commit (comment *> lineEnd)
      blanks
      statements n d
    | some '[' =>
      let d ← commit (header d)
      blanks
      statements n d
    | some c =>
      if c == '\n' || c == '\r' then
        match (← opt lineBreak) with
        | none => pure d
        | some () =>
          blanks
          statements n d
      else
        let d ← commit (statement d)
        blanks
        statements n d

def document : Parser Table := do
  discard (opt (char '\uFEFF'))
  blanks
  let d ← fun c ↦ statements (c.rest.length + 1) .empty c
  ending
  checked (fun () ↦ d.finish) (pure ())

def parse (text : List Char) : Except Trouble Table :=
  (document ⟨text, 0⟩).map Prod.fst

end ScriptEnv.Toml
