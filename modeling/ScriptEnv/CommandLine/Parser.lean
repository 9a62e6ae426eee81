import ScriptEnv.CommandLine.Level

namespace ScriptEnv.CommandLine

/-- The level before the verb; the verb, if there is one; and the words after it. -/
def readGlobal (l : Level) : List String → Except Notice (Level × Option (Verb × List String))
  | [] => .ok (l, none)
  | w :: ws =>
    let verb := if l.escaped ∨ l.isWaiting then none else Verb.named? w
    match verb with
    | some verb => .ok (l, some (verb, ws))
    | none =>
      if w = "help" ∧ !l.escaped ∧ !l.isWaiting then .error (helpOn ws)
      else (l.add w).bind fun l ↦ readGlobal l ws
where
  helpOn : List String → Notice
    | [] => .help
    | [w] => if w = "help" ∨ (Verb.named? w).isSome then .help else .unknownVerb
    | _ => .unknownVerb

def environmentPassword (l : Level) (v : Variables) : Except Notice (Option String) :=
  match l.value? .password, v.bytes? "PGPASSWORD" with
  | none, some b =>
    match Text.ofBytes? b with
    | some s => .ok (some s)
    | none => .error .undecodable
  | _, _ => .ok none

def merged (l m : Level) (p : Parameter) : Option String := (m.value? p).or (l.value? p)

def invocation (l m : Level) (password : Option String) (command : Builtin) : Invocation :=
  { command := command
    url := merged l m .url
    host := merged l m .host
    port := (merged l m .port).bind Level.port?
    database := merged l m .database
    user := merged l m .user
    password := (merged l m .password).or password
    connection := merged l m .connection
    config := merged l m .config
    scriptName := (merged l m .scriptName).getD "cli"
    format := (merged l m .format).getD "text"
    verbosity := (m.verbosity.or l.verbosity).getD 0 }

def withoutVerb (l : Level) (password : Option String) : Notice :=
  if l.given = [] ∧ l.verbosity = none ∧ password = none then .nothingGiven else .missingVerb

def parse (words : List String) (v : Variables) : Except Notice Invocation := do
  let (l, found) ← readGlobal (.start none) words
  match found with
  | none =>
    let l ← l.settle
    .error (withoutVerb l (← environmentPassword l v))
  | some (verb, rest) =>
    let m ← (← rest.foldlM Level.add (.start (some verb))).settle
    let password ← environmentPassword m v
    let some command := m.operand.bind verb.command? | .error .missingOperand
    let l ← l.settle
    let _ ← environmentPassword l v
    .ok (invocation l m password command)

end ScriptEnv.CommandLine
