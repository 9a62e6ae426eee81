import ScriptEnv.CommandLine.Parser

namespace ScriptEnv.CommandLine

variable {words : List String} {v : Variables} {i : Invocation} {l m : Level} {command : Builtin}

inductive Reads : List String → Level → Level → Builtin → Prop
  | intro {words rest : List String} {l l' m m' : Level} {verb : Verb} {command : Builtin}
      (before : readGlobal (.start none) words = .ok (l, some (verb, rest)))
      (after : rest.foldlM Level.add (.start (some verb)) = .ok m)
      (settled_after : m.settle = .ok m')
      (told : m'.operand.bind verb.command? = some command)
      (settled_before : l.settle = .ok l') : Reads words l' m' command

theorem parse_eq_ok_iff : parse words v = .ok i ↔ ∃ l m command password,
    Reads words l m command ∧ environmentPassword m v = .ok password ∧
      (∃ unused, environmentPassword l v = .ok unused) ∧ invocation l m password command = i := by
  unfold parse
  constructor
  · intro h
    obtain ⟨⟨l, found⟩, before, h⟩ := bind_eq_ok.1 h
    cases found with
    | none =>
      obtain ⟨l', -, h⟩ := bind_eq_ok.1 h
      obtain ⟨password, -, h⟩ := bind_eq_ok.1 h
      cases h
    | some found =>
      obtain ⟨verb, rest⟩ := found
      obtain ⟨m, after, h⟩ := bind_eq_ok.1 h
      obtain ⟨m', settled_after, h⟩ := bind_eq_ok.1 h
      obtain ⟨password, hpassword, h⟩ := bind_eq_ok.1 h
      split at h
      · next command told =>
        obtain ⟨l', settled_before, h⟩ := bind_eq_ok.1 h
        obtain ⟨unused, hunused, h⟩ := bind_eq_ok.1 h
        exact ⟨l', m', command, password, .intro before after settled_after told settled_before,
          hpassword, ⟨unused, hunused⟩, Except.ok.inj h⟩
      · cases h
  · rintro ⟨l, m, command, password, ⟨before, after, settled_after, told, settled_before⟩,
      hpassword, ⟨unused, hunused⟩, rfl⟩
    simp only [before, after, settled_after, told, settled_before, hpassword, hunused, bind,
      Except.bind]

theorem environmentPassword_unset (l : Level) : environmentPassword l .unset = .ok none := by
  unfold environmentPassword
  cases l.value? .password <;> rfl

theorem environmentPassword_eq_ok {password : Option String}
    (h : environmentPassword m v = .ok password) (l : Level) :
    (merged l m .password).or password = (merged l m .password).or (v.text? "PGPASSWORD") := by
  unfold environmentPassword at h
  unfold merged Variables.text?
  cases hm : m.value? .password with
  | some s => rfl
  | none =>
    rw [hm] at h
    cases hv : v.bytes? "PGPASSWORD" with
    | none =>
      rw [hv] at h
      cases h
      rfl
    | some b =>
      rw [hv] at h
      dsimp only at h
      split at h
      · next s hs =>
        cases h
        rw [Option.bind_some, hs]
      · cases h

end ScriptEnv.CommandLine
