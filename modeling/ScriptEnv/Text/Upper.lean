namespace ScriptEnv.Text

/-- Upper case, as far as ASCII letters come out of it; every other character stays outside ASCII. -/
def upperChar (c : Char) : List Char :=
  if 'a' ≤ c ∧ c ≤ 'z' then [Char.ofNat (c.toNat - 32)]
  else
    match c with
    | 'ß' => ['S', 'S']
    | 'ı' => ['I']
    | 'ſ' => ['S']
    | '\uFB00' => ['F', 'F']
    | '\uFB01' => ['F', 'I']
    | '\uFB02' => ['F', 'L']
    | '\uFB03' => ['F', 'F', 'I']
    | '\uFB04' => ['F', 'F', 'L']
    | '\uFB05' | '\uFB06' => ['S', 'T']
    | c => [c]

def upper (s : String) : List Char := s.toList.flatMap upperChar

end ScriptEnv.Text
