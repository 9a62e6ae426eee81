import Mathlib.Data.List.Nodup
import ScriptEnv.Proofs.CommandLine.Precedence

namespace ScriptEnv.CommandLine

variable {verb : Verb} {verb? : Option Verb} {operand : String} {operand? : Option String}
  {given : List (Parameter × String)} {l m : Level} {o : Parameter × String}
  {p : Parameter} {s : String} {v : Variables}
  {command : Builtin} {i : Invocation}

def optionWord (o : Parameter × String) : String := s!"--{o.1.long}={o.2}"

theorem toList_optionWord (o : Parameter × String) :
    (optionWord o).toList = '-' :: '-' :: (o.1.long.toList ++ '=' :: o.2.toList) := by
  simp only [optionWord, String.toList_append, List.append_assoc]
  rfl

theorem ofString_optionWord (o : Parameter × String) :
    Word.ofString (optionWord o) = .long o.1.long.toList (some o.2) := by
  have hname : '=' ∉ o.1.long.toList := by cases o.1 <;> decide
  obtain ⟨c, r, hr⟩ : ∃ c r, o.1.long.toList ++ '=' :: o.2.toList = c :: r :=
    List.exists_cons_of_ne_nil (by simp)
  simp only [Word.ofString, toList_optionWord, hr]
  simp [← hr, Text.cutFirst_append hname]

theorem ofString_operand (h : operand.toList.head? ≠ some '-') : Word.ofString operand = .plain := by
  unfold Word.ofString
  split <;> simp_all

theorem named?_optionWord (o : Parameter × String) : Verb.named? (optionWord o) = none := by
  have hne : ∀ verb : Verb, verb.name ≠ optionWord o := by
    intro verb h
    have hlist := congrArg String.toList h
    rw [toList_optionWord] at hlist
    cases verb <;> simp [Verb.name] at hlist
  simp [Verb.named?, Verb.all, hne]

theorem optionWord_ne_help (o : Parameter × String) : optionWord o ≠ "help" := by
  intro h
  have hlist := congrArg String.toList h
  simp [toList_optionWord] at hlist

namespace Level

def plain (verb? : Option Verb) (operand? : Option String) (given : List (Parameter × String)) : Level :=
  ⟨verb?, given, none, operand?, none, false⟩

def unjudged (verb : Verb) (operand : String) (given : List (Parameter × String)) : Level :=
  ⟨some verb, given, none, none, some (.operand, some operand), false⟩

theorem settle_plain : (plain verb? operand? given).settle = .ok (plain verb? operand? given) := rfl

theorem settle_unjudged : (unjudged verb operand given).settle =
    if (verb.command? operand).isSome then .ok (plain (some verb) (some operand) given)
    else .error .invalidValue := rfl

theorem value?_eq_none_iff : l.value? p = none ↔ p ∉ l.given.map Prod.fst := by
  simp only [value?, Option.map_eq_none_iff, List.find?_eq_none, List.mem_map, not_exists, not_and]
  simp

theorem assign_eq_ok : l.assign p s = .ok m ↔
    p ∉ l.given.map Prod.fst ∧ judge p s = .ok () ∧ { l with given := l.given ++ [(p, s)] } = m := by
  rw [← value?_eq_none_iff]
  unfold assign
  cases l.value? p with
  | some t => simp
  | none =>
    simp only [Option.isSome_none, Bool.false_eq_true, ↓reduceIte, map_eq_ok, true_and]
    exact ⟨fun ⟨(), h⟩ ↦ h, fun h ↦ ⟨(), h⟩⟩

theorem add_optionWord (h : l.escaped = false) (o : Parameter × String) :
    l.add (optionWord o) = l.settle.bind fun l ↦ l.assign o.1 o.2 := by
  have hfind : Parameter.all.find? (fun p ↦ p.long.toList = o.1.long.toList) = some o.1 := by
    cases o.1 <;> rfl
  simp only [add, h, Bool.false_eq_true, ↓reduceIte, ofString_optionWord, long, hfind]
  rfl

theorem add_operand (given : List (Parameter × String)) (h : operand.toList.head? ≠ some '-') :
    (plain (some verb) none given).add operand = .ok (unjudged verb operand given) := by
  simp only [add, plain, Bool.false_eq_true, ↓reduceIte, ofString_operand h]
  rfl

section Options

variable {options : List (Parameter × String)}

/-- A level takes options one after another, if none is given twice and every value will do. -/
theorem foldlM_plain (given : List (Parameter × String)) (hnodup : ((given ++ options).map Prod.fst).Nodup) :
    (options.map optionWord).foldlM add (plain verb? operand? given) = .ok m ↔
      (∀ o ∈ options, judge o.1 o.2 = .ok ()) ∧ plain verb? operand? (given ++ options) = m := by
  induction options generalizing given with
  | nil => simp [pure, Except.pure]
  | cons o options ih =>
    have hfree : o.1 ∉ given.map Prod.fst := by
      simp only [List.map_append, List.map_cons] at hnodup
      exact fun h ↦ (List.nodup_append.1 hnodup).2.2 _ h _ List.mem_cons_self rfl
    rw [List.append_cons] at hnodup ⊢
    rw [List.map_cons, List.foldlM_cons, bind_eq_ok, List.forall_mem_cons, add_optionWord rfl,
      settle_plain]
    constructor
    · rintro ⟨l, hassign, hrest⟩
      obtain ⟨-, hjudge, rfl⟩ := assign_eq_ok.1 hassign
      obtain ⟨hjudged, hm⟩ := (ih _ hnodup).1 hrest
      exact ⟨⟨hjudge, hjudged⟩, hm⟩
    · rintro ⟨⟨hjudge, hjudged⟩, hm⟩
      exact ⟨_, assign_eq_ok.2 ⟨hfree, hjudge, rfl⟩, (ih _ hnodup).2 ⟨hjudged, hm⟩⟩

/-- The operand is judged at the next option or at the end, whichever comes first. -/
theorem foldlM_unjudged (hnodup : ((given ++ options).map Prod.fst).Nodup) :
    (∃ l, (options.map optionWord).foldlM add (unjudged verb operand given) = .ok l ∧
        l.settle = .ok m) ↔
      (verb.command? operand).isSome = true ∧ (∀ o ∈ options, judge o.1 o.2 = .ok ()) ∧
        plain (some verb) (some operand) (given ++ options) = m := by
  -- Only the first option finds the operand unjudged; after it the level is plain.
  cases options with
  | nil =>
    have hnil : (([] : List (Parameter × String)).map optionWord).foldlM add
        (unjudged verb operand given) = .ok (unjudged verb operand given) := rfl
    simp only [hnil, Except.ok.injEq, exists_eq_left', settle_unjudged]
    split <;> simp_all
  | cons o options =>
    have hfirst : (unjudged verb operand given).add (optionWord o) =
        if (verb.command? operand).isSome then (plain (some verb) (some operand) given).add (optionWord o)
        else .error .invalidValue := by
      rw [add_optionWord rfl, add_optionWord rfl, settle_unjudged, settle_plain]
      split <;> rfl
    rw [List.map_cons, List.foldlM_cons, hfirst]
    split
    · next hcommand =>
      rw [← List.foldlM_cons, ← List.map_cons]
      simp only [hcommand, true_and, foldlM_plain given hnodup]
      constructor
      · rintro ⟨l, ⟨hjudged, rfl⟩, hm⟩
        exact ⟨hjudged, Except.ok.inj hm⟩
      · rintro ⟨hjudged, hm⟩
        exact ⟨_, ⟨hjudged, rfl⟩, congrArg Except.ok hm⟩
    · next hcommand => simp [hcommand, bind, Except.bind]

end Options

end Level

theorem readGlobal_options (l : Level) (options : List (Parameter × String)) (words : List String) :
    readGlobal l (options.map optionWord ++ words) =
      ((options.map optionWord).foldlM Level.add l).bind fun l ↦ readGlobal l words := by
  induction options generalizing l with
  | nil => rfl
  | cons o options ih =>
    simp only [List.map_cons, List.cons_append, readGlobal, named?_optionWord, optionWord_ne_help,
      ite_self, false_and, ↓reduceIte, List.foldlM_cons]
    cases l.add (optionWord o) with
    | error notice => rfl
    | ok l' => exact ih l'

theorem readGlobal_verb (given : List (Parameter × String)) (verb : Verb) (words : List String) :
    readGlobal (.plain none none given) (verb.name :: words) =
      .ok (.plain none none given, some (verb, words)) := by
  cases verb <;> rfl

/-- Where the options of a line stand. -/
structure Placement where
  before : List (Parameter × String)
  between : List (Parameter × String)
  behind : List (Parameter × String)

namespace Placement

def options (a : Placement) : List (Parameter × String) := a.before ++ (a.between ++ a.behind)

def words (a : Placement) (verb : Verb) (operand : String) : List String :=
  a.before.map optionWord ++
    verb.name :: (a.between.map optionWord ++ operand :: a.behind.map optionWord)

variable {a : Placement}

theorem readGlobal_words {found : Level × Option (Verb × List String)}
    (hnodup : (a.before.map Prod.fst).Nodup) :
    readGlobal (.start none) (a.words verb operand) = .ok found ↔
      (∀ o ∈ a.before, Level.judge o.1 o.2 = .ok ()) ∧
        (Level.plain none none a.before,
          some (verb, a.between.map optionWord ++ operand :: a.behind.map optionWord)) = found := by
  rw [words, readGlobal_options]
  constructor
  · intro h
    obtain ⟨l, hl, h⟩ := bind_eq_ok.1 h
    obtain ⟨hjudged, rfl⟩ := (Level.foldlM_plain [] hnodup).1 hl
    exact ⟨hjudged, Except.ok.inj ((readGlobal_verb _ verb _).symm.trans h)⟩
  · rintro ⟨hjudged, rfl⟩
    exact bind_eq_ok.2
      ⟨_, (Level.foldlM_plain [] hnodup).2 ⟨hjudged, rfl⟩, readGlobal_verb _ verb _⟩

theorem settle_words (hoperand : operand.toList.head? ≠ some '-')
    (hnodup : ((a.between ++ a.behind).map Prod.fst).Nodup) :
    (∃ l, (a.between.map optionWord ++ operand :: a.behind.map optionWord).foldlM Level.add
        (.start (some verb)) = .ok l ∧ l.settle = .ok m) ↔
      (verb.command? operand).isSome = true ∧
        (∀ o ∈ a.between ++ a.behind, Level.judge o.1 o.2 = .ok ()) ∧
        Level.plain (some verb) (some operand) (a.between ++ a.behind) = m := by
  have hbetween : (([] ++ a.between).map Prod.fst).Nodup := by
    rw [List.map_append] at hnodup
    exact (List.nodup_append.1 hnodup).1
  simp only [List.foldlM_append, bind_eq_ok, List.forall_mem_append]
  -- The options in front of the operand meet a level with nothing pending, those behind it do not.
  constructor
  · rintro ⟨l, ⟨l', hl', hl⟩, hm⟩
    obtain ⟨hjudged, rfl⟩ := (Level.foldlM_plain [] hbetween).1 hl'
    rw [List.foldlM_cons, Level.add_operand _ hoperand] at hl
    obtain ⟨hcommand, hjudged', rfl⟩ := (Level.foldlM_unjudged hnodup).1 ⟨l, hl, hm⟩
    exact ⟨hcommand, ⟨hjudged, hjudged'⟩, rfl⟩
  · rintro ⟨hcommand, ⟨hjudged, hjudged'⟩, rfl⟩
    obtain ⟨l, hl, hm⟩ := (Level.foldlM_unjudged hnodup).2 ⟨hcommand, hjudged', rfl⟩
    refine ⟨l, ⟨_, (Level.foldlM_plain [] hbetween).2 ⟨hjudged, rfl⟩, ?_⟩, hm⟩
    rw [List.foldlM_cons, List.nil_append, Level.add_operand _ hoperand]
    exact hl

theorem reads_words_iff (hoperand : operand.toList.head? ≠ some '-')
    (hnodup : (a.options.map Prod.fst).Nodup) : Reads (a.words verb operand) l m command ↔
      (verb.command? operand = some command ∧ ∀ o ∈ a.options, Level.judge o.1 o.2 = .ok ()) ∧
        Level.plain none none a.before = l ∧
        Level.plain (some verb) (some operand) (a.between ++ a.behind) = m := by
  rw [options, List.map_append, List.nodup_append] at hnodup
  obtain ⟨hbefore, hafter, -⟩ := hnodup
  have hoptions : (∀ o ∈ a.options, Level.judge o.1 o.2 = .ok ()) ↔
      (∀ o ∈ a.before, Level.judge o.1 o.2 = .ok ()) ∧
        ∀ o ∈ a.between ++ a.behind, Level.judge o.1 o.2 = .ok () := List.forall_mem_append
  rw [hoptions]
  constructor
  · rintro ⟨before, after, settled_after, told, settled_before⟩
    obtain ⟨hjudged, hfound⟩ := (readGlobal_words hbefore).1 before
    cases hfound
    obtain ⟨-, hjudged', rfl⟩ := (settle_words hoperand hafter).1 ⟨_, after, settled_after⟩
    exact ⟨⟨told, hjudged, hjudged'⟩, Except.ok.inj settled_before, rfl⟩
  · rintro ⟨⟨told, hjudged, hjudged'⟩, rfl, rfl⟩
    have hcommand := Option.isSome_of_eq_some told
    obtain ⟨_, after, settled_after⟩ := (settle_words hoperand hafter).2 ⟨hcommand, hjudged', rfl⟩
    exact .intro ((readGlobal_words hbefore).2 ⟨hjudged, rfl⟩) after settled_after told rfl

end Placement

/-- The password variable, where it is set, is text. -/
def Decodable (v : Variables) : Prop :=
  ∀ b, v.bytes? "PGPASSWORD" = some b → (Text.ofBytes? b).isSome = true

theorem environmentPassword_of_decodable (h : Decodable v) (l : Level) :
    ∃ password, environmentPassword l v = .ok password := by
  unfold environmentPassword
  split
  · next b _ hb =>
    obtain ⟨s, hs⟩ := Option.isSome_iff_exists.1 (h b hb)
    simp [hs]
  · simp

theorem decodable_of_environmentPassword {password : Option String}
    (hl : l.value? .password = none) (h : environmentPassword l v = .ok password) : Decodable v := by
  intro b hb
  unfold environmentPassword at h
  simp only [hl, hb] at h
  cases hs : Text.ofBytes? b with
  | none => simp [hs] at h
  | some s => rfl

section Chosen

variable {options options' : List (Parameter × String)}

def chosen (options : List (Parameter × String)) (p : Parameter) : Option String :=
  (options.find? (·.1 = p)).map Prod.snd

theorem chosen_eq_some_iff (hnodup : (options.map Prod.fst).Nodup) :
    chosen options p = some s ↔ (p, s) ∈ options := by
  simp only [chosen, Option.map_eq_some_iff]
  constructor
  · rintro ⟨⟨q, t⟩, hfind, rfl⟩
    obtain rfl : q = p := by simpa using List.find?_some hfind
    exact List.mem_of_find?_eq_some hfind
  · intro hmem
    induction options with
    | nil => simp at hmem
    | cons o options ih =>
      obtain ⟨hfirst, hrest⟩ := List.nodup_cons.1 hnodup
      rcases List.mem_cons.1 hmem with rfl | hmem
      · simp
      · have hne : o.1 ≠ p := by
          intro h
          exact hfirst (h ▸ List.mem_map_of_mem hmem)
        simpa [hne] using ih hrest hmem

theorem chosen_perm (hnodup : (options.map Prod.fst).Nodup) (h : options.Perm options') :
    chosen options = chosen options' := by
  funext p
  apply Option.ext
  intro s
  rw [chosen_eq_some_iff hnodup, chosen_eq_some_iff ((h.map Prod.fst).nodup_iff.1 hnodup), h.mem_iff]

theorem chosen_append (p : Parameter) :
    chosen (options ++ options') p = (chosen options p).or (chosen options' p) := by
  simp only [chosen, List.find?_append, Option.map_or]

end Chosen

def Invocation.ofOptions (options : List (Parameter × String)) (command : Builtin)
    (environment : Option String) : Invocation :=
  { command := command
    url := chosen options .url
    host := chosen options .host
    port := (chosen options .port).bind Level.port?
    database := chosen options .database
    user := chosen options .user
    password := (chosen options .password).or environment
    connection := chosen options .connection
    config := chosen options .config
    scriptName := (chosen options .scriptName).getD "cli"
    format := (chosen options .format).getD "text"
    verbosity := 0 }

/-- A line is accepted for its command and its values, not for where they stand. -/
structure Acceptable (verb : Verb) (operand : String) (options : List (Parameter × String))
    (v : Variables) (command : Builtin) : Prop where
  command : verb.command? operand = some command
  judged : ∀ o ∈ options, Level.judge o.1 o.2 = .ok ()
  decodable : Decodable v

theorem Acceptable.perm {options options' : List (Parameter × String)}
    (h : Acceptable verb operand options v command) (hperm : options.Perm options') :
    Acceptable verb operand options' v command :=
  ⟨h.command, fun o ho ↦ h.judged o (hperm.mem_iff.2 ho), h.decodable⟩

namespace Placement

variable {a : Placement} {options : List (Parameter × String)}

theorem merged_eq (hnodup : (a.options.map Prod.fst).Nodup) (p : Parameter) :
    merged (.plain none none a.before) (.plain (some verb) (some operand) (a.between ++ a.behind)) p =
      chosen a.options p := by
  have hperm : (a.between ++ a.behind ++ a.before).Perm a.options := List.perm_append_comm
  calc merged (.plain none none a.before) (.plain _ _ (a.between ++ a.behind)) p
    _ = chosen (a.between ++ a.behind ++ a.before) p := (chosen_append p).symm
    _ = chosen a.options p := by
      rw [chosen_perm ((hperm.map Prod.fst).nodup_iff.2 hnodup) hperm]

theorem invocation_eq {password : Option String} (hnodup : (a.options.map Prod.fst).Nodup)
    (hpassword : environmentPassword m v = .ok password)
    (hm : m = .plain (some verb) (some operand) (a.between ++ a.behind)) :
    invocation (.plain none none a.before) m password command =
      .ofOptions a.options command (v.text? "PGPASSWORD") := by
  subst hm
  have hor := environmentPassword_eq_ok hpassword (.plain none none a.before)
  simp only [merged_eq hnodup] at hor
  simp only [invocation, merged_eq hnodup, hor]
  rfl

/-- A password that is given once leaves one of the two levels without one. -/
theorem value?_password (verb : Verb) (operand : String)
    (hnodup : (a.options.map Prod.fst).Nodup) :
    (Level.plain none none a.before).value? .password = none ∨
      (Level.plain (some verb) (some operand) (a.between ++ a.behind)).value? .password = none := by
  simp only [Level.value?_eq_none_iff, Level.plain]
  rw [options, List.map_append, List.nodup_append] at hnodup
  by_contra! h
  exact hnodup.2.2 _ h.1 _ h.2 rfl

theorem parse_words_iff (hoperand : operand.toList.head? ≠ some '-')
    (hnodup : (a.options.map Prod.fst).Nodup) : parse (a.words verb operand) v = .ok i ↔
      ∃ command, Acceptable verb operand a.options v command ∧
        .ofOptions a.options command (v.text? "PGPASSWORD") = i := by
  rw [parse_eq_ok_iff]
  constructor
  · rintro ⟨l, m, command, password, hreads, hpassword, ⟨unused, hunused⟩, rfl⟩
    obtain ⟨⟨hcommand, hjudged⟩, rfl, rfl⟩ := (reads_words_iff hoperand hnodup).1 hreads
    have hdecodable : Decodable v := by
      rcases value?_password verb operand hnodup with h | h
      · exact decodable_of_environmentPassword h hunused
      · exact decodable_of_environmentPassword h hpassword
    exact ⟨command, ⟨hcommand, hjudged, hdecodable⟩, (invocation_eq hnodup hpassword rfl).symm⟩
  · rintro ⟨command, haccepted, rfl⟩
    obtain ⟨password, hpassword⟩ := environmentPassword_of_decodable haccepted.decodable
      (.plain (some verb) (some operand) (a.between ++ a.behind))
    exact ⟨_, _, command, password,
      (reads_words_iff hoperand hnodup).2 ⟨⟨haccepted.command, haccepted.judged⟩, rfl, rfl⟩,
      hpassword, environmentPassword_of_decodable haccepted.decodable _,
      invocation_eq hnodup hpassword rfl⟩

theorem parse_words_of_perm (hoperand : operand.toList.head? ≠ some '-')
    (hnodup : (options.map Prod.fst).Nodup) (hperm : a.options.Perm options) :
    parse (a.words verb operand) v = .ok i ↔
      ∃ command, Acceptable verb operand options v command ∧
        .ofOptions options command (v.text? "PGPASSWORD") = i := by
  have hnodup' := (hperm.map Prod.fst).nodup_iff.2 hnodup
  rw [parse_words_iff hoperand hnodup']
  have hchosen := chosen_perm hnodup' hperm
  simp only [Invocation.ofOptions, hchosen]
  apply exists_congr
  intro command
  exact and_congr_left fun _ ↦ ⟨fun h ↦ h.perm hperm, fun h ↦ h.perm hperm.symm⟩

end Placement

/-- Either every placement of the options is accepted and says the same, or none is accepted. -/
theorem placement_immaterial (verb : Verb) (operand : String)
    (options : List (Parameter × String)) (v : Variables)
    (hoperand : operand.toList.head? ≠ some '-') (hnodup : (options.map Prod.fst).Nodup) :
    (∀ command, Acceptable verb operand options v command →
      ∀ a : Placement, a.options.Perm options → parse (a.words verb operand) v =
        .ok (.ofOptions options command (v.text? "PGPASSWORD"))) ∧
    ((¬∃ command, Acceptable verb operand options v command) →
      ∀ a : Placement, a.options.Perm options → ∃ notice,
        parse (a.words verb operand) v = .error notice) := by
  constructor
  · intro command haccepted a hperm
    exact (Placement.parse_words_of_perm hoperand hnodup hperm).2 ⟨command, haccepted, rfl⟩
  · intro hrefused a hperm
    cases hparse : parse (a.words verb operand) v with
    | error notice => exact ⟨notice, rfl⟩
    | ok i =>
      obtain ⟨command, haccepted, -⟩ :=
        (Placement.parse_words_of_perm hoperand hnodup hperm).1 hparse
      exact (hrefused ⟨command, haccepted⟩).elim

def orders : List (Parameter × String) := [(.port, "5433"), (.url, "postgresql://u:urlpass@h/db")]

def ordersInvocation : Invocation :=
  ⟨.dump "orders", some "postgresql://u:urlpass@h/db", none, some 5433, none, none, some "envpass",
    none, none, "cli", "text", 0⟩

theorem acceptable_orders :
    Acceptable .table "orders" orders passwordVariable (.dump "orders") where
  command := rfl
  judged := by decide
  decodable := by
    intro b hb
    cases hb
    rfl

theorem placement_immaterial_orders :
    ("orders".toList.head? ≠ some '-' ∧ (orders.map Prod.fst).Nodup) ∧
    (parse ["--url=postgresql://u:urlpass@h/db", "table", "--port=5433", "orders"] passwordVariable =
        .ok ordersInvocation ∧
      parse ["table", "orders", "--port=5433", "--url=postgresql://u:urlpass@h/db"]
        passwordVariable = .ok ordersInvocation) ∧
    ∃ notice, parse ["table", "--port=late", "orders"] passwordVariable = .error notice := by
  have hsame := (placement_immaterial .table "orders" orders passwordVariable (by decide)
    (by decide)).1 _ acceptable_orders
  have hrefused := (placement_immaterial .table "orders" [(.port, "late")] passwordVariable
    (by decide) (by decide)).2 fun ⟨_, h⟩ ↦ by cases h.judged (.port, "late") (by simp)
  exact ⟨⟨by decide, by decide⟩,
    ⟨hsame ⟨[(.url, "postgresql://u:urlpass@h/db")], [(.port, "5433")], []⟩ (by decide),
      hsame ⟨[], [], orders⟩ (by decide)⟩, hrefused ⟨[], [(.port, "late")], []⟩ (by decide)⟩

end ScriptEnv.CommandLine
