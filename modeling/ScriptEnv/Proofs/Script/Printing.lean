import ScriptEnv.Proofs.Engine.Retry
import ScriptEnv.Proofs.Script.Effect

namespace ScriptEnv

namespace Session

variable (t : Target) (s : Session)

def heard (s : Session) : String × List LogRecord := (s.output, s.log.filter (·.level = .error))

@[simp]
theorem heard_record {level : Level} (h : level ≠ .error) (source message : String) :
    (s.record level source message).heard = s.heard := by
  simp [heard, record, h]

@[simp]
theorem heard_withPool (pool : Pool) : (s.withPool pool).heard = s.heard := rfl

@[simp]
theorem heard_ensureEngine : (s.ensureEngine t).heard = s.heard := by
  unfold ensureEngine
  split
  · rfl
  · exact s.heard_record (by simp) _ _

@[simp]
theorem heard_openConnection : (s.openConnection t).2.heard = s.heard := by
  unfold openConnection
  split
  · rfl
  · rfl
  · rfl

@[simp]
theorem heard_acquire : (s.acquire t).2.heard = s.heard := by
  apply view_acquire t s heard
  · intro s
    simp
  · intro s
    simp
  · intro pool s
    simp

@[simp]
theorem heard_connect : (s.connect t).2.heard = s.heard := by
  apply view_attempt heard
  · intro n s
    simp
  · intro s
    simp
  · intro n delay s
    simp

@[simp]
theorem heard_release (c : Connection) : (s.release c).heard = s.heard := by
  unfold release
  dsimp only
  split <;> simp

end Session

open ScriptEnv.Action

variable {e : Environment} {format : Format} {s s' : Session} {b : Builtin} {text : String}

theorem Environment.heard_query (e : Environment) (sql : String) (s : Session) :
    ((e.query sql).run s).2.heard = s.heard := by
  have hconnect := s.heard_connect e.target
  rw [query_run]
  rcases hs : s.connect e.target with ⟨f | c, s'⟩ <;> simpa [hs] using hconnect

section

variable {α : Type} {a : Action Failure α} {line : α → String} {x : α}

theorem print_run_of_ok (h : (a.run s).1 = .ok x) :
    (a.raising >>= fun x ↦ printLine (line x) : Action Raised Unit).run s =
      (.ok (), { (a.run s).2 with output := (a.run s).2.output ++ line x ++ "\n" }) := by
  rw [run_bind, raising_run]
  rcases hs : a.run s with ⟨halt | x', s'⟩
  · simp [hs] at h
  · obtain rfl : x' = x := by simpa [hs] using h
    rfl

theorem print_run_of_not_ok (h : ∀ x, (a.run s).1 ≠ .ok x) :
    ∃ halt, (a.raising >>= fun x ↦ printLine (line x) : Action Raised Unit).run s =
      (.error halt, (a.run s).2) := by
  rw [run_bind, raising_run]
  rcases hs : a.run s with ⟨(f | _) | x, s'⟩
  · exact ⟨_, rfl⟩
  · exact ⟨_, rfl⟩
  · exact (h x (by rw [hs])).elim

end

namespace Report

inductive Lists : List String → Format → String → Prop
  | none : Lists [] .text "(none)"
  | lines {l : List String} (h : l ≠ []) : Lists l .text (String.intercalate "\n" l)
  | array (l : List String) : Lists l .json (Json.pretty (.array (l.map .string)))

inductive Shows (f : Frame) : Format → String → Prop
  | table : Shows f .text f.table
  | array : Shows f .json (Json.pretty (.array f.records))

theorem lists_iff {l : List String} : Lists l format text ↔ names l format = text := by
  constructor
  · rintro (_ | h | _)
    · exact names_nil_text
    · exact names_text h
    · exact names_json l
  · rintro rfl
    cases format with
    | json => exact .array l
    | text =>
      by_cases h : l = []
      · rw [h]
        exact .none
      · rw [names_text h]
        exact .lines h

theorem shows_iff {f : Frame} : Shows f format text ↔ frame f format = text := by
  constructor
  · rintro (_ | _)
    · exact frame_text f
    · exact frame_json f
  · rintro rfl
    cases format with
    | text => exact .table
    | json => exact .array

end Report

namespace Builtin

/-- A built-in handler has an answer, and this is it in the format asked for. -/
inductive Renders (e : Environment) (format : Format) (s : Session) : Builtin → String → Prop
  | scripts {text : String} (told : Report.Lists e.scripts.scripts.names format text) :
      Renders e format s (.list .script) text
  | queries {text : String} (told : Report.Lists e.queries.names format text) :
      Renders e format s (.list .query) text
  | tables {text : String} (told : Report.Lists e.tables.names format text) :
      Renders e format s (.list .table) text
  | query {sql text : String} {f : Frame} (h : ((e.query sql).run s).1 = .ok f)
      (told : Report.Shows f format text) : Renders e format s (.query sql) text
  | dump {table text : String} {f : Frame} (h : ((e.fetch ⟨table⟩).run s).1 = .ok f)
      (told : Report.Shows f format text) : Renders e format s (.dump table) text

theorem Renders.handler_run (h : Renders e format s b text) :
    ∃ s', (b.handler format e).run s = (.ok (), s') ∧
      s'.heard = (s.heard.1 ++ text ++ "\n", s.heard.2) := by
  cases h with
  | scripts told | queries told | tables told =>
    obtain rfl := Report.lists_iff.1 told
    exact ⟨_, rfl, rfl⟩
  | @query sql _ f h told =>
    obtain rfl := Report.shows_iff.1 told
    refine ⟨_, print_run_of_ok h, ?_⟩
    rw [← e.heard_query sql s]
    rfl
  | @dump table _ f h told =>
    obtain rfl := Report.shows_iff.1 told
    refine ⟨_, print_run_of_ok h, ?_⟩
    rw [← e.heard_query (Table.select ⟨table⟩) s]
    rfl

theorem handler_run_of_not_renders (b : Builtin) (h : ∀ text, ¬Renders e format s b text) :
    ∃ halt s', (b.handler format e).run s = (.error halt, s') ∧ s'.heard = s.heard := by
  cases b with
  | list kind =>
    have htold : ∀ l, Report.Lists l format (Report.names l format) := fun _ ↦ Report.lists_iff.2 rfl
    cases kind with
    | script => exact (h _ (.scripts (htold _))).elim
    | query => exact (h _ (.queries (htold _))).elim
    | table => exact (h _ (.tables (htold _))).elim
  | query sql =>
    obtain ⟨halt, hrun⟩ := print_run_of_not_ok fun f hf ↦ h _ (.query hf (Report.shows_iff.2 rfl))
    exact ⟨halt, _, hrun, e.heard_query sql s⟩
  | dump table =>
    obtain ⟨halt, hrun⟩ := print_run_of_not_ok fun f hf ↦ h _ (.dump hf (Report.shows_iff.2 rfl))
    exact ⟨halt, _, hrun, e.heard_query _ s⟩

theorem renders_of_ok (h : ((b.handler format e).run s).1 = .ok ()) :
    ∃ text, Renders e format s b text := by
  apply Classical.byContradiction
  intro hnone
  obtain ⟨halt, s', hrun, -⟩ := b.handler_run_of_not_renders (not_exists.1 hnone)
  simp [hrun] at h

theorem heard_of_error {halt : Halt Raised} (h : (b.handler format e).run s = (.error halt, s')) :
    s'.heard = s.heard := by
  by_cases htext : ∃ text, Renders e format s b text
  · obtain ⟨text, htext⟩ := htext
    obtain ⟨s'', hrun, -⟩ := htext.handler_run
    cases hrun.symm.trans h
  · obtain ⟨halt', s'', hrun, hheard⟩ := b.handler_run_of_not_renders (not_exists.1 htext)
    rw [hrun] at h
    cases h
    exact hheard

end Builtin

end ScriptEnv
