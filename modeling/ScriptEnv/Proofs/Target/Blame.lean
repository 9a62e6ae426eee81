import ScriptEnv.Proofs.Target.ReadBack
import ScriptEnv.Proofs.Url.Place

namespace ScriptEnv.Target

open Url (percentEncode IsInfo hostOutcome)

variable {driver : Driver} {username password host database : String} {port : UInt16} {f : Failure}

def info (username password : String) : List Char :=
  percentEncode credentialSet username.toList ++
    if password = "" then [] else ':' :: percentEncode credentialSet password.toList

theorem isInfo_info (hu : ¬Text.Blank username) (password : String) :
    IsInfo (info username password) where
  settled := by
    intro c hc
    have hsettled := covers_userinfoSet.settled
    rcases List.mem_append.1 hc with hc | hc
    · exact .inr (hsettled username.toList c hc)
    · split at hc
      · exact absurd hc List.not_mem_nil
      · exact (List.mem_cons.1 hc).imp id (hsettled password.toList c)
  named := by
    have hne : percentEncode credentialSet username.toList ≠ [] :=
      Url.percentEncode_ne_nil (Text.ne_nil_of_not_blank hu)
    obtain ⟨c, r, hcons⟩ := List.exists_cons_of_ne_nil hne
    refine ⟨c, _, congrArg (· ++ _) hcons, ?_⟩
    rintro rfl
    have hcolon := (covers_userinfoSet.settled username.toList).notMem (c := ':') (by decide)
    exact hcolon (hcons ▸ List.mem_cons_self)

theorem urlText_eq_placed (driver : Driver) (username password host : String) (port : UInt16)
    (database : String) : urlText driver username password host port database =
      String.ofList (Url.placed (info username password) host.toList port.toNat
        (percentEncode databaseSet database.toList)) := by
  have hscheme : driver.urlScheme.toList = Url.Parts.scheme := by
    cases driver
    rfl
  have hslashes : "://".toList = [':', '/', '/'] := rfl
  unfold urlText
  dsimp only
  rw [hscheme, hslashes]
  simp only [Url.placed, info, List.append_assoc, List.cons_append]

variable (driver password host port database) in
theorem parse_urlText (hu : ¬Text.Blank username) :
    (Url.parse (urlText driver username password host port database)).map (fun _ ↦ ()) =
      hostOutcome host.toList := by
  have hport := port.toNat_lt
  rw [urlText_eq_placed]
  exact Url.parse_placed (isInfo_info hu password) (covers_segmentSet.settled _) (by omega) _

def hostFailure (host : String) : Option Failure :=
  if Text.Blank host then some (.config "'host' must not be empty")
  else
    match hostOutcome (bracketed host).toList with
    | .ok () => none
    | .error f => some (.config s!"Invalid host '{bracketed host}': {f.message}")

theorem build_eq_error_iff (hu : ¬Text.Blank username) (hd : ¬Text.Blank database) :
    build driver username password host port database = .error f ↔ hostFailure host = some f := by
  unfold build hostFailure
  by_cases hh : Text.Blank host
  · simp only [requireText, if_neg hu, if_pos hh, bind, Except.bind, Except.error.injEq,
      Option.some_inj]
    rfl
  · rw [← parse_urlText driver password (bracketed host) database port hu]
    simp only [requireText, if_neg hu, if_neg hh, if_neg hd, bind, Except.bind]
    cases Url.parse (urlText driver username password (bracketed host) port database) <;>
      simp [Except.map]

end ScriptEnv.Target
