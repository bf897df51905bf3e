import Velox.Lib.Coupling
import Velox.SoftwareEngineering.SessionProtocol

/-!
# The token of an operator session

A session sends its token with every request and does nothing else with it: two commands with
different tokens, given the same answers, send the same requests, print the same lines and end
alike.

## Main definitions

* `printed` — the lines a session has printed
* `Blind` — calls that differ only in the client they are made by
* `Alike` — two outsides that answer alike, each its own client

## Main results

* `main_blind`
-/

set_option autoImplicit false

namespace Velox

namespace TaskSession

/-- The lines that were printed. -/
def printed (t : List (Exchange OperatorCalls)) : List (String × Stream) :=
  t.filterMap fun
    | ⟨.print line stream, _⟩ => some (line, stream)
    | _ => none

theorem printed_append {t t' : List (Exchange OperatorCalls)} :
    printed (t ++ t') = printed t ++ printed t' := List.filterMap_append

/-- Calls that differ only in the client they are made by. -/
def Blind (client client' : ApiClient) : OperatorCall → OperatorCall → Prop
  | .request c request, .request c' request' => c = client ∧ c' = client' ∧ request = request'
  | .readLine, .readLine => True
  | .print line stream, .print line' stream' => line = line' ∧ stream = stream'
  | _, _ => False

/-- Such calls have the same reply. -/
def SameReply : (c d : OperatorCall) → OperatorCall.Reply c → OperatorCall.Reply d → Prop
  | .request .., .request .., r, s => r = s
  | .readLine, .readLine, r, s => r = s
  | .print .., .print .., _, _ => True
  | _, _, _, _ => False

section Coupled

variable {client client' : ApiClient}

/-- Two sessions that make such calls, and come to the same end. -/
abbrev Together {α : Type} (client client' : ApiClient) (m m' : Session α) : Prop :=
  Proc.Coupled (Blind client client') SameReply m m'

theorem together_send {request : ApiRequest} :
    Together client client' (send client request) (send client' request) :=
  Proc.Coupled.request ⟨rfl, rfl, rfl⟩ fun _ _ hr => hr

theorem together_readLine : Together client client' readLine readLine :=
  Proc.Coupled.request trivial fun _ _ hr => hr

theorem together_print {line : String} {stream : Stream} :
    Together client client' (print line stream) (print line stream) :=
  Proc.Coupled.request ⟨rfl, rfl⟩ fun _ _ _ => rfl

theorem together_prints {lines : List String} :
    Together client client' (lines.forM fun line => print line)
      (lines.forM fun line => print line) := by
  induction lines with
  | nil => exact Proc.coupled_pure
  | cons line lines ih => exact Proc.Coupled.seq together_print fun _ => ih

theorem together_prompt {question : String} :
    Together client client' (prompt question) (prompt question) := by
  apply Proc.Coupled.seq together_print
  intro _
  apply Proc.Coupled.seq together_readLine
  intro line
  exact Proc.coupled_pure

theorem together_end {line : String} {stream : Stream} {code : ℤ} :
    Together client client'
      (do
        print line stream
        return code)
      (do
        print line stream
        return code) :=
  Proc.Coupled.seq together_print fun _ => Proc.coupled_pure

theorem together_runHealth : Together client client' (runHealth client) (runHealth client') := by
  apply Proc.Coupled.seq together_send
  intro response
  apply Proc.Coupled.seq Proc.coupled_ofExcept
  intro _
  apply Proc.Coupled.seq Proc.coupled_ofExcept
  intro payload
  exact Proc.coupled_ofExcept

theorem together_approve {id : String} :
    Together client client' (approve client id) (approve client' id) :=
  Proc.Coupled.seq together_send fun _ => Proc.coupled_ofExcept

theorem together_applyDisposition {id disposition : String} :
    Together client client' (applyDisposition client id disposition)
      (applyDisposition client' id disposition) := by
  apply Proc.Coupled.seq together_send
  intro response
  apply Proc.Coupled.seq Proc.coupled_ofExcept
  intro _
  apply Proc.Coupled.seq Proc.coupled_ofExcept
  intro body
  exact Proc.coupled_ofExcept

theorem together_promote {id title body : String} :
    Together client client' (promote client id title body) (promote client' id title body) := by
  apply Proc.Coupled.seq together_send
  intro response
  apply Proc.Coupled.seq Proc.coupled_ofExcept
  intro _
  exact Proc.coupled_ofExcept

theorem together_verifyPromoted {id : String} {promotion : List (String × Value)} :
    Together client client' (verifyPromoted client id promotion)
      (verifyPromoted client' id promotion) := by
  apply Proc.Coupled.seq together_send
  intro response
  apply Proc.Coupled.seq Proc.coupled_ofExcept
  intro _
  apply Proc.Coupled.seq Proc.coupled_ofExcept
  intro body
  apply Proc.Coupled.seq Proc.coupled_ofExcept
  intro _
  exact Proc.coupled_ofExcept

variable [PyTerminal]

theorem together_delegate {objective target : String} :
    Together client client' (delegate client objective target)
      (delegate client' objective target) := by
  apply Proc.Coupled.seq together_send
  intro response
  apply Proc.Coupled.seq Proc.coupled_ofExcept
  intro _
  apply Proc.Coupled.seq Proc.coupled_ofExcept
  intro body
  apply Proc.Coupled.seq Proc.coupled_ofExcept
  intro _
  exact Proc.coupled_ofExcept

theorem together_execute {id : String} :
    Together client client' (execute client id) (execute client' id) := by
  apply Proc.Coupled.seq together_send
  intro response
  apply Proc.Coupled.seq Proc.coupled_ofExcept
  intro _
  apply Proc.Coupled.seq Proc.coupled_ofExcept
  intro body
  apply Proc.Coupled.seq Proc.coupled_ofExcept
  intro _
  exact Proc.coupled_pure

theorem together_renderReview {review : List (String × Value)} :
    Together client client' (renderReview review) (renderReview review) := by
  apply Proc.Coupled.seq Proc.coupled_ofExcept
  intro changed
  apply Proc.Coupled.seq Proc.coupled_ofExcept
  intro untracked
  exact together_prints

theorem together_finishKept {id : String} :
    Together client client' (finishKept client id) (finishKept client' id) := by
  apply Proc.Coupled.seq together_prompt
  intro answer
  apply Proc.Coupled.ite fun _ => together_end
  intro _
  apply Proc.Coupled.seq together_prompt
  intro title
  apply Proc.Coupled.seq together_prompt
  intro body
  apply Proc.Coupled.seq together_promote
  intro promotion
  apply Proc.Coupled.seq together_verifyPromoted
  intro _
  apply Proc.Coupled.seq together_print
  intro _
  exact Proc.Coupled.seq together_prints fun _ => Proc.coupled_pure

theorem together_finishExecuted {id : String} :
    Together client client' (finishExecuted client id) (finishExecuted client' id) := by
  apply Proc.Coupled.seq together_prompt
  intro answer
  apply Proc.Coupled.ite
  · exact fun _ => Proc.Coupled.seq together_applyDisposition fun _ => together_end
  intro _
  apply Proc.Coupled.ite fun _ => together_end
  intro _
  apply Proc.Coupled.seq together_applyDisposition
  intro _
  exact Proc.Coupled.seq together_print fun _ => together_finishKept

theorem together_runSession {objective target : String} :
    Together client client' (runSession client objective target)
      (runSession client' objective target) := by
  apply Proc.Coupled.seq together_runHealth
  intro _
  apply Proc.Coupled.seq together_delegate
  intro id
  apply Proc.Coupled.seq together_print
  intro _
  apply Proc.Coupled.seq together_print
  intro _
  apply Proc.Coupled.seq together_print
  intro _
  apply Proc.Coupled.seq together_readLine
  intro line
  apply Proc.Coupled.ite fun _ => together_end
  intro _
  apply Proc.Coupled.seq together_approve
  intro _
  apply Proc.Coupled.seq together_print
  intro _
  apply Proc.Coupled.seq together_execute
  intro execution
  apply Proc.Coupled.seq Proc.coupled_ofExcept
  intro review
  exact Proc.Coupled.seq together_renderReview fun _ => together_finishExecuted

theorem together_main (urlsplit : String → Except Raised SplitUrl) (arguments : Arguments)
    (token token' : Option String) :
    ∃ baseUrl, Together ⟨baseUrl, bearerHeaders token⟩ ⟨baseUrl, bearerHeaders token'⟩
      (main urlsplit arguments token) (main urlsplit arguments token') := by
  rw [main, main]
  cases validateArguments urlsplit arguments with
  | error e =>
    -- nothing is sent, to whatever URL
    refine ⟨"", ?_⟩
    cases e with
    | operator message => exact together_end
    | http className => exact Proc.coupled_throw
    | other e => exact Proc.coupled_throw
  | ok baseUrl =>
    refine ⟨baseUrl, Proc.Coupled.handle together_runSession ?_⟩
    intro e
    cases e with
    | operator message => exact together_end
    | http className => exact together_end
    | other e => exact Proc.coupled_throw

end Coupled

/-! ### Two outsides -/

/-- Two outsides answer calls that differ only in the client alike, each its own client. -/
def Alike {V W : Type} (client client' : ApiClient) (k : Handler OperatorCalls V)
    (k' : Handler OperatorCalls W) (R : V → W → Prop) : Prop :=
  ∀ c d v w, Blind client client' c d → R v w →
    SameReply c d (k c v).1 (k' d w).1 ∧ R (k c v).2 (k' d w).2

/-- Two logs with the same requests and the same printed lines. -/
structure SameLog (t t' : List (Exchange OperatorCalls)) : Prop where
  printed : printed t = printed t'
  requests : (requests t).map Answered.request = (requests t').map Answered.request

section Log

variable {client client' : ApiClient} {t t' : List (Exchange OperatorCalls)}

theorem sameLog_of_blind {c d : OperatorCall} {r : OperatorCall.Reply c} {s : OperatorCall.Reply d}
    (hcd : Blind client client' c d) : SameLog [⟨c, r⟩] [⟨d, s⟩] := by
  cases c with
  | request c request =>
    cases d with
    | request c' request' =>
      obtain ⟨rfl, rfl, rfl⟩ := hcd
      exact ⟨rfl, rfl⟩
    | _ => exact hcd.elim
  | readLine =>
    cases d with
    | readLine => exact ⟨rfl, by cases r <;> cases s <;> rfl⟩
    | _ => exact hcd.elim
  | print line stream =>
    cases d with
    | print line' stream' =>
      obtain ⟨rfl, rfl⟩ := hcd
      exact ⟨rfl, rfl⟩
    | _ => exact hcd.elim

theorem SameLog.append {new new' : List (Exchange OperatorCalls)} (h : SameLog t t')
    (hnew : SameLog new new') : SameLog (t ++ new) (t' ++ new') := by
  constructor
  · rw [printed_append, printed_append, h.printed, hnew.printed]
  · rw [requests_append, requests_append, List.map_append, List.map_append, h.requests,
      hnew.requests]

end Log

/-- The token of a command decides nothing but the header it is sent in: given the same
answers, commands with different tokens send the same requests, print the same lines and end
alike. -/
theorem main_blind [PyTerminal] {urlsplit : String → Except Raised SplitUrl}
    {arguments : Arguments} {token token' : Option String} {V W : Type}
    {k : Handler OperatorCalls V} {k' : Handler OperatorCalls W} {R : V → W → Prop}
    (halike : ∀ baseUrl, Alike ⟨baseUrl, bearerHeaders token⟩ ⟨baseUrl, bearerHeaders token'⟩ k k' R)
    {v : V} {w : W} (hR : R v w) :
    ((main urlsplit arguments token).run k () v).1 =
        ((main urlsplit arguments token').run k' () w).1 ∧
      SameLog (((main urlsplit arguments token) ()).transcript k v)
        (((main urlsplit arguments token') ()).transcript k' w) := by
  obtain ⟨baseUrl, hcoupled⟩ := together_main urlsplit arguments token token'
  have hstep : ∀ c d (x : V × List (Exchange OperatorCalls)) (y : W × List (Exchange OperatorCalls)),
      Blind ⟨baseUrl, bearerHeaders token⟩ ⟨baseUrl, bearerHeaders token'⟩ c d →
        R x.1 y.1 ∧ SameLog x.2 y.2 →
          SameReply c d (k.logged c x).1 (k'.logged d y).1 ∧
            R (k.logged c x).2.1 (k'.logged d y).2.1 ∧
              SameLog (k.logged c x).2.2 (k'.logged d y).2.2 := by
    rintro c d x y hcd ⟨hxy, hlog⟩
    obtain ⟨hreply, hnext⟩ := halike baseUrl c d x.1 y.1 hcd hxy
    exact ⟨hreply, hnext, hlog.append (sameLog_of_blind hcd)⟩
  have hnil : R v w ∧ SameLog [] [] := ⟨hR, rfl, rfl⟩
  have hends := (hcoupled ()).run (w := (v, [])) (v := (w, [])) hstep hnil
  rw [Prog.run_logged, Prog.run_logged] at hends
  exact ⟨hends.1, hends.2.2⟩

/-- A server that answers whoever has its token. -/
def guarded (token : String) : Handler OperatorCalls (List String)
  | .request client request, lines =>
    if client.headers = bearerHeaders (some token) then (.ok (obligingAnswer request), lines)
    else (.ok ⟨401, .ok (.dict [])⟩, lines)
  | c, lines => obliging c lines

theorem alike_guarded (baseUrl token token' : String) :
    Alike ⟨baseUrl, bearerHeaders (some token)⟩ ⟨baseUrl, bearerHeaders (some token')⟩
      (guarded token) (guarded token') Eq := by
  rintro c d lines _ hcd rfl
  cases c with
  | request client request =>
    cases d with
    | request client' request' =>
      obtain ⟨rfl, rfl, rfl⟩ := hcd
      rw [guarded, guarded, if_pos rfl, if_pos rfl]
      exact ⟨rfl, rfl⟩
    | _ => exact hcd.elim
  | readLine =>
    cases d with
    | readLine => exact ⟨rfl, rfl⟩
    | _ => exact hcd.elim
  | print line stream =>
    cases d with
    | print line' stream' =>
      obtain ⟨rfl, rfl⟩ := hcd
      exact ⟨trivial, rfl⟩
    | _ => exact hcd.elim

theorem main_blind_guarded :
    letI := PyTerminal.plain
    ((main localUrl localArguments (some "alpha")).run (guarded "alpha") () publishing).1 =
        ((main localUrl localArguments (some "beta")).run (guarded "beta") () publishing).1 ∧
      SameLog (((main localUrl localArguments (some "alpha")) ()).transcript (guarded "alpha") publishing)
        (((main localUrl localArguments (some "beta")) ()).transcript (guarded "beta") publishing) := by
  let := PyTerminal.plain
  have hlines : publishing = publishing := rfl
  exact main_blind (fun baseUrl => alike_guarded baseUrl "alpha" "beta") hlines

end TaskSession

end Velox
