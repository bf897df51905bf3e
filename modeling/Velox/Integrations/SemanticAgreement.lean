import Velox.Integrations.CalendarAgendaQuery

/-!
# What free text can bring about

The endpoints for free text are the structured endpoint behind a guard: the text, and whatever
a resolver makes of it, only decide whether the agenda of tomorrow is read. Account, time zone
and window are those of the structured command.

## Main definitions

* `recognised` — the guard
* `guardedResponse` — the structured endpoint behind it
* `OllamaCalendarAgendaIntentResolver.Asks` — what a query asks, and after what

## Main results

* `queries_agree` — both endpoints for free text, in terms of the structured one
* `query_confined` — the calls of a query that a local model resolves
-/

set_option autoImplicit false

namespace Velox

/-! ### The routes of the application -/

section Routes

variable [PyParse] {zones : String → Option ZoneInfo} {actionId : UUID}
  {router : SemanticQueryRouter QueryCalls}

/-- The routes of the application are accepted. -/
theorem semanticRouter_ok (zones : String → Option ZoneInfo) (actionId : UUID) :
    ∃ router, semanticRouter zones actionId = .ok router := by
  apply (SemanticRouter.new_dispatches _ _).1.mpr
  refine ⟨List.nodup_singleton _, fun route hroute => ?_⟩
  obtain rfl := List.mem_singleton.mp hroute
  rfl

/-- The route of tomorrow runs the handler of the agenda. -/
theorem handlerOf_tomorrow (hrouter : semanticRouter zones actionId = .ok router) :
    router.handlerOf CALENDAR_AGENDA_TOMORROW_INTENT =
      .ok (calendarAgendaSemanticHandler zones actionId) := by
  apply ((SemanticRouter.new_dispatches _ _).2 router hrouter _ _).mpr
  exact ⟨calendarAgendaRoute, List.mem_singleton_self _, rfl, rfl⟩

/-- There is no other route. -/
theorem handlerOf_of_ne (hrouter : semanticRouter zones actionId = .ok router) {intent : String}
    (hintent : intent ≠ CALENDAR_AGENDA_TOMORROW_INTENT) :
    router.handlerOf intent = .error (.routing "unsupported semantic intent") := by
  apply SemanticRouter.handlerOf_eq_error
  intro handler hhandler
  obtain ⟨route, hmem, hroute, -⟩ :=
    ((SemanticRouter.new_dispatches _ _).2 router hrouter intent handler).mp hhandler
  obtain rfl := List.mem_singleton.mp hmem
  exact hintent hroute.symm

end Routes

/-! ### The guard -/

/-- Only the intent of tomorrow passes. -/
def recognisedResolution : Option SemanticResolution → Except HttpFailure Unit
  | none => .error (.http 500 "semantic query resolution failed")
  | some resolution =>
    .raiseIf (resolution.intent ≠ some CALENDAR_AGENDA_TOMORROW_INTENT)
      (.http 422 "unsupported semantic query")

/-- The text is resolved to the intent of tomorrow. -/
def recognised (resolver : SemanticResolver QueryCalls) (text : String) :
    Proc QueryCalls Unit HttpFailure Unit := do
  let resolution ← (resolver text).mapError fun e => semanticFailure (resolutionError e)
  Proc.ofExcept (recognisedResolution resolution)

/-- A failure of the structured endpoint, as that of semantic queries tells it. -/
def asSemanticFailure : HttpFailure → HttpFailure
  | .http statusCode _ =>
    if statusCode = 422 then .http 422 "invalid semantic query request"
    else .http statusCode "semantic query execution failed"
  | .escaped e => .escaped e

/-- A failure of the endpoint of semantic queries, as the older one tells it. -/
def asAgendaQueryFailure : HttpFailure → HttpFailure
  | .http statusCode detail => .http statusCode <|
    if detail = "invalid semantic query" then "invalid calendar agenda query"
    else if detail = "unsupported semantic query" then "unsupported calendar agenda query"
    else if detail = "invalid semantic query request" then "invalid calendar agenda request"
    else if detail = "semantic query resolution failed" then
      "calendar agenda query resolution failed"
    else "calendar agenda execution failed"
  | .escaped e => .escaped e

/-- The structured command that a request in free text stands for. -/
def SemanticQueryHttpRequest.command (request : SemanticQueryHttpRequest) :
    CalendarAgendaHttpRequest where
  intent := CALENDAR_TOMORROW_INTENT
  principal := request.principal
  accountIdentifier := request.accountIdentifier
  timezone := request.timezone

theorem asAgendaQueryFailure_semanticFailure (e : SemanticError) :
    asAgendaQueryFailure (semanticFailure e) = agendaQueryFailure e := by
  cases e with
  | raised e =>
    simp only [semanticFailure, agendaQueryFailure, HttpFailure.ofRaised]
    split_ifs <;> rfl
  | _ => rfl

theorem mapError_semanticFailure {α : Type} (result : Except SemanticError α) :
    (result.mapError semanticFailure).mapError asAgendaQueryFailure =
      result.mapError agendaQueryFailure := by
  cases result with
  | error e => exact congrArg Except.error (asAgendaQueryFailure_semanticFailure e)
  | ok a => rfl

theorem semanticFailure_handlerError (e : CalendarAgendaError) :
    semanticFailure (handlerError e) = asSemanticFailure (agendaFailure e) := by
  cases e with
  | workflow message field category =>
    simp only [handlerError, agendaFailure]
    split_ifs <;> rfl
  | raised e =>
    simp only [handlerError, agendaFailure, semanticFailure, HttpFailure.ofRaised]
    split_ifs <;> rfl

/-- What is not recognised is not dispatched, and fails as the guard says. -/
theorem recognisedResolution_eq (resolution : Option SemanticResolution) :
    recognisedResolution resolution =
      ((routedIntent none resolution).mapError semanticFailure >>= fun intent =>
        .raiseIf (intent ≠ CALENDAR_AGENDA_TOMORROW_INTENT)
          (.http 422 "unsupported semantic query")) := by
  rcases resolution with _ | resolution
  · rfl
  · obtain ⟨hstatus, hintent⟩ | ⟨hstatus, intent, hintent, -⟩ := resolution.wellFormed
    · simp [recognisedResolution, routedIntent, hstatus, hintent, Except.mapError_error,
        semanticFailure]
    · rw [Option.mem_def] at hintent
      simp [recognisedResolution, routedIntent, hstatus, hintent, Except.mapError_ok]

/-- What the older endpoint does not allow has no route either. -/
theorem routedIntent_some (allowed : List String) (resolution : Option SemanticResolution) :
    routedIntent (some allowed) resolution =
      (routedIntent none resolution >>= fun intent =>
        if intent ∈ allowed then .ok intent
        else .error (.routing "semantic intent is not allowed on this ingress")) := by
  rcases resolution with _ | resolution
  · rfl
  · obtain ⟨hstatus, hintent⟩ | ⟨hstatus, intent, hintent, -⟩ := resolution.wellFormed
    · simp [routedIntent, hstatus, hintent]
    · rw [Option.mem_def] at hintent
      by_cases hallowed : intent ∈ allowed
      · simp [routedIntent, hstatus, hintent, hallowed]
      · simp [routedIntent, hstatus, hintent, hallowed]

/-! ### Agreement -/

section Agreement

variable [PyParse] (zones : String → Option ZoneInfo) (actionId : UUID)

/-- The structured command, answered as a semantic query. -/
def commandResponse (request : SemanticQueryHttpRequest) :
    Proc QueryCalls Unit HttpFailure SemanticQueryHttpResponse := do
  let agenda ← (calendarAgenda zones actionId request.command).mapError asSemanticFailure
  return { intent := CALENDAR_AGENDA_TOMORROW_INTENT, result := agenda.asdict }

/-- The structured command behind the guard. -/
def guardedResponse (resolver : SemanticResolver QueryCalls) (request : SemanticQueryHttpRequest) :
    Proc QueryCalls Unit HttpFailure SemanticQueryHttpResponse := do
  recognised resolver request.text
  commandResponse zones actionId request

/-- The response of the older endpoint. -/
def olderResponse (response : Proc QueryCalls Unit HttpFailure SemanticQueryHttpResponse) :
    Proc QueryCalls Unit HttpFailure Dict := do
  let response ← response.mapError asAgendaQueryFailure
  return response.result

variable {zones actionId} {router : SemanticQueryRouter QueryCalls}

/-- A dispatched query is the structured command. -/
theorem handler_tomorrow (request : SemanticQueryHttpRequest) :
    (calendarAgendaSemanticHandler zones actionId
          { intent := CALENDAR_AGENDA_TOMORROW_INTENT, request := request.query }).mapError
        semanticFailure =
      ((calendarAgenda zones actionId request.command).mapError asSemanticFailure >>= fun agenda =>
        pure (some { intent := CALENDAR_AGENDA_TOMORROW_INTENT, result := agenda.asdict })) := by
  have hlookup : CALENDAR_AGENDA_COMMAND_INTENTS.lookup CALENDAR_AGENDA_TOMORROW_INTENT =
      some "tomorrow" := rfl
  simp only [calendarAgendaSemanticHandler, hlookup, calendarAgenda, Proc.mapError_bind,
    Proc.mapError_mapError, semanticFailure_handlerError]
  rfl

/-- The endpoint of semantic queries is the structured one behind the guard. -/
theorem semanticQuery_eq (hrouter : semanticRouter zones actionId = .ok router)
    (resolver : SemanticResolver QueryCalls) (request : SemanticQueryHttpRequest) :
    semanticQuery resolver router request = guardedResponse zones actionId resolver request := by
  simp only [semanticQuery, executeSemanticQuery, guardedResponse, recognised, Proc.tryCatch_throw,
    Proc.mapError_bind, Proc.mapError_mapError, Proc.bind_assoc, Proc.mapError_ofExcept]
  -- both sides resolve the text first, and differ in what follows
  congr 1
  funext resolution
  rw [recognisedResolution_eq]
  rcases routedIntent none resolution with e | intent
  · rfl
  · by_cases hintent : intent = CALENDAR_AGENDA_TOMORROW_INTENT
    · subst hintent
      have hchecked : ∀ agenda : CalendarTomorrowAgendaResult,
          checkedResult CALENDAR_AGENDA_TOMORROW_INTENT
              (some { intent := CALENDAR_AGENDA_TOMORROW_INTENT, result := agenda.asdict }) =
            .ok { intent := CALENDAR_AGENDA_TOMORROW_INTENT, result := agenda.asdict } :=
        fun agenda => by simp [checkedResult]
      simp only [Except.mapError_ok, Proc.ofExcept_ok_bind, handlerOf_tomorrow hrouter,
        handler_tomorrow, Proc.bind_assoc, Except.ok_bind, ne_eq, not_true_eq_false,
        Except.raiseIf_neg not_false, commandResponse, Proc.pure_bind, hchecked]
    · simp only [Except.mapError_ok, Except.mapError_error, Proc.ofExcept_ok_bind,
        handlerOf_of_ne hrouter hintent, Except.ok_bind, Except.raiseIf_pos hintent]
      rfl

/-- The older endpoint is that of semantic queries, its outcome told in other words. -/
theorem calendarAgendaQuery_eq (hrouter : semanticRouter zones actionId = .ok router)
    (resolver : SemanticResolver QueryCalls) (request : SemanticQueryHttpRequest) :
    calendarAgendaQuery resolver router request =
      olderResponse (semanticQuery resolver router request) := by
  simp only [calendarAgendaQuery, olderResponse, semanticQuery, executeSemanticQuery,
    Proc.tryCatch_throw, Proc.mapError_bind, Proc.mapError_mapError, Proc.bind_assoc,
    Proc.mapError_ofExcept, asAgendaQueryFailure_semanticFailure, mapError_semanticFailure,
    Proc.mapError_pure]
  congr 1
  funext resolution
  rw [routedIntent_some]
  rcases routedIntent none resolution with e | intent
  · rfl
  · by_cases hintent : intent = CALENDAR_AGENDA_TOMORROW_INTENT
    · subst hintent
      rfl
    -- the intent is refused before it is looked up, and would not have been found
    · have hallowed : intent ∉ CALENDAR_AGENDA_COMMAND_INTENTS.map Prod.fst := by
        simpa [CALENDAR_AGENDA_COMMAND_INTENTS] using hintent
      simp only [Except.ok_bind, if_neg hallowed, Except.mapError_ok, Except.mapError_error,
        Proc.ofExcept_ok_bind, handlerOf_of_ne hrouter hintent]
      rfl

/-- The endpoints for free text are the structured one behind the guard, whatever resolves the
text. -/
theorem queries_agree (zones : String → Option ZoneInfo) (actionId : UUID) :
    ∃ router, semanticRouter zones actionId = .ok router ∧
      ∀ (resolver : SemanticResolver QueryCalls) (request : SemanticQueryHttpRequest),
        semanticQuery resolver router request = guardedResponse zones actionId resolver request ∧
          calendarAgendaQuery resolver router request =
            olderResponse (guardedResponse zones actionId resolver request) := by
  obtain ⟨router, hrouter⟩ := semanticRouter_ok zones actionId
  refine ⟨router, hrouter, fun resolver request => ?_⟩
  have hquery := semanticQuery_eq hrouter resolver request
  refine ⟨hquery, ?_⟩
  rw [calendarAgendaQuery_eq hrouter, hquery]

end Agreement

/-! ### The calls of a query -/

theorem awareNow_eq_ok {reading : Option LocalDatetime} {now : LocalDatetime}
    (h : CalendarAgendaCommandService.awareNow reading = .ok now) : reading = some now := by
  cases reading with
  | none => cases h
  | some now' =>
    obtain ⟨-, -, h⟩ := Except.bind_eq_ok_iff.mp h
    exact congrArg some (Except.ok.inj h)

/-- What a resolver has seen when its resolution is the intent of tomorrow. -/
theorem traced_recognised {K : List (Exchange QueryCalls) → QueryCalls.Call → Prop}
    {I : List (Exchange QueryCalls) → Prop} {t : List (Exchange QueryCalls)}
    {resolver : SemanticResolver QueryCalls} {text : String}
    (hresolver : (resolver text).Traced K (fun t r _ => ∀ resolution, r = .ok resolution →
      recognisedResolution resolution = .ok () → I t) () t) :
    (recognised resolver text).Traced K (fun t r _ => ∀ u, r = .ok u → I t) () t := by
  rw [recognised, Proc.traced_bind, Proc.traced_mapError]
  refine hresolver.mono fun t r _ _ ht => ?_
  cases r with
  | error e => rintro u ⟨⟩
  | ok resolution => exact fun u hu => ht resolution rfl hu

section Calls

variable [PyParse] (zones : String → Option ZoneInfo) (actionId : UUID)

/-- A page of the events of tomorrow, as a valid request for the agenda asks for it. -/
def IsAgendaPage (request : CalendarTomorrowAgendaRequest) (page : PageCall) : Prop :=
  ∃ key zone w listing token,
    CalendarTomorrowAgendaWorkflow.validateRequest zones request = .ok (key, zone) ∧
      CalendarTomorrowAgendaWorkflow.window request.now key zone = .ok w ∧
      listing.timeMin = w.timeMin ∧ listing.timeMax = w.timeMax ∧
      page = CalendarEventListOrchestrator.pageCall listing
        (CalendarTomorrowAgendaWorkflow.agendaAction actionId w) (some request.accountContext) token

/-- Every round of the walk asks for a page of the same listing. -/
theorem calls_walk (listing : CalendarEventListOrchestrationRequest) (action : Action)
    (account : Option WorkerAccountContext) (state : CalendarEventListOrchestrator.Walk) :
    (CalendarEventListOrchestrator.walk listing action account state).Calls
      (fun page => ∃ token,
        page = CalendarEventListOrchestrator.pageCall listing action account token)
      fun _ => True := by
  induction state using CalendarEventListOrchestrator.walk.induct listing action with
  | case1 state ih =>
    -- the induction is on the pages that are left to fetch
    rw [CalendarEventListOrchestrator.walk_eq]
    refine ⟨⟨state.pageToken, rfl⟩, fun reply => ?_⟩
    rcases reply with e | pageResult
    · exact trivial
    · rcases hafter : CalendarEventListOrchestrator.afterPage listing action state pageResult with
        result | state'
      · simp only [hafter]
        exact trivial
      · simp only [hafter]
        exact ih pageResult state' hafter

/-- The orchestrator asks for pages of the listing of its action. -/
theorem calls_orchestrator (action : Action) (account : Option WorkerAccountContext) :
    (CalendarEventListOrchestrator.execute action account).Calls
      (fun page => ∃ listing token,
        CalendarEventListOrchestrationRequest.new ((action.payload.get "time_min").getD .none)
            ((action.payload.get "time_max").getD .none)
            ((action.payload.get "max_results").getD .none)
            ((action.payload.get "max_pages").getD .none) = .ok listing ∧
          page = CalendarEventListOrchestrator.pageCall listing action account token)
      fun _ => True := by
  rw [CalendarEventListOrchestrator.execute]
  by_cases htoken : action.payload.contains "page_token" = true
  -- a request that names a page, or is invalid, fails without any call
  · rw [if_pos htoken]
    exact trivial
  rw [if_neg htoken]
  rcases hnew : CalendarEventListOrchestrationRequest.new
      ((action.payload.get "time_min").getD .none) ((action.payload.get "time_max").getD .none)
      ((action.payload.get "max_results").getD .none)
      ((action.payload.get "max_pages").getD .none) with e | listing
  · exact trivial
  · refine (calls_walk listing action account {}).permit ?_
    rintro page ⟨token, rfl⟩
    exact ⟨listing, token, rfl, rfl⟩

/-- The workflow asks for pages of the agenda only. -/
theorem calls_execute (request : CalendarTomorrowAgendaRequest) :
    (CalendarTomorrowAgendaWorkflow.execute zones actionId request).Calls
      (IsAgendaPage zones actionId request) fun _ => True := by
  rw [CalendarTomorrowAgendaWorkflow.execute]
  rcases hvalid : CalendarTomorrowAgendaWorkflow.validateRequest zones request with e | ⟨key, zone⟩
  · exact trivial
  rcases hw : CalendarTomorrowAgendaWorkflow.window request.now key zone with e | w
  · simp only [hw]
    exact trivial
  simp only [hw, Prog.calls_bind]
  have hpages : (CalendarEventListOrchestrator.execute
      (CalendarTomorrowAgendaWorkflow.agendaAction actionId w)
      (some request.accountContext)).Calls (IsAgendaPage zones actionId request) fun _ => True := by
    refine (calls_orchestrator _ _).permit ?_
    rintro page ⟨listing, token, hnew, rfl⟩
    obtain ⟨hmin, hmax, -⟩ := get_payload w
    have haccepted := CalendarEventListOrchestrationRequest.new_eq_ok_iff.mp hnew
    rw [CalendarTomorrowAgendaWorkflow.agendaAction, hmin, hmax] at haccepted
    obtain ⟨hmin', hmax', -⟩ := haccepted
    exact ⟨key, zone, w, listing, token, hvalid, hw, (Value.str.inj hmin').symm,
      (Value.str.inj hmax').symm, rfl⟩
  refine hpages.mono ?_
  rintro (error | result) -
  · exact trivial
  · exact trivial

variable {actionId zones} {K : List (Exchange QueryCalls) → QueryCalls.Call → Prop}
  {t : List (Exchange QueryCalls)}

/-- Reading the clock as an exchange. -/
def readNow (now : LocalDatetime) : Exchange QueryCalls := ⟨.inl .now, .ok (some now)⟩

/-- A command reads the clock, and then asks for pages of the agenda of that reading. -/
theorem traced_command {request : CalendarAgendaCommandRequest} (hnow : K t (.inl .now))
    (hpage : ∀ now pages page,
      IsAgendaPage zones actionId {
        intent := .str request.intent
        accountContext := request.accountContext
        timezone := .str request.timezone
        now } page →
      K ((t ++ [readNow now]) ++ List.map Exchange.inr pages) (.inr page)) :
    (CalendarAgendaCommandService.execute zones actionId request).Traced K (fun _ _ _ => True) ()
      t := by
  rw [CalendarAgendaCommandService.execute]
  refine Proc.Traced.ofExcept_bind (fun _ _ => ?_) fun _ _ => trivial
  refine Proc.Traced.request_bind hnow (fun reading value hreading => ?_) fun _ _ _ => trivial
  refine Proc.Traced.ofExcept_bind (fun now hvalue => ?_) fun _ _ => trivial
  obtain rfl := awareNow_eq_ok hvalue
  have hread : reading = .ok (some now) := Except.mapError_eq_ok_iff.mp hreading
  subst hread
  have hpages := ((calls_execute zones actionId {
    intent := .str request.intent
    accountContext := request.accountContext
    timezone := .str request.timezone
    now }).traced []).inr (hpage now)
  rw [List.map_nil, List.append_nil] at hpages
  exact Prog.traced_bind.mpr (hpages.mono fun _ _ _ _ => trivial)

end Calls

namespace OllamaCalendarAgendaIntentResolver

variable [PyClassification] {urlsplit : String → Except Raised TaskSession.SplitUrl}
  (self : OllamaCalendarAgendaIntentResolver urlsplit)

/-- The local model was asked once, and classified the text as asking for tomorrow. -/
def Recognised (text : String) (t : List (Exchange QueryCalls)) : Prop :=
  ∃ reply, classificationOf reply = .ok .tomorrow ∧
    t = [⟨.inl (.chat self.url (self.body text)), reply⟩]

/-- There is a response only after the text was recognised. -/
def RespondsAfter {α : Type} (text : String) (t : List (Exchange QueryCalls))
    (r : Except HttpFailure α) (_ : Unit) : Prop :=
  ∀ response, r = .ok response → ∃ before, before <+: t ∧ self.Recognised text before

/-- The older endpoint responds when that of semantic queries does. -/
theorem traced_olderResponse {K : List (Exchange QueryCalls) → QueryCalls.Call → Prop}
    {text : String} {response : Proc QueryCalls Unit HttpFailure SemanticQueryHttpResponse}
    (hresponse : response.Traced K (self.RespondsAfter text) () []) :
    (olderResponse response).Traced K (self.RespondsAfter text) () [] := by
  rw [olderResponse, Proc.traced_bind, Proc.traced_mapError]
  refine hresponse.mono fun t r _ _ ht => ?_
  cases r with
  | error e => rintro answer ⟨⟩
  | ok response => exact fun _ _ => ht response rfl

variable [PyParse] (zones : String → Option ZoneInfo) (actionId : UUID)
  (request : SemanticQueryHttpRequest)

/-- What a query asks, and after what: first the local model, with the text; the clock once the
text is recognised; then pages of the agenda of that reading, for the account of the request. -/
def Asks (t : List (Exchange QueryCalls)) : QueryCalls.Call → Prop
  | .inl (.chat url json) =>
    t = [] ∧ Python.strip request.text ≠ "" ∧ url = self.url ∧ json = self.body request.text
  | .inl .now => self.Recognised request.text t
  | .inr page => ∃ before now pages, self.Recognised request.text before ∧
      t = (before ++ [readNow now]) ++ List.map Exchange.inr pages ∧
      IsAgendaPage zones actionId {
        intent := .str CALENDAR_TOMORROW_INTENT
        accountContext := accountContext request.principal request.accountIdentifier
        timezone := .str request.timezone
        now } page

/-- A text is resolved to the intent of tomorrow only once it is recognised. -/
theorem traced_resolve :
    (self.resolve request.text).Traced (self.Asks zones actionId request)
      (fun t r _ => ∀ resolution, r = .ok resolution → recognisedResolution resolution = .ok () →
        self.Recognised request.text t) () [] := by
  rw [resolve, Proc.traced_ite]
  refine ⟨fun hblank => ?_, fun hblank => ?_⟩
  -- a blank text is refused before the model is asked
  · rintro resolution ⟨⟩
  have hchat : self.Asks zones actionId request []
      (.inl (.chat self.url (self.body request.text))) := ⟨rfl, hblank, rfl, rfl⟩
  refine Proc.Traced.request_bind hchat (fun reply classification hreply => ?_)
    fun reply e hreply => ?_
  · rintro resolution hresolution hrecognised
    -- the validated answer has two values, of which one stands for an intent
    cases classification with
    | tomorrow =>
      have hclassified := Except.mapError_eq_ok_iff.mp hreply
      exact ⟨reply, hclassified, rfl⟩
    | unsupported =>
      obtain rfl := Except.ok.inj hresolution
      cases hrecognised
  · rintro resolution ⟨⟩

/-- What is recognised is the structured command. -/
theorem traced_commandResponse {t : List (Exchange QueryCalls)}
    (ht : self.Recognised request.text t) :
    (commandResponse zones actionId request).Traced (self.Asks zones actionId request)
      (fun _ _ _ => True) () t := by
  rw [commandResponse, calendarAgenda, Proc.traced_bind, Proc.traced_mapError,
    Proc.traced_mapError]
  refine Proc.Traced.mono (traced_command ht fun now pages page hpage =>
    ⟨t, now, pages, ht, rfl, hpage⟩) ?_
  intro t' r s' _ _
  cases r <;> exact trivial

/-- The structured command behind the guard. -/
theorem traced_guardedResponse :
    (guardedResponse zones actionId self.resolve request).Traced (self.Asks zones actionId request)
      (self.RespondsAfter request.text) () [] :=
  Proc.Traced.guard (traced_recognised (self.traced_resolve zones actionId request))
    fun _ _ _ ht => self.traced_commandResponse zones actionId request ht

/-- Whatever the local model answers, a query asks it once, with the text, and nothing else
unless the text is recognised. What is asked then is the agenda of tomorrow for the account and
the time zone of the request, and only then is there a response. -/
theorem query_confined :
    ∃ router, semanticRouter zones actionId = .ok router ∧
      ∀ request : SemanticQueryHttpRequest,
        (semanticQuery self.resolve router request).Traced (self.Asks zones actionId request)
            (self.RespondsAfter request.text) () [] ∧
          (calendarAgendaQuery self.resolve router request).Traced
            (self.Asks zones actionId request)
            (self.RespondsAfter request.text) () [] := by
  obtain ⟨router, hrouter⟩ := semanticRouter_ok zones actionId
  refine ⟨router, hrouter, fun request => ?_⟩
  have hguarded := self.traced_guardedResponse zones actionId request
  rw [calendarAgendaQuery_eq hrouter, semanticQuery_eq hrouter]
  exact ⟨hguarded, self.traced_olderResponse hguarded⟩

end OllamaCalendarAgendaIntentResolver

end Velox
