import Velox.Lib.Effect
import Velox.Workers.Executor

/-!
# Semantic queries

A resolver classifies free-form text as a canonical intent, or as none. Which handler an intent
runs is decided by a table that the application declares, and the handler is given the request of
the caller as it is.

A resolver and a handler are programs over any signature.

## Main definitions

* `SemanticResolution` — a canonical intent or an explicit miss
* `SemanticRouter` — a table whose every route has a handler
* `executeSemanticQuery` — resolve, then dispatch

## Main results

* `SemanticRouter.new_dispatches` — which tables are accepted, and what they dispatch
-/

set_option autoImplicit false

namespace Velox

/-! ### Errors -/

/-- What is raised on the way of a semantic query. -/
inductive SemanticError
  /-- `SemanticInputError`. -/
  | input (message : String)
  /-- `SemanticResolverError`. -/
  | resolver (message : String)
  /-- `SemanticRoutingError`. -/
  | routing (message : String)
  /-- `SemanticRequestError`. -/
  | request (message : String)
  /-- Any other exception. -/
  | raised (e : Raised)
  deriving DecidableEq

/-- `except Exception` catches it. -/
def SemanticError.isException : SemanticError → Bool
  | .raised e => e.isException
  | _ => true

/-! ### Resolutions -/

/-- `[a-z]`. -/
def isIntentStart (c : Char) : Bool := 'a' ≤ c && c ≤ 'z'

/-- `[a-z0-9_]`. -/
def isIntentChar (c : Char) : Bool := isIntentStart c || ('0' ≤ c && c ≤ '9') || c = '_'

/-- `[a-z][a-z0-9_]*`. -/
def isIntentName : List Char → Bool
  | [] => false
  | c :: cs => isIntentStart c && cs.all isIntentChar

/-- `_CANONICAL_INTENT`, matched in full: two names or more, with dots between them. -/
def isCanonicalIntent (intent : String) : Bool :=
  let names := intent.toList.splitOn '.'
  2 ≤ names.length && names.all isIntentName

inductive SemanticResolutionStatus
  | resolved
  | unresolved
  deriving DecidableEq

/-- What a resolver returns. -/
structure SemanticResolution where
  status : SemanticResolutionStatus
  intent : Option String
  wellFormed : (status = .unresolved ∧ intent = none) ∨
    (status = .resolved ∧ ∃ i ∈ intent, isCanonicalIntent i)

namespace SemanticResolution

/-- `SemanticResolution.unresolved`. -/
def unresolved : SemanticResolution := ⟨.unresolved, none, Or.inl ⟨rfl, rfl⟩⟩

/-- `SemanticResolution.resolved`. -/
def resolved (intent : String) : Except Raised SemanticResolution :=
  if h : isCanonicalIntent intent then .ok ⟨.resolved, some intent, Or.inr ⟨rfl, intent, rfl, h⟩⟩
  else .error ⟨.valueError, "resolved semantic intent must be a canonical identifier"⟩

end SemanticResolution

/-! ### Routes -/

/-- A text that is neither blank nor padded. -/
def IsIdentifier (text : String) : Prop := text ≠ "" ∧ text = Python.strip text

instance (text : String) : Decidable (IsIdentifier text) := inferInstanceAs (Decidable (_ ∧ _))

/-- A declaration of the application. -/
structure SemanticRoute where
  intent : String
  role : ExecutorRole
  capability : String
  identifiers : IsIdentifier intent ∧ IsIdentifier capability

/-- The key of a handler. -/
abbrev SemanticRoute.handlerKey (route : SemanticRoute) : ExecutorRole × String :=
  (route.role, route.capability)

/-- A table of routes, each kept under its intent and with a handler. -/
structure SemanticRouter (H : Type) where
  handlers : OrderedDict (ExecutorRole × String) H
  routes : OrderedDict String SemanticRoute
  declared : ∀ intent route, routes.get intent = some route →
    route.intent = intent ∧ (handlers.get route.handlerKey).isSome

namespace SemanticRouter

variable {H : Type}

/-- A table without routes. -/
def withHandlers (handlers : OrderedDict (ExecutorRole × String) H) : SemanticRouter H where
  handlers
  routes := ∅
  declared _ _ h := nomatch h

theorem declared_set {router : SemanticRouter H} {route : SemanticRoute}
    (hhandler : (router.handlers.get route.handlerKey).isSome) (intent : String)
    (route' : SemanticRoute) (h : (router.routes.set route.intent route).get intent = some route') :
    route'.intent = intent ∧ (router.handlers.get route'.handlerKey).isSome := by
  rw [OrderedDict.get_set] at h
  split_ifs at h with hintent
  · obtain rfl := Option.some.inj h
    exact ⟨hintent.symm, hhandler⟩
  · exact router.declared intent route' h

/-- One round of the loop of `__init__`. -/
def declare (router : SemanticRouter H) (route : SemanticRoute) :
    Except Raised (SemanticRouter H) :=
  if router.routes.contains route.intent then
    .error ⟨.valueError, "duplicate semantic intent route"⟩
  else if h : (router.handlers.get route.handlerKey).isSome then
    .ok { router with
      routes := router.routes.set route.intent route
      declared := declared_set h }
  else .error ⟨.valueError, "semantic route requires a registered handler"⟩

/-- `__init__`. -/
def new (routes : List SemanticRoute) (handlers : OrderedDict (ExecutorRole × String) H) :
    Except Raised (SemanticRouter H) :=
  routes.foldlM declare (withHandlers handlers)

/-- `resolve`. -/
def resolve (router : SemanticRouter H) (intent : String) : Except SemanticError SemanticRoute :=
  match router.routes.get intent with
  | none => .error (.routing "unsupported semantic intent")
  | some route => .ok route

/-- The handler that `execute` invokes. -/
def handlerOf (router : SemanticRouter H) (intent : String) : Except SemanticError H :=
  match h : router.routes.get intent with
  | none => .error (.routing "unsupported semantic intent")
  | some route => .ok ((router.handlers.get route.handlerKey).get (router.declared intent route h).2)

variable {router router' : SemanticRouter H} {route : SemanticRoute} {intent : String}

theorem declare_eq_ok_iff :
    declare router route = .ok router' ↔
      route.intent ∉ router.routes.keys ∧ (router.handlers.get route.handlerKey).isSome ∧
        router'.handlers = router.handlers ∧
          router'.routes = router.routes.set route.intent route := by
  have hmem : router.routes.contains route.intent = true ↔ route.intent ∈ router.routes.keys := by
    rw [OrderedDict.contains, Option.isSome_iff_exists, OrderedDict.mem_keys_iff]
  unfold declare
  split_ifs with hdup hhandler
  · constructor
    · intro h
      cases h
    · intro h
      exact absurd (hmem.mp hdup) h.1
  · constructor
    · intro h
      obtain rfl := Except.ok.inj h
      exact ⟨fun hkey => hdup (hmem.mpr hkey), hhandler, rfl, rfl⟩
    · intro h
      cases router'
      obtain ⟨-, -, rfl, rfl⟩ := h
      rfl
  · constructor
    · intro h
      cases h
    · intro h
      exact absurd h.2.1 hhandler

/-- The table after the loop, and when the loop comes to an end. -/
theorem foldlM_declare_eq_ok_iff {routes : List SemanticRoute} :
    routes.foldlM declare router = .ok router' ↔
      (router.routes.keys ++ routes.map SemanticRoute.intent).Nodup ∧
        (∀ route ∈ routes, (router.handlers.get route.handlerKey).isSome) ∧
          router'.handlers = router.handlers ∧
            router'.routes =
              router.routes.update (routes.map fun route => (route.intent, route)) := by
  induction routes generalizing router with
  | nil =>
    constructor
    · intro h
      obtain rfl := Except.ok.inj h
      refine ⟨?_, List.forall_mem_nil _, rfl, rfl⟩
      rw [List.map_nil, List.append_nil]
      exact router.routes.nodupKeys
    · rintro ⟨-, -, hhandlers, hroutes⟩
      cases router'
      subst hhandlers hroutes
      rfl
  | cons route routes ih =>
    rw [List.foldlM_cons, Except.bind_eq_ok_iff]
    -- a route that is declared puts its intent behind those that were
    have hkeys : ∀ declared : SemanticRouter H, route.intent ∉ router.routes.keys →
        declared.routes = router.routes.set route.intent route →
        declared.routes.keys ++ routes.map SemanticRoute.intent =
          router.routes.keys ++ (route :: routes).map SemanticRoute.intent := by
      intro declared hnew hroutes
      rw [hroutes, OrderedDict.keys_set_of_notMem hnew, List.append_assoc, List.map_cons,
        List.singleton_append]
    constructor
    · rintro ⟨declared, hdeclared, hrest⟩
      obtain ⟨hnew, hhandler, hhandlers, hroutes⟩ := declare_eq_ok_iff.mp hdeclared
      obtain ⟨hnodup, hall, hhandlers', hroutes'⟩ := ih.mp hrest
      rw [hkeys declared hnew hroutes] at hnodup
      rw [hhandlers] at hall hhandlers'
      refine ⟨hnodup, List.forall_mem_cons.mpr ⟨hhandler, hall⟩, hhandlers', ?_⟩
      rw [hroutes', hroutes]
      rfl
    · rintro ⟨hnodup, hall, hhandlers, hroutes⟩
      obtain ⟨hhandler, hall⟩ := List.forall_mem_cons.mp hall
      have hnew : route.intent ∉ router.routes.keys := fun hmem =>
        (List.nodup_append.mp hnodup).2.2 _ hmem _ List.mem_cons_self rfl
      let declared : SemanticRouter H := { router with
        routes := router.routes.set route.intent route
        declared := declared_set hhandler }
      refine ⟨declared, declare_eq_ok_iff.mpr ⟨hnew, hhandler, rfl, rfl⟩, ih.mpr ⟨?_, hall,
        hhandlers, hroutes⟩⟩
      rw [hkeys declared hnew rfl]
      exact hnodup

theorem new_eq_ok_iff {routes : List SemanticRoute}
    {handlers : OrderedDict (ExecutorRole × String) H} :
    new routes handlers = .ok router ↔
      (routes.map SemanticRoute.intent).Nodup ∧
        (∀ route ∈ routes, (handlers.get route.handlerKey).isSome) ∧ router.handlers = handlers ∧
          router.routes = .ofList (routes.map fun route => (route.intent, route)) :=
  foldlM_declare_eq_ok_iff

theorem handlerOf_eq_ok_iff {handler : H} :
    router.handlerOf intent = .ok handler ↔
      ∃ route, router.routes.get intent = some route ∧
        router.handlers.get route.handlerKey = some handler := by
  unfold handlerOf
  split
  · next h =>
    constructor
    · intro herror
      cases herror
    · rintro ⟨route, hroute, -⟩
      cases h.symm.trans hroute
  · next route h =>
    rw [Except.ok.injEq]
    constructor
    · rintro rfl
      exact ⟨route, h, (Option.some_get _).symm⟩
    · rintro ⟨route', hroute', hhandler⟩
      obtain rfl := Option.some.inj (h.symm.trans hroute')
      exact Option.get_of_eq_some _ hhandler

/-- An intent without a handler is not supported. -/
theorem handlerOf_eq_error (h : ∀ handler, router.handlerOf intent ≠ .ok handler) :
    router.handlerOf intent = .error (.routing "unsupported semantic intent") := by
  unfold handlerOf at h ⊢
  split
  · rfl
  · next route hroute =>
    split at h
    · next hnone => cases hnone.symm.trans hroute
    · exact absurd rfl (h _)

section New

variable {routes : List SemanticRoute} {handlers : OrderedDict (ExecutorRole × String) H}

/-- The routes under their intents. -/
theorem get_routes_eq_some_iff (hnodup : (routes.map SemanticRoute.intent).Nodup) :
    (OrderedDict.ofList (routes.map fun route => (route.intent, route))).get intent = some route ↔
      route ∈ routes ∧ route.intent = intent := by
  have hentries : (OrderedDict.ofList (routes.map fun route => (route.intent, route))).entries =
      routes.map fun route => (route.intent, route) := by
    apply OrderedDict.entries_ofList
    rwa [List.map_map]
  rw [OrderedDict.get_eq_some_iff, hentries, List.mem_map]
  constructor
  · rintro ⟨route', hmem, heq⟩
    obtain ⟨rfl, rfl⟩ := Prod.mk.inj heq
    exact ⟨hmem, rfl⟩
  · rintro ⟨hmem, rfl⟩
    exact ⟨route, hmem, rfl⟩

/-- A table is accepted if no intent is declared twice and every route has a handler, and it
dispatches every intent to the handler of its declaration, and no other intent. -/
theorem new_dispatches (routes : List SemanticRoute)
    (handlers : OrderedDict (ExecutorRole × String) H) :
    ((∃ router, new routes handlers = .ok router) ↔
        (routes.map SemanticRoute.intent).Nodup ∧
          ∀ route ∈ routes, (handlers.get route.handlerKey).isSome) ∧
      ∀ router, new routes handlers = .ok router → ∀ intent handler,
        router.handlerOf intent = .ok handler ↔
          ∃ route ∈ routes, route.intent = intent ∧ handlers.get route.handlerKey = some handler := by
  constructor
  · constructor
    · rintro ⟨router, hnew⟩
      obtain ⟨hnodup, hall, -⟩ := new_eq_ok_iff.mp hnew
      exact ⟨hnodup, hall⟩
    · rintro ⟨hnodup, hall⟩
      let router : SemanticRouter H := {
        handlers
        routes := .ofList (routes.map fun route => (route.intent, route))
        declared := fun intent route hget => by
          obtain ⟨hmem, hintent⟩ := (get_routes_eq_some_iff hnodup).mp hget
          exact ⟨hintent, hall route hmem⟩ }
      exact ⟨router, new_eq_ok_iff.mpr ⟨hnodup, hall, rfl, rfl⟩⟩
  · intro router hnew intent handler
    obtain ⟨hnodup, -, hhandlers, hroutes⟩ := new_eq_ok_iff.mp hnew
    rw [handlerOf_eq_ok_iff, hhandlers, hroutes]
    simp only [get_routes_eq_some_iff hnodup, and_assoc]

end New

end SemanticRouter

/-! ### Queries -/

/-- What the caller asks, and for which account. -/
structure SemanticQueryRequest where
  text : String
  accountContext : WorkerAccountContext
  timezone : String

/-- What the router is given. -/
structure ResolvedSemanticQuery where
  intent : String
  request : SemanticQueryRequest

/-- What a handler returns. -/
structure SemanticQueryResult where
  intent : String
  result : Dict

section Query

variable (F : Signature)

/-- A resolver. `none` is a value that is no resolution. -/
abbrev SemanticResolver := String → Proc F Unit SemanticError (Option SemanticResolution)

/-- A handler. `none` is a value that is no result. -/
abbrev SemanticHandler :=
  ResolvedSemanticQuery → Proc F Unit SemanticError (Option SemanticQueryResult)

abbrev SemanticQueryRouter := SemanticRouter (SemanticHandler F)

variable {F}

/-- What is raised in place of what a resolver raised. -/
def resolutionError : SemanticError → SemanticError
  | .input message => .input message
  | e => if e.isException then .resolver "semantic resolution failed" else e

/-- The intent of a resolution, if it may be dispatched. -/
def routedIntent (allowedIntents : Option (List String)) :
    Option SemanticResolution → Except SemanticError String
  | none => .error (.resolver "semantic resolver returned an invalid result")
  | some resolution =>
    match resolution.status, resolution.intent with
    | .resolved, some intent =>
      if allowedIntents.any fun allowed => intent ∉ allowed then
        .error (.routing "semantic intent is not allowed on this ingress")
      else .ok intent
    | _, _ => .error (.routing "semantic query is unresolved")

/-- A result for the intent that was dispatched. -/
def checkedResult (intent : String) : Option SemanticQueryResult →
    Except SemanticError SemanticQueryResult
  | some result =>
    if result.intent = intent then .ok result
    else .error (.raised ⟨.exception "RuntimeError", "semantic handler returned an invalid result"⟩)
  | none =>
    .error (.raised ⟨.exception "RuntimeError", "semantic handler returned an invalid result"⟩)

/-- `execute_semantic_query`. -/
def executeSemanticQuery (request : SemanticQueryRequest) (resolver : SemanticResolver F)
    (router : SemanticQueryRouter F) (allowedIntents : Option (List String) := none) :
    Proc F Unit SemanticError SemanticQueryResult := do
  let resolution ← tryCatch (resolver request.text) fun e => throw (resolutionError e)
  let intent ← Proc.ofExcept (routedIntent allowedIntents resolution)
  let handler ← Proc.ofExcept (router.handlerOf intent)
  let result ← handler { intent, request }
  Proc.ofExcept (checkedResult intent result)

end Query

end Velox
