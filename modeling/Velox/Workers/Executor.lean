import Velox.Core.Action

/-!
# Worker executors and their registry

What an executor is handed and what it returns, and how the registry resolves an
action to an executor: by role, capability, provider and account context, all
taken from the action.

## Main definitions

* `WorkerExecutionResult`, `Execution` — a result, and an invocation
* `WorkerExecutorRegistry` — provider registrations under their route keys
* `WorkerExecutorRegistry.resolveWithRegistration`

## Main results

* `WorkerExecutorRegistry.requested_of_resolveWithRegistration` — a resolution
  names the role and the capability the action asks for
-/

set_option autoImplicit false

namespace Velox

/-! ### Results -/

/-- The result statuses of an executor. -/
inductive WorkerExecutionStatus
  | succeeded
  | skipped
  | failed
  deriving DecidableEq

/-- The text of a status. -/
def WorkerExecutionStatus.value : WorkerExecutionStatus → String
  | .succeeded => "succeeded"
  | .skipped => "skipped"
  | .failed => "failed"

/-- Vendor-neutral failure categories. -/
inductive WorkerExecutionFailureCategory
  | transient
  | permanent
  | internal
  deriving DecidableEq

/-- The text of a failure category. -/
def WorkerExecutionFailureCategory.value : WorkerExecutionFailureCategory → String
  | .transient => "transient"
  | .permanent => "permanent"
  | .internal => "internal"

/-- Vendor-neutral failure details. -/
structure WorkerExecutionFailure where
  category : WorkerExecutionFailureCategory
  message : Option String := none
  metadata : Dict := ∅

/-- A text value, or `None`. -/
def optionalText (text : Option String) : Value := (text.map Value.str).getD .none

/-- Role-level result returned by an executor. -/
structure WorkerExecutionResult where
  action : Action
  status : WorkerExecutionStatus
  reason : Option String := none
  metadata : Dict := ∅
  failure : Option WorkerExecutionFailure := none

/-- `bool(metadata.get("external_execution_performed", False))`. -/
def externalExecutionPerformed (metadata : Dict) : Bool :=
  ((metadata.get "external_execution_performed").map Value.truthy).getD false

/-! ### Executors and routes -/

/-- Explicit vendor-neutral account context used for provider routing. -/
structure WorkerAccountContext where
  principal : Option String
  accountIdentifier : String
  deriving DecidableEq

/-- The context as JSON-compatible metadata. -/
def WorkerAccountContext.asMetadata (context : WorkerAccountContext) : Value :=
  .dict [("principal", (context.principal.map Value.str).getD .none),
    ("account_identifier", .str context.accountIdentifier)]

/-- A provider's executor, known by its identity, or the safe default that
performs no external work. -/
inductive WorkerExecutor
  | provider (identity : ℕ)
  | noOp
  deriving DecidableEq

/-- One invocation of a provider's executor. -/
structure Execution where
  executor : ℕ
  action : Action
  capability : Option String
  accountContext : Option WorkerAccountContext

/-- `NoOpWorkerExecutor.execute`. -/
def noOpExecute (action : Action) : WorkerExecutionResult where
  action
  status := .skipped
  reason := "no registered executor handled this action"
  metadata := .ofList [("external_execution_performed", .bool false), ("skipped", .bool true)]

/-- Canonical normalized capability exposed by a provider. -/
structure WorkerCapability where
  identifier : String
  role : String
  provider : String
  deriving DecidableEq

/-- One provider registration. -/
structure WorkerProviderRegistration where
  capability : WorkerCapability
  executor : WorkerExecutor
  accountContext : Option WorkerAccountContext
  deriving DecidableEq

/-- Role, capability, provider and account identifier of a registration. -/
abbrev RouteKey := String × String × String × Option String

/-- The registry of provider executors. -/
structure WorkerExecutorRegistry where
  registrations : OrderedDict RouteKey WorkerProviderRegistration := ∅
  fallbackExecutor : WorkerExecutor := .noOp

/-- A registry whose only provider takes coding tasks. -/
def WorkerExecutorRegistry.codingOnly : WorkerExecutorRegistry where
  registrations := .ofList [(("software_engineering", "code.implement", "codex", none), {
    capability := {
      identifier := SOFTWARE_ENGINEERING_IMPLEMENT_CAPABILITY
      role := ExecutorRole.softwareEngineering.value
      provider := "codex" }
    executor := .provider 0
    accountContext := none })]

/-- Executor resolution details for a requested role. -/
structure WorkerExecutorResolution where
  executor : WorkerExecutor
  requestedRole : Option String
  registered : Bool
  requestedCapability : Option String := none
  requestedProvider : Option String := none
  matchedProvider : Option String := none
  requestedAccountContext : Option WorkerAccountContext := none
  matchedAccountContext : Option WorkerAccountContext := none
  routingReason : Option String := none

section Resolve

variable [PyStd]

/-- `_normalize_capability_identifier` and `_normalize_provider_identifier`. -/
def normalizeIdentifier : Option Value → String
  | some (.str value) => PyStd.casefold (Python.strip value)
  | _ => ""

/-- `_normalize_role`. -/
def normalizeRole (role : Option String) : String := (role.map Python.strip).getD ""

/-- `_normalize_route_value`. -/
def normalizeRouteValue : Option Value → String
  | some (.str value) => Python.strip value
  | _ => ""

/-- A text, or nothing when it is empty: `value or None`. -/
def orNone (value : String) : Option String := if value = "" then none else some value

/-- A capability or provider an action asks for. -/
structure RouteRequest where
  value : Option String
  present : Bool
  valid : Bool

/-- An account context an action asks for. -/
structure AccountContextRequest where
  accountContext : Option WorkerAccountContext
  present : Bool
  valid : Bool

/-- A request for a normalized identifier the action names. -/
def RouteRequest.named (value : Option Value) : RouteRequest where
  value := orNone (normalizeIdentifier value)
  present := true
  valid := normalizeIdentifier value ≠ ""

/-- `_capability_for_action`. -/
def capabilityForAction (action : Action) : RouteRequest :=
  if action.payload.contains "capability" then .named (action.payload.get "capability")
  else if action.metadata.contains "capability" then .named (action.metadata.get "capability")
  else
    { value := orNone (normalizeIdentifier (some (.str action.type)))
      present := false
      valid := normalizeIdentifier (some (.str action.type)) ≠ "" }

/-- `_provider_for_action`. -/
def providerForAction (action : Action) : RouteRequest :=
  if action.payload.contains "capability_provider" then
    .named (action.payload.get "capability_provider")
  else if action.metadata.contains "capability_provider" then
    .named (action.metadata.get "capability_provider")
  else { value := none, present := false, valid := true }

/-- `value.get(key)` of a dictionary value. -/
def lookupEntry (entries : List (String × Value)) (key : String) : Option Value :=
  (entries.find? fun e => e.1 = key).map Prod.snd

/-- `_parse_account_context`. -/
def parseAccountContext : Option Value → AccountContextRequest
  | some (.dict entries) =>
    let accountIdentifier := normalizeRouteValue (lookupEntry entries "account_identifier")
    let principal := (lookupEntry entries "principal").filter (· ≠ .none)
    let normalizedPrincipal := principal.map fun value => normalizeRouteValue (some value)
    if normalizedPrincipal = some "" ∨ accountIdentifier = "" then
      { accountContext := none, present := true, valid := false }
    else
      { accountContext := some { principal := normalizedPrincipal, accountIdentifier }
        present := true
        valid := true }
  | _ => { accountContext := none, present := true, valid := false }

/-- `_account_context_for_action`. -/
def accountContextForAction (action : Action) : AccountContextRequest :=
  if action.payload.contains "account_context" then
    parseAccountContext (action.payload.get "account_context")
  else if action.metadata.contains "account_context" then
    parseAccountContext (action.metadata.get "account_context")
  else { accountContext := none, present := false, valid := true }

namespace WorkerExecutorRegistry

variable (registry : WorkerExecutorRegistry)

/-- `_matching_capability_routes`. -/
def matchingCapabilityRoutes (role capability : String) (provider : Option String)
    (accountContext : Option WorkerAccountContext) : List WorkerProviderRegistration :=
  registry.registrations.values.filter fun registration =>
    registration.capability.role = role ∧ registration.capability.identifier = capability ∧
      (provider = none ∨ provider = some registration.capability.provider) ∧
      registration.accountContext.map (·.accountIdentifier) =
        accountContext.map (·.accountIdentifier) ∧
      registration.accountContext = accountContext

/-- `_has_account_specific_routes`. -/
def hasAccountSpecificRoutes (role capability : String) (provider : Option String) : Bool :=
  registry.registrations.values.any fun registration =>
    registration.capability.role = role ∧ registration.capability.identifier = capability ∧
      (provider = none ∨ provider = some registration.capability.provider) ∧
      registration.accountContext.isSome

/-- A resolution to the fallback executor. -/
def fallback (role capability provider : Option String)
    (accountContext : Option WorkerAccountContext) (routingReason : String) :
    WorkerExecutorResolution where
  executor := registry.fallbackExecutor
  requestedRole := role
  registered := false
  requestedCapability := capability
  requestedProvider := provider
  requestedAccountContext := accountContext
  routingReason := routingReason

/-- `_resolve_capability_route`. -/
def resolveCapabilityRoute (role : String) (capability provider : Option String)
    (accountContext : Option WorkerAccountContext) : Option WorkerExecutorResolution := do
  let capability ← capability
  match registry.matchingCapabilityRoutes role capability provider accountContext with
  | [registration] =>
    return {
      executor := registration.executor
      requestedRole := role
      registered := true
      requestedCapability := capability
      requestedProvider := provider
      matchedProvider := registration.capability.provider
      requestedAccountContext := accountContext
      matchedAccountContext := registration.accountContext
      routingReason := "capability_route" }
  | _ :: _ :: _ =>
    return registry.fallback role capability provider accountContext "ambiguous_capability_route"
  | [] =>
    if accountContext.isNone ∧ registry.hasAccountSpecificRoutes role capability provider then
      return registry.fallback role capability provider accountContext "missing_account_context"
    else if provider.isSome then
      return registry.fallback role capability provider accountContext "no_handler"
    else none

/-- `resolve_with_registration`. -/
def resolveWithRegistration (action : Action) : WorkerExecutorResolution :=
  let role := normalizeRole action.executorRole
  if role = "" then
    registry.fallback none none none none "missing_executor_role"
  else
    let capability := capabilityForAction action
    let provider := providerForAction action
    let accountContext := accountContextForAction action
    let fallback :=
      registry.fallback role capability.value provider.value accountContext.accountContext
    if capability.present ∧ ¬capability.valid then fallback "invalid_capability"
    else if provider.present ∧ ¬provider.valid then fallback "invalid_capability_provider"
    else if accountContext.present ∧ ¬accountContext.valid then fallback "invalid_account_context"
    else
      (registry.resolveCapabilityRoute role capability.value provider.value
        accountContext.accountContext).getD (fallback "no_handler")

omit [PyStd] in
theorem resolveCapabilityRoute_eq_some {role : String} {capability provider : Option String}
    {accountContext : Option WorkerAccountContext} {resolution : WorkerExecutorResolution}
    (h : registry.resolveCapabilityRoute role capability provider accountContext =
      some resolution) :
    resolution.requestedRole = some role ∧ resolution.requestedCapability = capability := by
  rcases capability with _ | capability
  · cases h
  · simp only [resolveCapabilityRoute, Option.bind_eq_bind, Option.bind_some] at h
    split at h
    · obtain rfl := Option.some.inj h
      exact ⟨rfl, rfl⟩
    · obtain rfl := Option.some.inj h
      exact ⟨rfl, rfl⟩
    · split_ifs at h
      · obtain rfl := Option.some.inj h
        exact ⟨rfl, rfl⟩
      · obtain rfl := Option.some.inj h
        exact ⟨rfl, rfl⟩

/-- An action without a role is not routed; every other resolution names the
role and the capability the action asks for. -/
theorem requested_of_resolveWithRegistration (action : Action) :
    (normalizeRole action.executorRole = "" ∧
        (registry.resolveWithRegistration action).requestedRole = none ∧
        (registry.resolveWithRegistration action).registered = false) ∨
      ((registry.resolveWithRegistration action).requestedRole =
          some (normalizeRole action.executorRole) ∧
        (registry.resolveWithRegistration action).requestedCapability =
          (capabilityForAction action).value) := by
  unfold resolveWithRegistration
  by_cases hrole : normalizeRole action.executorRole = ""
  · exact Or.inl ⟨hrole, by simp [hrole, fallback]⟩
  · right
    simp only [hrole, if_false]
    split_ifs
    · exact ⟨rfl, rfl⟩
    · exact ⟨rfl, rfl⟩
    · exact ⟨rfl, rfl⟩
    · rcases hroute : registry.resolveCapabilityRoute (normalizeRole action.executorRole)
          (capabilityForAction action).value (providerForAction action).value
          (accountContextForAction action).accountContext with _ | resolution
      · exact ⟨rfl, rfl⟩
      · exact resolveCapabilityRoute_eq_some registry hroute

/-- A registered resolution names the capability the action asks for. -/
theorem requestedCapability_of_registered {action : Action}
    (h : (registry.resolveWithRegistration action).registered = true) :
    (registry.resolveWithRegistration action).requestedCapability =
      (capabilityForAction action).value := by
  rcases registry.requested_of_resolveWithRegistration action with ⟨-, -, hnot⟩ | ⟨-, hcap⟩
  · rw [h] at hnot
    cases hnot
  · exact hcap

end WorkerExecutorRegistry

end Resolve

end Velox
