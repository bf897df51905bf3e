import Velox.Core.Delegation
import Velox.SoftwareEngineering.Recovery

/-!
# The canonical Software Engineering route

How the registry resolves an action of the canonical route, whichever way the
action came about: from a delegated task, or rebuilt from a durable row.

## Main definitions

* `IsCanonicalRoute` — the role and capability of the route
* `CodingAction` — a canonical action that names no provider and no account
* `WorkerExecutorRegistry.TakesCoding` — one provider is registered for the route

## Main results

* `isCanonicalRoute_resolve` — a canonical action resolves to the canonical route
* `resolve_codingAction` — where one provider is registered, it is the executor
-/

set_option autoImplicit false

namespace Velox

/-- `_is_canonical_route`. -/
def IsCanonicalRoute (role capability : Option String) : Prop :=
  role = some ExecutorRole.softwareEngineering.value ∧
    capability = some SOFTWARE_ENGINEERING_IMPLEMENT_CAPABILITY

instance (role capability : Option String) : Decidable (IsCanonicalRoute role capability) :=
  inferInstanceAs (Decidable (_ ∧ _))

section Resolve

variable [PyStd]

theorem casefold_capability :
    PyStd.casefold (Python.strip SOFTWARE_ENGINEERING_IMPLEMENT_CAPABILITY) =
      SOFTWARE_ENGINEERING_IMPLEMENT_CAPABILITY := by
  have hstrip : Python.strip SOFTWARE_ENGINEERING_IMPLEMENT_CAPABILITY =
      SOFTWARE_ENGINEERING_IMPLEMENT_CAPABILITY := by decide
  rw [hstrip]
  exact PyStd.casefold_identifier _ (by decide)

omit [PyStd] in
theorem normalizeRole_softwareEngineering :
    normalizeRole (some ExecutorRole.softwareEngineering.value) =
      ExecutorRole.softwareEngineering.value := by
  decide

theorem capabilityForAction_of_canonical {action : Action} (h : IsCanonicalAction action) :
    capabilityForAction action =
      ⟨some SOFTWARE_ENGINEERING_IMPLEMENT_CAPABILITY, true, true⟩ := by
  have hpresent : action.payload.contains "capability" = true := by
    rw [OrderedDict.contains, h.2.2]
    rfl
  have hnonempty : SOFTWARE_ENGINEERING_IMPLEMENT_CAPABILITY ≠ "" := by decide
  rw [capabilityForAction, if_pos hpresent, h.2.2, RouteRequest.named]
  simp [normalizeIdentifier, casefold_capability, orNone, hnonempty]

/-- A canonical action resolves to the canonical route. -/
theorem isCanonicalRoute_resolve {registry : WorkerExecutorRegistry} {action : Action}
    (h : IsCanonicalAction action) :
    IsCanonicalRoute (registry.resolveWithRegistration action).requestedRole
      (registry.resolveWithRegistration action).requestedCapability := by
  have hrole : normalizeRole action.executorRole = ExecutorRole.softwareEngineering.value := by
    rw [h.1]
    exact normalizeRole_softwareEngineering
  rcases registry.requested_of_resolveWithRegistration action with ⟨hblank, -⟩ | ⟨hsome, hcap⟩
  · rw [hrole] at hblank
    exact absurd hblank (by decide)
  · rw [IsCanonicalRoute, hsome, hcap, hrole, capabilityForAction_of_canonical h]
    exact ⟨rfl, rfl⟩

/-- A canonical action that names neither a provider nor an account. -/
structure CodingAction (action : Action) : Prop where
  canonical : IsCanonicalAction action
  noProvider : action.payload.contains "capability_provider" = false ∧
    action.metadata.contains "capability_provider" = false
  noAccount : action.payload.contains "account_context" = false ∧
    action.metadata.contains "account_context" = false

/-- Exactly one provider is registered for the canonical route without an account. -/
def WorkerExecutorRegistry.TakesCoding (registry : WorkerExecutorRegistry) (executor : ℕ) : Prop :=
  ∃ registration : WorkerProviderRegistration,
    registry.matchingCapabilityRoutes ExecutorRole.softwareEngineering.value
      SOFTWARE_ENGINEERING_IMPLEMENT_CAPABILITY none none = [registration] ∧
    registration.executor = .provider executor

/-- Where one provider is registered, it is the executor of every coding action. -/
theorem resolve_codingAction {registry : WorkerExecutorRegistry} {executor : ℕ} {action : Action}
    (hregistry : registry.TakesCoding executor) (h : CodingAction action) :
    (registry.resolveWithRegistration action).executor = .provider executor ∧
      (registry.resolveWithRegistration action).registered = true := by
  obtain ⟨registration, hmatching, hexecutor⟩ := hregistry
  have hrole : normalizeRole action.executorRole = ExecutorRole.softwareEngineering.value := by
    rw [h.canonical.1]
    exact normalizeRole_softwareEngineering
  have hnonempty : ExecutorRole.softwareEngineering.value ≠ "" := by decide
  have hprovider : providerForAction action = ⟨none, false, true⟩ := by
    simp [providerForAction, h.noProvider]
  have haccount : accountContextForAction action = ⟨none, false, true⟩ := by
    simp [accountContextForAction, h.noAccount]
  simp only [WorkerExecutorRegistry.resolveWithRegistration, hrole, hnonempty, if_false,
    capabilityForAction_of_canonical h.canonical, hprovider, haccount,
    WorkerExecutorRegistry.resolveCapabilityRoute]
  simp [hexecutor, hmatching]

omit [PyStd] in
theorem codingAction_recoveredAction (id : UUID) (target objective : String) (mark : Value) :
    CodingAction (recoveredAction id target objective mark) where
  canonical := ⟨rfl, rfl, rfl⟩
  noProvider := ⟨rfl, rfl⟩
  noAccount := ⟨rfl, rfl⟩

/-- The action of a delegated coding task, evaluated by a permission engine. -/
theorem codingAction_withDecision {request : TaskDelegationRequest} {id : UUID} {dump : Value}
    (hrole : request.executorRole = .softwareEngineering)
    (hcapability : request.capability = SOFTWARE_ENGINEERING_IMPLEMENT_CAPABILITY)
    (haccount : request.accountContext = none) :
    CodingAction (PermissionEngineRuntime.withDecision
      (ActionTaskDelegator.actionFor request id) dump) := by
  rcases request with ⟨objective, target, role, capability, account, checked⟩
  obtain rfl : role = .softwareEngineering := hrole
  obtain rfl : capability = SOFTWARE_ENGINEERING_IMPLEMENT_CAPABILITY := hcapability
  obtain rfl : account = none := haccount
  exact ⟨⟨rfl, rfl, rfl⟩, ⟨rfl, rfl⟩, ⟨rfl, rfl⟩⟩

end Resolve

end Velox
