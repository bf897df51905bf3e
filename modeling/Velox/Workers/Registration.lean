import Velox.Lib.Guard
import Velox.Lib.Run
import Velox.Workers.Executor

/-!
# Registering providers

Providers are registered under route keys that leave the principal of an account
context out. A registration is accepted only under a new key, and a call that
registers several may be rejected after some of them were made.

## Main definitions

* `WorkerExecutorRegistry.registerCapability`, `registerCapabilities`,
  `registerManifest` — the ways to register
* `RegistryCall`, `WorkerExecutorRegistry.after` — what a registry can become

## Main results

* `RegistryCall.registers_perform` — when a call is accepted, and what it does
* `WorkerExecutorRegistry.keyed_after` — every registration is stored under its own
  route key
* `WorkerExecutorRegistry.Accepts.perm` — accepted calls are accepted in every order
-/

set_option autoImplicit false

namespace Velox

/-! ### Registering -/

/-- `_normalize_account_context`. -/
def normalizeAccountContext : Option WorkerAccountContext → Option WorkerAccountContext
  | none => none
  | some context =>
    let accountIdentifier := Python.strip context.accountIdentifier
    let principal := context.principal.map Python.strip
    if accountIdentifier = "" then none
    else if principal = some "" then none
    else some { principal, accountIdentifier }

/-- The key a registration is stored under. -/
def WorkerProviderRegistration.routeKey (registration : WorkerProviderRegistration) : RouteKey :=
  (registration.capability.role, registration.capability.identifier,
    registration.capability.provider, registration.accountContext.map (·.accountIdentifier))

namespace WorkerExecutorRegistry

/-- Store a registration under its route key. -/
def add (registry : WorkerExecutorRegistry) (registration : WorkerProviderRegistration) :
    WorkerExecutorRegistry :=
  { registry with registrations := registry.registrations.set registration.routeKey registration }

/-- Register one canonical provider capability and its executor. -/
def registerCapability (registry : WorkerExecutorRegistry) (capability : WorkerCapability)
    (executor : WorkerExecutor) (accountContext : Option WorkerAccountContext) :
    Except Raised Unit × WorkerExecutorRegistry :=
  let normalizedAccountContext := normalizeAccountContext accountContext
  let registration := ⟨capability, executor, normalizedAccountContext⟩
  if accountContext.isSome ∧ normalizedAccountContext.isNone then
    (.error ⟨.valueError, "capability account context must not be empty"⟩, registry)
  else if registry.registrations.contains registration.routeKey then
    (.error ⟨.valueError, "capability route is already registered"⟩, registry)
  else (.ok (), registry.add registration)

/-- Register a provider's capability declarations in turn; what was registered before
one is rejected stays registered. -/
def registerCapabilities (executor : WorkerExecutor) (accountContext : Option WorkerAccountContext) :
    WorkerExecutorRegistry → List WorkerCapability → Except Raised Unit × WorkerExecutorRegistry
  | registry, [] => (.ok (), registry)
  | registry, capability :: capabilities =>
    match registry.registerCapability capability executor accountContext with
    | (.ok (), registry) => registerCapabilities executor accountContext registry capabilities
    | (.error e, registry) => (.error e, registry)

end WorkerExecutorRegistry

/-- Canonical declarative registration for one provider executor. -/
structure ProviderManifest where
  capabilities : List WorkerCapability
  executor : WorkerExecutor
  accountContext : Option WorkerAccountContext := none

/-- Role, capability and provider of a declared capability. -/
def WorkerCapability.route (capability : WorkerCapability) : String × String × String :=
  (capability.role, capability.identifier, capability.provider)

/-- The texts of the executor roles. -/
def executorRoleValues : List String :=
  [ExecutorRole.contentReview.value, ExecutorRole.contentSummary.value,
    ExecutorRole.contextPreparation.value, ExecutorRole.softwareEngineering.value]

/-- The prefix of every message about a manifest. -/
def ProviderManifest.errorPrefix : String := "invalid provider manifest: "

/-- The calls that register. -/
inductive RegistryCall
  | registerCapability (capability : WorkerCapability) (executor : WorkerExecutor)
    (accountContext : Option WorkerAccountContext)
  | registerCapabilities (capabilities : List WorkerCapability) (executor : WorkerExecutor)
    (accountContext : Option WorkerAccountContext)
  | registerManifest (manifest : ProviderManifest)

section Manifests

variable [PyStd]

/-- The checks and the normalization a capability is built with. -/
def WorkerCapability.create (identifier role provider : String) : Except Raised WorkerCapability := do
  let normalizedIdentifier := normalizeIdentifier (some (.str identifier))
  let normalizedRole := normalizeRole (some role)
  let normalizedProvider := normalizeIdentifier (some (.str provider))
  Except.raiseIf (normalizedIdentifier = "")
    ⟨.valueError, "worker capability identifier must not be empty"⟩
  Except.raiseIf (normalizedRole = "") ⟨.valueError, "worker capability role must not be empty"⟩
  Except.raiseIf (normalizedProvider = "")
    ⟨.valueError, "worker capability provider must not be empty"⟩
  return {
    identifier := normalizedIdentifier
    role := normalizedRole
    provider := normalizedProvider }

namespace ProviderManifest

/-- The checks of one declared capability, given the routes declared before it. -/
def validateCapability (index : ℕ) (capability : WorkerCapability)
    (routes : List (String × String × String)) : Except Raised Unit := do
  Except.raiseIf (capability.identifier = "" ∨
      capability.identifier ≠ normalizeIdentifier (some (.str capability.identifier)))
    ⟨.valueError, errorPrefix ++ "capability at index " ++ toString index ++
      " has an invalid identifier"⟩
  Except.raiseIf (capability.provider = "" ∨
      capability.provider ≠ normalizeIdentifier (some (.str capability.provider)))
    ⟨.valueError, errorPrefix ++ "capability at index " ++ toString index ++
      " has an invalid provider identifier"⟩
  Except.raiseIf (capability.role ∉ executorRoleValues)
    ⟨.valueError, errorPrefix ++ "capability at index " ++ toString index ++
      " has an invalid executor role"⟩
  Except.raiseIf (capability.route ∈ routes)
    ⟨.valueError, errorPrefix ++ "duplicate capability route '" ++ capability.role ++ ":" ++
      capability.identifier ++ ":" ++ capability.provider ++ "'"⟩

/-- The checks of the declared capabilities in turn. -/
def validateCapabilities : ℕ → List WorkerCapability → List (String × String × String) →
    Except Raised Unit
  | _, [], _ => .ok ()
  | index, capability :: capabilities, routes => do
    validateCapability index capability routes
    validateCapabilities (index + 1) capabilities (capability.route :: routes)

/-- Validate manifest invariants before registry mutation. -/
def validate (manifest : ProviderManifest) : Except Raised Unit := do
  Except.raiseIf (manifest.capabilities = [])
    ⟨.valueError, errorPrefix ++ "capabilities must not be empty"⟩
  validateCapabilities 0 manifest.capabilities []
  Except.raiseIf ((manifest.capabilities.map (·.provider)).dedup.length ≠ 1)
    ⟨.valueError, errorPrefix ++ "capabilities must declare one provider"⟩

end ProviderManifest

/-- Register one provider manifest as a canonical declarative unit. -/
def WorkerExecutorRegistry.registerManifest (registry : WorkerExecutorRegistry) (manifest : ProviderManifest) :
    Except Raised Unit × WorkerExecutorRegistry :=
  match manifest.validate with
  | .error e => (.error e, registry)
  | .ok () =>
    let normalizedAccountContext := normalizeAccountContext manifest.accountContext
    if manifest.accountContext.isSome ∧ normalizedAccountContext.isNone then
      (.error ⟨.valueError, "invalid provider manifest: account context must contain a non-empty " ++
        "account identifier and principal when provided"⟩, registry)
    else
      let registrationOf (capability : WorkerCapability) : WorkerProviderRegistration :=
        ⟨capability, manifest.executor, normalizedAccountContext⟩
      match manifest.capabilities.find? fun capability =>
          registry.registrations.contains (registrationOf capability).routeKey with
      | some capability =>
        (.error ⟨.valueError, "invalid provider manifest: capability route conflicts with an " ++
          "existing registration '" ++ capability.role ++ ":" ++ capability.identifier ++ ":" ++
          capability.provider ++ "'"⟩, registry)
      | none =>
        WorkerExecutorRegistry.registerCapabilities manifest.executor normalizedAccountContext registry
          manifest.capabilities

/-- Make the call: whether it is rejected, and the registry afterwards. -/
def RegistryCall.perform (registry : WorkerExecutorRegistry) :
    RegistryCall → Except Raised Unit × WorkerExecutorRegistry
  | .registerCapability capability executor accountContext =>
    registry.registerCapability capability executor accountContext
  | .registerCapabilities capabilities executor accountContext =>
    WorkerExecutorRegistry.registerCapabilities executor accountContext registry capabilities
  | .registerManifest manifest => registry.registerManifest manifest

end Manifests

/-! ### When a call is accepted -/

/-- The account context of a call is absent, or has a key. -/
def AccountContextAccepted (accountContext : Option WorkerAccountContext) : Prop :=
  ¬(accountContext.isSome ∧ (normalizeAccountContext accountContext).isNone)

theorem normalizeAccountContext_idem (accountContext : Option WorkerAccountContext) :
    normalizeAccountContext (normalizeAccountContext accountContext) =
      normalizeAccountContext accountContext := by
  rcases accountContext with _ | ⟨principal, accountIdentifier⟩
  · rfl
  · by_cases hidentifier : Python.strip accountIdentifier = ""
    · simp [normalizeAccountContext, hidentifier]
    · rcases principal with _ | principal
      · simp [normalizeAccountContext, hidentifier]
      · by_cases hprincipal : Python.strip principal = "" <;>
          simp [normalizeAccountContext, hidentifier, hprincipal]

theorem accountContextAccepted_normalize (accountContext : Option WorkerAccountContext) :
    AccountContextAccepted (normalizeAccountContext accountContext) := by
  rw [AccountContextAccepted, normalizeAccountContext_idem]
  rcases normalizeAccountContext accountContext with _ | context <;> simp

namespace WorkerExecutorRegistry

variable {registry : WorkerExecutorRegistry} {registration : WorkerProviderRegistration}
  {capability : WorkerCapability} {executor : WorkerExecutor}
  {accountContext : Option WorkerAccountContext}

/-- The keys registrations are stored under. -/
def keys (registry : WorkerExecutorRegistry) : List RouteKey := registry.registrations.keys

/-- The registrations in the order they were made. -/
def values (registry : WorkerExecutorRegistry) : List WorkerProviderRegistration :=
  registry.registrations.values

/-- Store registrations in turn. -/
def addAll (registry : WorkerExecutorRegistry) (registrations : List WorkerProviderRegistration) :
    WorkerExecutorRegistry :=
  registrations.foldl add registry

theorem contains_iff {key : RouteKey} :
    registry.registrations.contains key = true ↔ key ∈ registry.keys := by
  rw [OrderedDict.contains, Option.isSome_iff_exists, keys, OrderedDict.mem_keys_iff]

theorem keys_add (hnew : registration.routeKey ∉ registry.keys) :
    (registry.add registration).keys = registry.keys ++ [registration.routeKey] :=
  OrderedDict.keys_set_of_notMem hnew

theorem values_add (hnew : registration.routeKey ∉ registry.keys) :
    (registry.add registration).values = registry.values ++ [registration] :=
  OrderedDict.values_set_of_get_eq_none (OrderedDict.get_eq_none_iff.mpr hnew)

@[simp] theorem fallbackExecutor_add :
    (registry.add registration).fallbackExecutor = registry.fallbackExecutor := rfl

/-- A capability is registered exactly under a new key, with an acceptable account
context; otherwise nothing changes. -/
theorem registerCapability_eq (registry : WorkerExecutorRegistry) (capability : WorkerCapability)
    (executor : WorkerExecutor) (accountContext : Option WorkerAccountContext) :
    (AccountContextAccepted accountContext ∧
        WorkerProviderRegistration.routeKey
          ⟨capability, executor, normalizeAccountContext accountContext⟩ ∉ registry.keys ∧
        registry.registerCapability capability executor accountContext =
          (.ok (), registry.add ⟨capability, executor, normalizeAccountContext accountContext⟩)) ∨
      (¬(AccountContextAccepted accountContext ∧
          WorkerProviderRegistration.routeKey
            ⟨capability, executor, normalizeAccountContext accountContext⟩ ∉ registry.keys) ∧
        ∃ e, registry.registerCapability capability executor accountContext =
          (.error e, registry)) := by
  unfold registerCapability
  by_cases haccepted : AccountContextAccepted accountContext
  · have hcontext : ¬(accountContext.isSome = true ∧
        (normalizeAccountContext accountContext).isNone = true) := haccepted
    simp only [hcontext, if_false]
    split_ifs with hkey
    · exact Or.inr ⟨fun hnew => hnew.2 (contains_iff.mp hkey), _, rfl⟩
    · exact Or.inl ⟨haccepted, fun hin => hkey (contains_iff.mpr hin), rfl⟩
  · have hcontext : accountContext.isSome = true ∧
        (normalizeAccountContext accountContext).isNone = true := not_not.mp haccepted
    simp only [hcontext, and_self, if_true]
    exact Or.inr ⟨fun hnew => haccepted hnew.1, _, rfl⟩

/-- A registry that has some registrations more, made last. -/
structure Extends (registry registry' : WorkerExecutorRegistry)
    (registrations : List WorkerProviderRegistration) : Prop where
  fallback : registry'.fallbackExecutor = registry.fallbackExecutor
  keys : registry'.keys = registry.keys ++ registrations.map (·.routeKey)
  values : registry'.values = registry.values ++ registrations

theorem Extends.refl (registry : WorkerExecutorRegistry) : registry.Extends registry [] :=
  ⟨rfl, (List.append_nil _).symm, (List.append_nil _).symm⟩

theorem extends_add (hnew : registration.routeKey ∉ registry.keys) :
    registry.Extends (registry.add registration) [registration] :=
  ⟨rfl, keys_add hnew, values_add hnew⟩

theorem Extends.trans {registry registry' registry'' : WorkerExecutorRegistry}
    {registrations registrations' : List WorkerProviderRegistration}
    (h : registry.Extends registry' registrations)
    (h' : registry'.Extends registry'' registrations') :
    registry.Extends registry'' (registrations ++ registrations') where
  fallback := h'.fallback.trans h.fallback
  keys := by rw [h'.keys, h.keys, List.map_append, List.append_assoc]
  values := by rw [h'.values, h.values, List.append_assoc]

/-- What registering comes to: all the given registrations are made, or the call is
rejected and only some are. -/
def Registers (registry : WorkerExecutorRegistry) (wellFormed : Prop)
    (registrations : List WorkerProviderRegistration)
    (outcome : Except Raised Unit × WorkerExecutorRegistry) : Prop :=
  ((wellFormed ∧ (registry.keys ++ registrations.map (·.routeKey)).Nodup) ∧
      outcome.1 = .ok () ∧ registry.Extends outcome.2 registrations) ∨
    (¬(wellFormed ∧ (registry.keys ++ registrations.map (·.routeKey)).Nodup) ∧
      outcome.1 ≠ .ok () ∧ ∃ made, registry.Extends outcome.2 made)

/-- A call that is rejected before anything is registered. -/
theorem registers_of_rejected {wellFormed : Prop}
    {registrations : List WorkerProviderRegistration} {e : Raised}
    (hnot : ¬(wellFormed ∧ (registry.keys ++ registrations.map (·.routeKey)).Nodup)) :
    registry.Registers wellFormed registrations (.error e, registry) :=
  Or.inr ⟨hnot, (fun hok => nomatch hok), [], .refl registry⟩

theorem nodup_keys (registry : WorkerExecutorRegistry) : registry.keys.Nodup :=
  registry.registrations.nodupKeys

theorem nodup_keys_append_singleton {key : RouteKey} :
    (registry.keys ++ [key]).Nodup ↔ key ∉ registry.keys := by
  rw [List.nodup_append]
  constructor
  · intro h hin
    exact h.2.2 key hin key (List.mem_singleton_self key) rfl
  · intro hnew
    refine ⟨registry.nodup_keys, List.nodup_cons.mpr ⟨List.not_mem_nil, List.nodup_nil⟩, ?_⟩
    intro a ha b hb hab
    exact hnew (List.mem_singleton.mp hb ▸ hab ▸ ha)

theorem registers_capability :
    registry.Registers (AccountContextAccepted accountContext)
      [⟨capability, executor, normalizeAccountContext accountContext⟩]
      (registry.registerCapability capability executor accountContext) := by
  rcases registry.registerCapability_eq capability executor accountContext with
    ⟨hcontext, hnew, heq⟩ | ⟨hnot, e, heq⟩
  · rw [heq]
    exact Or.inl ⟨⟨hcontext, nodup_keys_append_singleton.mpr hnew⟩, rfl, extends_add hnew⟩
  · rw [heq]
    exact registers_of_rejected fun h => hnot ⟨h.1, nodup_keys_append_singleton.mp h.2⟩

/-- The declarations of a provider are registered in turn. -/
theorem registers_capabilities (registry : WorkerExecutorRegistry) (executor : WorkerExecutor)
    (accountContext : Option WorkerAccountContext) (capabilities : List WorkerCapability) :
    registry.Registers (capabilities ≠ [] → AccountContextAccepted accountContext)
      (capabilities.map fun capability =>
        ⟨capability, executor, normalizeAccountContext accountContext⟩)
      (registerCapabilities executor accountContext registry capabilities) := by
  induction capabilities generalizing registry with
  | nil =>
    refine Or.inl ⟨⟨fun hne => absurd rfl hne, ?_⟩, rfl, .refl registry⟩
    rw [List.map_nil, List.map_nil, List.append_nil]
    exact registry.nodup_keys
  | cons capability capabilities ih =>
    rw [registerCapabilities]
    rcases registry.registerCapability_eq capability executor accountContext with
      ⟨hcontext, hnew, heq⟩ | ⟨hnot, e, heq⟩
    · rw [heq]
      have hadd := extends_add hnew
      -- the rest is registered in the registry that has the first one
      have hkeys : ∀ rest : List RouteKey, (registry.add ⟨capability, executor,
            normalizeAccountContext accountContext⟩).keys ++ rest =
          registry.keys ++ (WorkerProviderRegistration.routeKey
            ⟨capability, executor, normalizeAccountContext accountContext⟩ :: rest) := by
        intro rest
        rw [hadd.keys, List.append_assoc]
        rfl
      rcases @ih (registry.add ⟨capability, executor, normalizeAccountContext accountContext⟩) with
        ⟨⟨-, hnodup⟩, hok, hrest⟩ | ⟨hnot, herror, made, hmade⟩
      · rw [hkeys] at hnodup
        exact Or.inl ⟨⟨fun _ => hcontext, hnodup⟩, hok, hadd.trans hrest⟩
      · refine Or.inr ⟨fun h => hnot ⟨fun _ => hcontext, ?_⟩, herror, _, hadd.trans hmade⟩
        rw [hkeys]
        exact h.2
    · rw [heq]
      refine registers_of_rejected fun h => hnot ⟨h.1 (List.cons_ne_nil _ _), fun hin => ?_⟩
      have hdisjoint := (List.nodup_append.mp h.2).2.2
      exact hdisjoint _ hin _ List.mem_cons_self rfl

variable [PyStd]

/-- A manifest is registered as a whole. -/
theorem registers_manifest (manifest : ProviderManifest) :
    registry.Registers
      (manifest.validate = .ok () ∧ AccountContextAccepted manifest.accountContext)
      (manifest.capabilities.map fun capability =>
        ⟨capability, manifest.executor, normalizeAccountContext manifest.accountContext⟩)
      (registry.registerManifest manifest) := by
  unfold registerManifest
  rcases hvalid : manifest.validate with e | ⟨⟩
  · exact registers_of_rejected fun h => nomatch h.1.1
  simp only
  split_ifs with hcontext
  · exact registers_of_rejected fun h => h.1.2 hcontext
  split
  · -- some declared route is taken
    rename_i capability hfind
    have hcontains := List.find?_some hfind
    have htaken := contains_iff.mp hcontains
    have hdeclared := List.mem_of_find?_eq_some hfind
    refine registers_of_rejected fun h => ?_
    have hdisjoint := (List.nodup_append.mp h.2).2.2
    refine hdisjoint _ htaken _ ?_ rfl
    rw [List.map_map]
    exact List.mem_map_of_mem hdeclared
  · -- the account context is normalized once more
    have hregisters := registers_capabilities registry manifest.executor
      (normalizeAccountContext manifest.accountContext) manifest.capabilities
    rw [normalizeAccountContext_idem] at hregisters
    have hiff : (manifest.capabilities ≠ [] →
          AccountContextAccepted (normalizeAccountContext manifest.accountContext)) ↔
        (True ∧ AccountContextAccepted manifest.accountContext) :=
      iff_of_true (fun _ => accountContextAccepted_normalize _) ⟨trivial, hcontext⟩
    rwa [hiff] at hregisters

end WorkerExecutorRegistry

/-! ### What a registry can become -/

section Reached

variable [PyStd]

namespace RegistryCall

/-- The registrations a call makes if it is accepted. -/
def registrations : RegistryCall → List WorkerProviderRegistration
  | .registerCapability capability executor accountContext =>
    [⟨capability, executor, normalizeAccountContext accountContext⟩]
  | .registerCapabilities capabilities executor accountContext =>
    capabilities.map fun capability =>
      ⟨capability, executor, normalizeAccountContext accountContext⟩
  | .registerManifest manifest => manifest.capabilities.map fun capability =>
      ⟨capability, manifest.executor, normalizeAccountContext manifest.accountContext⟩

/-- What a call must be to be accepted by any registry. -/
def WellFormed : RegistryCall → Prop
  | .registerCapability _ _ accountContext => AccountContextAccepted accountContext
  | .registerCapabilities capabilities _ accountContext =>
    capabilities ≠ [] → AccountContextAccepted accountContext
  | .registerManifest manifest =>
    manifest.validate = .ok () ∧ AccountContextAccepted manifest.accountContext

/-- A call is accepted exactly if it is well formed and its route keys are new. -/
theorem registers_perform (call : RegistryCall) (registry : WorkerExecutorRegistry) :
    registry.Registers call.WellFormed call.registrations (call.perform registry) := by
  cases call with
  | registerCapability => exact WorkerExecutorRegistry.registers_capability
  | registerCapabilities capabilities =>
    exact WorkerExecutorRegistry.registers_capabilities _ _ _ capabilities
  | registerManifest manifest => exact WorkerExecutorRegistry.registers_manifest manifest

end RegistryCall

namespace WorkerExecutorRegistry

/-- Every call is accepted by the registry it is made on. -/
def Accepts (registry : WorkerExecutorRegistry) (calls : List RegistryCall) : Prop :=
  Run.Along (fun registry call => (call.perform registry).2)
    (fun registry call => (call.perform registry).1 = .ok ()) registry calls

/-- The registry a list of calls leads to. -/
def after (registry : WorkerExecutorRegistry) (calls : List RegistryCall) : WorkerExecutorRegistry :=
  Run.after (fun registry call => (call.perform registry).2) registry calls

/-- Every registration is stored under its own route key. -/
def Keyed (registry : WorkerExecutorRegistry) : Prop :=
  registry.keys = registry.values.map (·.routeKey)

variable {registry registry' : WorkerExecutorRegistry} {call : RegistryCall}
  {calls calls' : List RegistryCall} {fallbackExecutor : WorkerExecutor}

omit [PyStd] in
theorem Keyed.extends (h : registry.Keyed) {registrations : List WorkerProviderRegistration}
    (hextends : registry.Extends registry' registrations) : registry'.Keyed := by
  rw [Keyed, hextends.keys, hextends.values, List.map_append, h]

/-- Whatever the calls and whether or not they are rejected, the registry only grows. -/
theorem extends_after (registry : WorkerExecutorRegistry) (calls : List RegistryCall) :
    ∃ made, registry.Extends (registry.after calls) made := by
  induction calls generalizing registry with
  | nil => exact ⟨[], .refl registry⟩
  | cons call calls ih =>
    obtain ⟨rest, hrest⟩ := ih (call.perform registry).2
    rcases call.registers_perform registry with ⟨-, -, hcall⟩ | ⟨-, -, made, hcall⟩
    · exact ⟨_, hcall.trans hrest⟩
    · exact ⟨_, hcall.trans hrest⟩

theorem keyed_after (fallbackExecutor : WorkerExecutor) (calls : List RegistryCall) :
    (after { fallbackExecutor } calls).Keyed := by
  obtain ⟨made, hextends⟩ := extends_after { fallbackExecutor } calls
  have hempty : Keyed { fallbackExecutor } := rfl
  exact hempty.extends hextends

theorem fallbackExecutor_after (calls : List RegistryCall) :
    (after { fallbackExecutor } calls).fallbackExecutor = fallbackExecutor := by
  obtain ⟨made, hextends⟩ := extends_after { fallbackExecutor } calls
  exact hextends.fallback

/-- All calls are accepted exactly if each is well formed and no route key comes up
twice; then all their registrations are made. -/
theorem accepts_iff :
    registry.Accepts calls ↔ (∀ call ∈ calls, call.WellFormed) ∧
      (registry.keys ++ (calls.flatMap (·.registrations)).map (·.routeKey)).Nodup := by
  induction calls generalizing registry with
  | nil => simp [Accepts, registry.nodup_keys]
  | cons call calls ih =>
    have hsplit : registry.Accepts (call :: calls) ↔ (call.perform registry).1 = .ok () ∧
        (call.perform registry).2.Accepts calls := Iff.rfl
    rw [hsplit, ih]
    simp only [List.forall_mem_cons, List.flatMap_cons, List.map_append, ← List.append_assoc]
    rcases call.registers_perform registry with ⟨⟨hwell, -⟩, hok, hextends⟩ | ⟨hnot, herror, -⟩
    · rw [hextends.keys]
      simp [hok, hwell]
    · refine iff_of_false (fun h => herror h.1) fun h => hnot ⟨h.1.1, ?_⟩
      exact (List.nodup_append.mp h.2).1

theorem values_of_accepts (h : registry.Accepts calls) :
    (registry.after calls).values = registry.values ++ calls.flatMap (·.registrations) := by
  induction calls generalizing registry with
  | nil => exact (List.append_nil _).symm
  | cons call calls ih =>
    rcases call.registers_perform registry with ⟨-, -, hextends⟩ | ⟨-, herror, -⟩
    · have hrest := ih h.2
      rw [hextends.values] at hrest
      rw [List.flatMap_cons, ← List.append_assoc]
      exact hrest
    · exact absurd h.1 herror

/-- Accepted calls are accepted in every order, and make the same registrations. -/
theorem Accepts.perm (h : registry.Accepts calls) (hperm : calls'.Perm calls) :
    registry.Accepts calls' ∧ (registry.after calls').values.Perm (registry.after calls).values := by
  have hmade : (calls'.flatMap (·.registrations)).Perm (calls.flatMap (·.registrations)) :=
    hperm.flatMap_right _
  obtain ⟨hwell, hnodup⟩ := accepts_iff.mp h
  have haccepts : registry.Accepts calls' := by
    refine accepts_iff.mpr ⟨fun call hcall => hwell call (hperm.mem_iff.mp hcall), ?_⟩
    exact ((hmade.map _).append_left registry.keys).nodup_iff.mpr hnodup
  refine ⟨haccepts, ?_⟩
  rw [values_of_accepts haccepts, values_of_accepts h]
  exact hmade.append_left registry.values

end WorkerExecutorRegistry

end Reached

end Velox
