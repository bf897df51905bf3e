import Velox.Workers.Registration

/-!
# Manifests are registered whole

`register_manifest` looks at the whole manifest before it touches the registry, and
then registers one capability after another through a method that could reject each of
them. What it looked at rules that out.

A manifest is taken as a caller may build it: its fields are annotated but not
checked, so that an entry need not be a capability and the executor need not have the
method `execute`. A field of an account context that is no text is normalized like a
blank one, and is a blank text here.

## Main definitions

* `DeclaredManifest`, `DeclaredManifest.validate` — a manifest before its checks
* `WorkerExecutorRegistry.registerDeclaredManifest` — `register_manifest`
* `PreChecked` — what is known of a manifest before the first registration
* `WorkerExecutorRegistry.RegistersWhole` — rejected without effect, or every route
  appended

## Main results

* `isOk_registerCapabilities` — the loop does not reject what was checked before
* `manifest_all_or_nothing`
-/

set_option autoImplicit false

namespace Velox

/-- A manifest as a caller builds it. -/
structure DeclaredManifest where
  /-- `none` for an entry that is no `WorkerCapability`. -/
  capabilities : List (Option WorkerCapability)
  /-- `none` for an object that does not implement `WorkerExecutor`. -/
  executor : Option WorkerExecutor
  accountContext : Option WorkerAccountContext := none

section Declared

variable [PyStd]

namespace DeclaredManifest

open ProviderManifest (errorPrefix validateCapability)

/-- The checks of the declared entries in turn, given the routes declared before. -/
def validateEntries : ℕ → List (Option WorkerCapability) → List (String × String × String) →
    Except Raised (List WorkerCapability)
  | _, [], _ => .ok []
  | index, none :: _, _ =>
    throw ⟨.valueError, errorPrefix ++ "capability at index " ++ toString index ++
      " must be a WorkerCapability"⟩
  | index, some capability :: entries, routes => do
    validateCapability index capability routes
    return capability :: (← validateEntries (index + 1) entries (capability.route :: routes))

/-- `validate`: the manifest, as what its annotations say it is. -/
def validate (declared : DeclaredManifest) : Except Raised ProviderManifest := do
  Except.raiseIf (declared.capabilities = [])
    ⟨.valueError, errorPrefix ++ "capabilities must not be empty"⟩
  match declared.executor with
  | none => throw ⟨.valueError, errorPrefix ++ "executor must implement WorkerExecutor"⟩
  | some executor => do
    let capabilities ← validateEntries 0 declared.capabilities []
    Except.raiseIf ((capabilities.map (·.provider)).dedup.length ≠ 1)
      ⟨.valueError, errorPrefix ++ "capabilities must declare one provider"⟩
    return { capabilities, executor, accountContext := declared.accountContext }

end DeclaredManifest

/-- `register_manifest`. -/
def WorkerExecutorRegistry.registerDeclaredManifest (registry : WorkerExecutorRegistry)
    (declared : DeclaredManifest) : Except Raised Unit × WorkerExecutorRegistry :=
  match declared.validate with
  | .error e => (.error e, registry)
  | .ok manifest => registry.registerManifest manifest

/-! ### What validation shows -/

theorem validateCapability_route_notMem {index : ℕ} {capability : WorkerCapability}
    {routes : List (String × String × String)}
    (h : ProviderManifest.validateCapability index capability routes = .ok ()) :
    capability.route ∉ routes := by
  simp only [ProviderManifest.validateCapability, Except.bind_eq_ok_iff,
    Except.raiseIf_eq_ok_iff] at h
  obtain ⟨-, -, -, -, -, -, hroute⟩ := h
  exact hroute

/-- The declared routes are new and differ from each other. -/
theorem nodup_of_validateCapabilities {index : ℕ} {capabilities : List WorkerCapability}
    {routes : List (String × String × String)} (hroutes : routes.Nodup)
    (h : ProviderManifest.validateCapabilities index capabilities routes = .ok ()) :
    ((capabilities.map (·.route)) ++ routes).Nodup := by
  induction capabilities generalizing index routes with
  | nil => exact hroutes
  | cons capability capabilities ih =>
    obtain ⟨_, hfirst, hrest⟩ := Except.bind_eq_ok_iff.mp h
    have hnew : capability.route ∉ routes := validateCapability_route_notMem hfirst
    have hnodup := ih (List.nodup_cons.mpr ⟨hnew, hroutes⟩) hrest
    rw [List.map_cons, List.cons_append]
    exact (List.perm_middle.nodup_iff).mp hnodup

/-- The entries that pass are capabilities that pass the checks of a manifest. -/
theorem validateEntries_eq_ok {index : ℕ} {entries : List (Option WorkerCapability)}
    {routes : List (String × String × String)} {capabilities : List WorkerCapability}
    (h : DeclaredManifest.validateEntries index entries routes = .ok capabilities) :
    entries = capabilities.map some ∧
      ProviderManifest.validateCapabilities index capabilities routes = .ok () := by
  induction entries generalizing index routes capabilities with
  | nil =>
    obtain rfl := Except.ok.inj h
    exact ⟨rfl, rfl⟩
  | cons entry entries ih =>
    cases entry with
    | none => cases h
    | some capability =>
      obtain ⟨_, hfirst, h⟩ := Except.bind_eq_ok_iff.mp h
      obtain ⟨rest, hrest, h⟩ := Except.bind_eq_ok_iff.mp h
      obtain rfl := Except.ok.inj h
      obtain ⟨rfl, hvalid⟩ := ih hrest
      exact ⟨rfl, Except.bind_eq_ok_iff.mpr ⟨(), hfirst, hvalid⟩⟩

/-- A manifest that passes its checks has the entries that were declared. -/
theorem validate_eq_ok {declared : DeclaredManifest} {manifest : ProviderManifest}
    (h : declared.validate = .ok manifest) :
    declared.capabilities = manifest.capabilities.map some ∧
      declared.executor = some manifest.executor ∧
      declared.accountContext = manifest.accountContext ∧ manifest.validate = .ok () := by
  obtain ⟨_, hne, h⟩ := Except.bind_eq_ok_iff.mp h
  cases hexecutor : declared.executor with
  | none =>
    rw [hexecutor] at h
    cases h
  | some executor =>
    rw [hexecutor] at h
    obtain ⟨capabilities, hentries, h⟩ := Except.bind_eq_ok_iff.mp h
    obtain ⟨_, hproviders, h⟩ := Except.bind_eq_ok_iff.mp h
    obtain rfl := Except.ok.inj h
    obtain ⟨hdeclared, hvalid⟩ := validateEntries_eq_ok hentries
    refine ⟨hdeclared, rfl, rfl, ?_⟩
    have hne' : capabilities ≠ [] := by
      rintro rfl
      exact Except.raiseIf_eq_ok_iff.mp hne hdeclared
    exact Except.bind_eq_ok_iff.mpr ⟨(), Except.raiseIf_neg hne',
      Except.bind_eq_ok_iff.mpr ⟨(), hvalid, hproviders⟩⟩

/-! ### Checks before, checks during -/

/-- The registrations a manifest declares. -/
def ProviderManifest.registrations (manifest : ProviderManifest) : List WorkerProviderRegistration :=
  manifest.capabilities.map fun capability =>
    ⟨capability, manifest.executor, normalizeAccountContext manifest.accountContext⟩

/-- What `register_manifest` has made sure of when it registers the first capability. -/
structure PreChecked (registry : WorkerExecutorRegistry) (manifest : ProviderManifest) : Prop where
  valid : manifest.validate = .ok ()
  accountContext : AccountContextAccepted manifest.accountContext
  routes : ∀ registration ∈ manifest.registrations, registration.routeKey ∉ registry.keys

namespace PreChecked

variable {registry : WorkerExecutorRegistry} {manifest : ProviderManifest}

/-- The routes of a checked manifest are pairwise different and not yet registered. -/
theorem nodup_keys (h : PreChecked registry manifest) :
    (registry.keys ++ manifest.registrations.map (·.routeKey)).Nodup := by
  obtain ⟨_, -, hvalid⟩ := Except.bind_eq_ok_iff.mp h.valid
  obtain ⟨_, hvalid, -⟩ := Except.bind_eq_ok_iff.mp hvalid
  have hroutes : (manifest.capabilities.map (·.route)).Nodup := by
    have hnodup := nodup_of_validateCapabilities List.nodup_nil hvalid
    rwa [List.append_nil] at hnodup
  refine List.nodup_append.mpr ⟨registry.nodup_keys, ?_, ?_⟩
  · -- two registrations under one key have one route
    rw [ProviderManifest.registrations, List.map_map]
    refine List.Nodup.of_map (fun key : RouteKey => (key.1, key.2.1, key.2.2.1)) ?_
    rw [List.map_map]
    exact hroutes
  · intro key hkey key' hkey' heq
    obtain ⟨registration, hregistration, rfl⟩ := List.mem_map.mp hkey'
    exact h.routes registration hregistration (heq ▸ hkey)

/-- The loop over the capabilities rejects none of them. -/
theorem isOk_registerCapabilities (h : PreChecked registry manifest) :
    (WorkerExecutorRegistry.registerCapabilities manifest.executor
        (normalizeAccountContext manifest.accountContext) registry manifest.capabilities).1 =
          .ok () := by
  have hregisters := WorkerExecutorRegistry.registers_capabilities registry manifest.executor
    (normalizeAccountContext manifest.accountContext) manifest.capabilities
  rw [normalizeAccountContext_idem] at hregisters
  rcases hregisters with ⟨-, hok, -⟩ | ⟨hnot, -, -⟩
  · exact hok
  · exact absurd ⟨fun _ => accountContextAccepted_normalize _, h.nodup_keys⟩ hnot

end PreChecked

/-- A manifest is rejected by what is looked at beforehand, the registry being left as
it was, or all of it was checked. -/
theorem rejected_or_preChecked (registry : WorkerExecutorRegistry) (manifest : ProviderManifest) :
    (∃ e, registry.registerManifest manifest = (.error e, registry)) ∨
      PreChecked registry manifest := by
  unfold WorkerExecutorRegistry.registerManifest
  rcases hvalid : manifest.validate with e | ⟨⟩
  · exact Or.inl ⟨e, rfl⟩
  simp only
  split_ifs with hcontext
  · exact Or.inl ⟨_, rfl⟩
  split
  · exact Or.inl ⟨_, rfl⟩
  · next hfind =>
    refine Or.inr ⟨hvalid, hcontext, fun registration hregistration htaken => ?_⟩
    obtain ⟨capability, hcapability, rfl⟩ := List.mem_map.mp hregistration
    have hfree := List.find?_eq_none.mp hfind capability hcapability
    exact hfree (WorkerExecutorRegistry.contains_iff.mpr htaken)

namespace WorkerExecutorRegistry

/-- What becomes of a registry that a manifest is registered in: the call raises and
routes and resolutions are as they were, or there is one route more for each declared
capability, in order and under the normalized account context. -/
def RegistersWhole (registry : WorkerExecutorRegistry) (declared : DeclaredManifest)
    (outcome : Except Raised Unit × WorkerExecutorRegistry) : Prop :=
  (outcome.1.raised = true ∧ outcome.2.keys = registry.keys ∧
      outcome.2.values = registry.values ∧
      ∀ action, outcome.2.resolveWithRegistration action =
        registry.resolveWithRegistration action) ∨
    (outcome.1 = .ok () ∧ ∃ manifest : ProviderManifest,
      declared.capabilities = manifest.capabilities.map some ∧
      declared.executor = some manifest.executor ∧
      declared.accountContext = manifest.accountContext ∧
      outcome.2.keys = registry.keys ++ manifest.registrations.map (·.routeKey) ∧
      outcome.2.values = registry.values ++ manifest.registrations ∧
      outcome.2.fallbackExecutor = registry.fallbackExecutor)

/-- A manifest is registered whole or not at all, and once the checks before the loop
have passed, the loop rejects nothing. -/
theorem manifest_all_or_nothing (fallbackExecutor : WorkerExecutor) (calls : List RegistryCall)
    (declared : DeclaredManifest) :
    let registry := after { fallbackExecutor } calls
    registry.RegistersWhole declared (registry.registerDeclaredManifest declared) ∧
      ∀ manifest, declared.validate = .ok manifest → PreChecked registry manifest →
        (registerCapabilities manifest.executor (normalizeAccountContext manifest.accountContext)
          registry manifest.capabilities).1 = .ok () := by
  intro registry
  refine ⟨?_, fun manifest _ hchecked => hchecked.isOk_registerCapabilities⟩
  unfold registerDeclaredManifest
  rcases hvalidate : declared.validate with e | manifest
  · exact Or.inl ⟨rfl, rfl, rfl, fun _ => rfl⟩
  · obtain ⟨hcapabilities, hexecutor, hcontext, -⟩ := validate_eq_ok hvalidate
    rcases rejected_or_preChecked registry manifest with ⟨e, heq⟩ | hchecked
    · simp only [heq]
      exact Or.inl ⟨rfl, rfl, rfl, fun _ => rfl⟩
    · -- nothing that could still reject the manifest is left
      rcases registry.registers_manifest manifest with ⟨-, hok, hextends⟩ | ⟨hnot, -, -⟩
      · exact Or.inr ⟨hok, manifest, hcapabilities, hexecutor, hcontext, hextends.keys,
          hextends.values, hextends.fallback⟩
      · exact absurd ⟨⟨hchecked.valid, hchecked.accountContext⟩, hchecked.nodup_keys⟩ hnot

end WorkerExecutorRegistry

end Declared

/-- Two capabilities of one provider, declared for a padded account context. -/
def DeclaredManifest.mailbox : DeclaredManifest where
  capabilities := [some ⟨"gmail.read", "content_summary", "gmail"⟩,
    some ⟨"gmail.send", "content_summary", "gmail"⟩]
  executor := some (.provider 0)
  accountContext := some { principal := none, accountIdentifier := " work " }

/-- The first manifest of an empty registry is registered whole, the same one again is
rejected. -/
theorem manifest_all_or_nothing_of_mailbox :
    let _ := PyStd.ascii
    let registry : WorkerExecutorRegistry := { fallbackExecutor := .noOp }
    let outcome := registry.registerDeclaredManifest .mailbox
    registry.RegistersWhole .mailbox outcome ∧ outcome.1.raised = false ∧
      (outcome.2.registerDeclaredManifest .mailbox).1.raised = true := by
  intro _ registry outcome
  exact ⟨(WorkerExecutorRegistry.manifest_all_or_nothing .noOp [] .mailbox).1, by decide, by decide⟩

end Velox
