import Velox.Workers.Registration
import Velox.Workers.Runtime

/-!
# Routing actions to providers

An action asks for a role, a capability, possibly a provider and possibly an
account context, and is routed to the one registration that serves it. Matching
looks at the principal of an account context although route keys do not.

## Main definitions

* `Asks` — what an action asks for, if that is well formed
* `WorkerProviderRegistration.Serves` — a registration that a request names

## Main results

* `WorkerExecutorRegistry.resolveWithRegistration_cases` — what a resolution can be
* `WorkerExecutorRegistry.resolve_congr_of_perm` — the order of the registrations
  does not matter
* `routing_exact` — an action is routed exactly if one registration serves it
-/

set_option autoImplicit false

namespace Velox

/-! ### What an action asks for -/

/-- The value an action carries under a key, in its payload before its metadata. -/
def Action.field (action : Action) (key : String) : Option Value :=
  (action.payload.get key).orElse fun _ => action.metadata.get key

/-- A value that is a text and not blank. -/
def Texted (value : Value) (text : String) : Prop :=
  ∃ s, value = .str s ∧ text = Python.strip s ∧ text ≠ ""

/-- A value that describes an account context. -/
def Describes (value : Value) (context : WorkerAccountContext) : Prop :=
  ∃ entries, value = .dict entries ∧
    (∃ identifier, lookupEntry entries "account_identifier" = some identifier ∧
      Texted identifier context.accountIdentifier) ∧
    Option.Rel Texted ((lookupEntry entries "principal").filter (· ≠ .none)) context.principal

section Requests

variable [PyStd]

/-- A value that names an identifier: a text that is not blank, known by its folded
form. -/
def Named (value : Value) (name : String) : Prop :=
  ∃ s, value = .str s ∧ name = PyStd.casefold (Python.strip s) ∧ name ≠ ""

/-- What an action asks for, if all of it is well formed. Its type stands in for a
capability; a provider and an account context may be absent. -/
structure Asks (action : Action) (role capability : String) (provider : Option String)
    (accountContext : Option WorkerAccountContext) : Prop where
  role : normalizeRole action.executorRole = role ∧ role ≠ ""
  capability : Named ((action.field "capability").getD (.str action.type)) capability
  provider : Option.Rel Named (action.field "capability_provider") provider
  accountContext : Option.Rel Describes (action.field "account_context") accountContext

/-! ### Reading requests -/

omit [PyStd] in
theorem orNone_eq_some_iff {value text : String} :
    orNone value = some text ↔ value = text ∧ text ≠ "" := by
  unfold orNone
  split_ifs with hempty
  · simp only [false_iff, not_and, not_not]
    rintro rfl
    exact hempty
  · rw [Option.some_inj]
    refine ⟨?_, And.left⟩
    rintro rfl
    exact ⟨rfl, hempty⟩

theorem named_iff {value : Value} {name : String} :
    Named value name ↔ normalizeIdentifier (some value) = name ∧ name ≠ "" := by
  cases value with
  | str s =>
    simp only [Named, Value.str.injEq, exists_eq_left', normalizeIdentifier]
    exact and_congr_left fun _ => eq_comm
  | _ =>
    refine iff_of_false (fun ⟨s, hs, _⟩ => nomatch hs) ?_
    rintro ⟨rfl, hne⟩
    exact hne rfl

omit [PyStd] in
theorem texted_iff {value : Value} {text : String} :
    Texted value text ↔ normalizeRouteValue (some value) = text ∧ text ≠ "" := by
  cases value with
  | str s =>
    simp only [Texted, Value.str.injEq, exists_eq_left', normalizeRouteValue]
    exact and_congr_left fun _ => eq_comm
  | _ =>
    refine iff_of_false (fun ⟨s, hs, _⟩ => nomatch hs) ?_
    rintro ⟨rfl, hne⟩
    exact hne rfl

variable {action : Action}

/-- The capability request of an action names its capability, or else its type. -/
theorem capabilityForAction_iff {capability : String} :
    (capabilityForAction action).value = some capability ↔
      Named ((action.field "capability").getD (.str action.type)) capability := by
  rw [named_iff]
  unfold capabilityForAction Action.field OrderedDict.contains
  rcases action.payload.get "capability" with _ | value
  · rcases action.metadata.get "capability" with _ | value
    · exact orNone_eq_some_iff
    · exact orNone_eq_some_iff
  · exact orNone_eq_some_iff

/-- A capability that is named is a valid one. -/
theorem capabilityForAction_valid {capability : String}
    (h : (capabilityForAction action).value = some capability) :
    ¬((capabilityForAction action).present = true ∧ ¬(capabilityForAction action).valid = true) := by
  have hvalid : ∀ value : Option Value, orNone (normalizeIdentifier value) = some capability →
      decide (normalizeIdentifier value ≠ "") = true := by
    intro value hvalue
    obtain ⟨hname, hne⟩ := orNone_eq_some_iff.mp hvalue
    exact decide_eq_true (hname ▸ hne)
  rintro ⟨-, hinvalid⟩
  revert h hinvalid
  unfold capabilityForAction
  split_ifs
  · exact fun h hinvalid => hinvalid (hvalid _ h)
  · exact fun h hinvalid => hinvalid (hvalid _ h)
  · exact fun h hinvalid => hinvalid (hvalid _ h)

/-- A named request, as the provider request of an action reads it. -/
private theorem named_request_iff {value : Value} {provider : Option String} :
    (¬((RouteRequest.named (some value)).present = true ∧
          ¬(RouteRequest.named (some value)).valid = true) ∧
        (RouteRequest.named (some value)).value = provider) ↔
      Option.Rel Named (some value) provider := by
  by_cases hempty : normalizeIdentifier (some value) = ""
  · refine iff_of_false (fun h => h.1 ⟨rfl, by simp [RouteRequest.named, hempty]⟩) fun h => ?_
    cases h with
    | some hnamed => exact (named_iff.mp hnamed).2 ((named_iff.mp hnamed).1.symm.trans hempty)
  · have hvalue : (RouteRequest.named (some value)).value = some (normalizeIdentifier (some value)) :=
      orNone_eq_some_iff.mpr ⟨rfl, hempty⟩
    rw [hvalue]
    constructor
    · rintro ⟨-, rfl⟩
      exact .some (named_iff.mpr ⟨rfl, hempty⟩)
    · intro h
      cases h with
      | some hnamed =>
        refine ⟨fun hinvalid => hinvalid.2 (by simp [RouteRequest.named, hempty]), ?_⟩
        rw [(named_iff.mp hnamed).1]

/-- The provider request of an action is well formed exactly if no provider is named,
or one properly. -/
theorem providerForAction_iff {provider : Option String} :
    (¬((providerForAction action).present = true ∧ ¬(providerForAction action).valid = true) ∧
        (providerForAction action).value = provider) ↔
      Option.Rel Named (action.field "capability_provider") provider := by
  unfold providerForAction Action.field OrderedDict.contains
  rcases action.payload.get "capability_provider" with _ | value
  · rcases action.metadata.get "capability_provider" with _ | value
    · constructor
      · rintro ⟨-, rfl⟩
        exact .none
      · intro h
        cases h
        exact ⟨fun hinvalid => hinvalid.2 rfl, rfl⟩
    · exact named_request_iff
  · exact named_request_iff

omit [PyStd] in
/-- A required text of an account context. -/
private theorem required_text_iff {entry : Option Value} {text : String} :
    (∃ value, entry = some value ∧ Texted value text) ↔
      normalizeRouteValue entry = text ∧ text ≠ "" := by
  rcases entry with _ | value
  · refine iff_of_false (fun ⟨value, hvalue, _⟩ => nomatch hvalue) ?_
    rintro ⟨rfl, hne⟩
    exact hne rfl
  · simp only [Option.some_inj, exists_eq_left', texted_iff]

omit [PyStd] in
/-- An optional text of an account context. -/
private theorem optional_text_iff {entry : Option Value} {text : Option String} :
    Option.Rel Texted entry text ↔
      (entry.map fun value => normalizeRouteValue (some value)) = text ∧ text ≠ some "" := by
  rcases entry with _ | value
  · constructor
    · intro h
      cases h
      exact ⟨rfl, fun hsome => nomatch hsome⟩
    · rintro ⟨rfl, -⟩
      exact .none
  · constructor
    · intro h
      cases h with
      | some htext =>
        obtain ⟨htext, hne⟩ := texted_iff.mp htext
        exact ⟨congrArg some htext, fun hempty => hne (Option.some.inj hempty)⟩
    · rintro ⟨rfl, hne⟩
      exact .some (texted_iff.mpr ⟨rfl, fun hempty => hne (congrArg some hempty)⟩)

omit [PyStd] in
/-- What an account context value is read as. -/
theorem parseAccountContext_iff {value : Value} {context : Option WorkerAccountContext} :
    (¬((parseAccountContext (some value)).present = true ∧
          ¬(parseAccountContext (some value)).valid = true) ∧
        (parseAccountContext (some value)).accountContext = context) ↔
      Option.Rel Describes (some value) context := by
  cases value with
  | dict entries =>
    have hdescribes : ∀ c : WorkerAccountContext, Describes (.dict entries) c ↔
        (normalizeRouteValue (lookupEntry entries "account_identifier") = c.accountIdentifier ∧
          c.accountIdentifier ≠ "") ∧
        (((lookupEntry entries "principal").filter (· ≠ .none)).map
          fun value => normalizeRouteValue (some value)) = c.principal ∧ c.principal ≠ some "" := by
      intro c
      simp only [Describes, Value.dict.injEq, exists_eq_left', required_text_iff, optional_text_iff]
    rw [parseAccountContext]
    split_ifs with hinvalid
    · -- a blank text makes the context malformed
      refine iff_of_false (fun h => h.1 ⟨rfl, by simp⟩) fun h => ?_
      cases h with
      | some hcontext =>
        obtain ⟨⟨hidentifier, hne⟩, hprincipal, hne'⟩ := (hdescribes _).mp hcontext
        rcases hinvalid with hblank | hblank
        · exact hne' (hprincipal.symm.trans hblank)
        · exact hne (hidentifier.symm.trans hblank)
    · rw [not_or] at hinvalid
      constructor
      · rintro ⟨-, rfl⟩
        exact .some ((hdescribes _).mpr ⟨⟨rfl, hinvalid.2⟩, rfl, hinvalid.1⟩)
      · intro h
        cases h with
        | some hcontext =>
          obtain ⟨⟨hidentifier, -⟩, hprincipal, -⟩ := (hdescribes _).mp hcontext
          refine ⟨fun hbad => hbad.2 rfl, congrArg some ?_⟩
          rw [hidentifier, hprincipal]
  | _ =>
    refine iff_of_false (fun h => h.1 ⟨rfl, Bool.false_ne_true⟩) fun h => ?_
    cases h with
    | some hcontext =>
      obtain ⟨entries, hentries, -⟩ := hcontext
      cases hentries

omit [PyStd] in
/-- The account context request of an action is well formed exactly if there is none,
or a proper one. -/
theorem accountContextForAction_iff {context : Option WorkerAccountContext} :
    (¬((accountContextForAction action).present = true ∧
          ¬(accountContextForAction action).valid = true) ∧
        (accountContextForAction action).accountContext = context) ↔
      Option.Rel Describes (action.field "account_context") context := by
  unfold accountContextForAction Action.field OrderedDict.contains
  rcases action.payload.get "account_context" with _ | value
  · rcases action.metadata.get "account_context" with _ | value
    · constructor
      · rintro ⟨-, rfl⟩
        exact .none
      · intro h
        cases h
        exact ⟨fun hinvalid => hinvalid.2 rfl, rfl⟩
    · exact parseAccountContext_iff
  · exact parseAccountContext_iff

/-- An action asks for what its requests name, if none of them is invalid. -/
theorem asks_iff {role capability : String} {provider : Option String}
    {accountContext : Option WorkerAccountContext} :
    Asks action role capability provider accountContext ↔
      (normalizeRole action.executorRole = role ∧ role ≠ "") ∧
        (capabilityForAction action).value = some capability ∧
        (¬((providerForAction action).present = true ∧ ¬(providerForAction action).valid = true) ∧
          (providerForAction action).value = provider) ∧
        (¬((accountContextForAction action).present = true ∧
            ¬(accountContextForAction action).valid = true) ∧
          (accountContextForAction action).accountContext = accountContext) := by
  rw [capabilityForAction_iff, providerForAction_iff, accountContextForAction_iff]
  exact ⟨fun h => ⟨h.role, h.capability, h.provider, h.accountContext⟩,
    fun ⟨hrole, hcapability, hprovider, hcontext⟩ => ⟨hrole, hcapability, hprovider, hcontext⟩⟩

/-- An action asks for one thing at most. -/
theorem Asks.unique {role role' capability capability' : String} {provider provider' : Option String}
    {accountContext accountContext' : Option WorkerAccountContext}
    (h : Asks action role capability provider accountContext)
    (h' : Asks action role' capability' provider' accountContext') :
    role = role' ∧ capability = capability' ∧ provider = provider' ∧
      accountContext = accountContext' := by
  obtain ⟨⟨hrole, -⟩, hcapability, ⟨-, hprovider⟩, -, hcontext⟩ := asks_iff.mp h
  obtain ⟨⟨hrole', -⟩, hcapability', ⟨-, hprovider'⟩, -, hcontext'⟩ := asks_iff.mp h'
  exact ⟨hrole.symm.trans hrole', Option.some.inj (hcapability.symm.trans hcapability'),
    hprovider.symm.trans hprovider', hcontext.symm.trans hcontext'⟩

/-- A capability is built from texts by the normalization requests are read with. -/
theorem named_of_create {identifier role provider : String} {capability : WorkerCapability}
    (h : WorkerCapability.create identifier role provider = .ok capability) :
    Named (.str identifier) capability.identifier ∧ normalizeRole (some role) = capability.role ∧
      Named (.str provider) capability.provider := by
  simp only [WorkerCapability.create, Except.bind_eq_ok_iff, Except.raiseIf_eq_ok_iff] at h
  obtain ⟨-, hidentifier, -, -, -, hprovider, hcapability⟩ := h
  obtain rfl := Except.ok.inj hcapability
  exact ⟨named_iff.mpr ⟨rfl, hidentifier⟩, rfl, named_iff.mpr ⟨rfl, hprovider⟩⟩

end Requests

/-! ### Resolving -/

/-- A registration that a request names: its role, its capability, the provider if one
is named, and exactly its account context. -/
structure WorkerProviderRegistration.Serves (registration : WorkerProviderRegistration)
    (role capability : String) (provider : Option String)
    (accountContext : Option WorkerAccountContext) : Prop where
  role : registration.capability.role = role
  capability : registration.capability.identifier = capability
  provider : ∀ name ∈ provider, registration.capability.provider = name
  accountContext : registration.accountContext = accountContext

namespace WorkerExecutorRegistry

variable {registry registry' : WorkerExecutorRegistry} {role capability : String}
  {provider : Option String} {accountContext : Option WorkerAccountContext}
  {registration : WorkerProviderRegistration}

theorem mem_matchingCapabilityRoutes_iff :
    registration ∈ registry.matchingCapabilityRoutes role capability provider accountContext ↔
      registration ∈ registry.values ∧
        registration.Serves role capability provider accountContext := by
  have hprovider : (provider = none ∨ provider = some registration.capability.provider) ↔
      ∀ name ∈ provider, registration.capability.provider = name := by
    rcases provider with _ | name
    · simp
    · simp [eq_comm]
  rw [matchingCapabilityRoutes, List.mem_filter, decide_eq_true_iff, hprovider]
  refine and_congr_right fun _ => ?_
  constructor
  · rintro ⟨hrole, hcapability, hprovider, -, hcontext⟩
    exact ⟨hrole, hcapability, hprovider, hcontext⟩
  · intro h
    exact ⟨h.role, h.capability, h.provider, by rw [h.accountContext], h.accountContext⟩

/-- Under distinct route keys no registration is made twice. -/
theorem Keyed.nodup_values (h : registry.Keyed) : registry.values.Nodup := by
  have hkeys : (registry.values.map (·.routeKey)).Nodup := h ▸ registry.nodup_keys
  exact hkeys.of_map

/-- Route keys leave only the principal out, so a request that names a provider is
served by at most one registration. -/
theorem Keyed.eq_of_serves (h : registry.Keyed) {registration' : WorkerProviderRegistration}
    {name : String} (hmem : registration ∈ registry.values) (hmem' : registration' ∈ registry.values)
    (hserves : registration.Serves role capability (some name) accountContext)
    (hserves' : registration'.Serves role capability (some name) accountContext) :
    registration = registration' := by
  have hkeys : (registry.values.map (·.routeKey)).Nodup := h ▸ registry.nodup_keys
  have hsame : registration.routeKey = registration'.routeKey := by
    rw [WorkerProviderRegistration.routeKey, WorkerProviderRegistration.routeKey, hserves.role,
      hserves'.role, hserves.capability, hserves'.capability, hserves.provider name rfl,
      hserves'.provider name rfl, hserves.accountContext, hserves'.accountContext]
  exact List.inj_on_of_nodup_map hkeys hmem hmem' hsame

/-- A list without duplicates is a singleton exactly if it has exactly one member. -/
private theorem exists_eq_singleton_iff {α : Type*} {l : List α} (hl : l.Nodup) :
    (∃ a, l = [a]) ↔ ∃! a, a ∈ l := by
  constructor
  · rintro ⟨a, rfl⟩
    exact ⟨a, List.mem_singleton_self a, fun b hb => List.mem_singleton.mp hb⟩
  · rintro ⟨a, ha, hunique⟩
    match l, hl with
    | [], _ => cases ha
    | [b], _ => exact ⟨b, rfl⟩
    | b :: c :: rest, hl =>
      have hb : b = a := hunique b List.mem_cons_self
      have hc : c = a := hunique c (List.mem_cons_of_mem b List.mem_cons_self)
      exact absurd (hb.trans hc.symm) fun hbc =>
        (List.nodup_cons.mp hl).1 (hbc ▸ List.mem_cons_self)

/-- The matching routes are a single one exactly if one registration serves. -/
theorem Keyed.matching_eq_singleton_iff (h : registry.Keyed) :
    (∃ registration, registry.matchingCapabilityRoutes role capability provider accountContext =
        [registration]) ↔
      ∃! registration, registration ∈ registry.values ∧
        registration.Serves role capability provider accountContext := by
  have hnodup : (registry.matchingCapabilityRoutes role capability provider accountContext).Nodup :=
    h.nodup_values.filter _
  rw [exists_eq_singleton_iff hnodup]
  simp only [mem_matchingCapabilityRoutes_iff]

/-- The resolution to a registration. -/
def resolutionTo (role capability : String) (provider : Option String)
    (accountContext : Option WorkerAccountContext) (registration : WorkerProviderRegistration) :
    WorkerExecutorResolution where
  executor := registration.executor
  requestedRole := role
  registered := true
  requestedCapability := capability
  requestedProvider := provider
  matchedProvider := registration.capability.provider
  requestedAccountContext := accountContext
  matchedAccountContext := registration.accountContext
  routingReason := "capability_route"

variable [PyStd] {action : Action}

/-- What a resolution can be: to the one registration that matches a well-formed request,
or to the fallback executor. -/
inductive Resolved (registry : WorkerExecutorRegistry) (action : Action) :
    WorkerExecutorResolution → Prop
  | route (role capability : String) (provider : Option String)
      (accountContext : Option WorkerAccountContext) (registration : WorkerProviderRegistration)
      (hasks : Asks action role capability provider accountContext)
      (hmatching : registry.matchingCapabilityRoutes role capability provider accountContext =
        [registration]) :
      Resolved registry action (resolutionTo role capability provider accountContext registration)
  | unmatched (role capability : String) (provider : Option String)
      (accountContext : Option WorkerAccountContext) (reason : String)
      (hasks : Asks action role capability provider accountContext)
      (hmatching : ∀ registration, registry.matchingCapabilityRoutes role capability provider
        accountContext ≠ [registration])
      (hreason : reason = "ambiguous_capability_route" →
        registry.matchingCapabilityRoutes role capability provider accountContext ≠ []) :
      Resolved registry action
        (registry.fallback (some role) (some capability) provider accountContext reason)
  | malformed (role capability provider : Option String)
      (accountContext : Option WorkerAccountContext) (reason : String)
      (hasks : ∀ role capability provider accountContext,
        ¬Asks action role capability provider accountContext)
      (hreason : reason ≠ "ambiguous_capability_route") :
      Resolved registry action (registry.fallback role capability provider accountContext reason)

theorem resolved_resolveWithRegistration (registry : WorkerExecutorRegistry) (action : Action) :
    Resolved registry action (registry.resolveWithRegistration action) := by
  unfold resolveWithRegistration
  by_cases hrole : normalizeRole action.executorRole = ""
  · rw [if_pos hrole]
    refine .malformed _ _ _ _ _ (fun role _ _ _ hasks => ?_) (by decide)
    exact hasks.role.2 (hasks.role.1.symm.trans hrole)
  rw [if_neg hrole]
  simp only
  split_ifs with hcapability hprovider hcontext
  · refine .malformed _ _ _ _ _ (fun _ _ _ _ hasks => ?_) (by decide)
    exact capabilityForAction_valid (asks_iff.mp hasks).2.1 hcapability
  · refine .malformed _ _ _ _ _ (fun _ _ _ _ hasks => ?_) (by decide)
    exact (asks_iff.mp hasks).2.2.1.1 hprovider
  · refine .malformed _ _ _ _ _ (fun _ _ _ _ hasks => ?_) (by decide)
    exact (asks_iff.mp hasks).2.2.2.1 hcontext
  · rcases hvalue : (capabilityForAction action).value with _ | capability
    · -- a blank type names no capability
      refine .malformed _ _ _ _ _ (fun _ _ _ _ hasks => ?_) (by decide)
      exact nomatch hvalue.symm.trans (asks_iff.mp hasks).2.1
    · have hasks : Asks action (normalizeRole action.executorRole) capability
          (providerForAction action).value (accountContextForAction action).accountContext :=
        asks_iff.mpr ⟨⟨rfl, hrole⟩, hvalue, ⟨hprovider, rfl⟩, ⟨hcontext, rfl⟩⟩
      simp only [resolveCapabilityRoute, Option.bind_eq_bind, Option.bind_some]
      split
      · rename_i registration hmatching
        exact .route _ _ _ _ registration hasks hmatching
      · rename_i first second rest hmatching
        refine .unmatched _ _ _ _ _ hasks (fun registration hone => ?_) fun _ hnone => ?_
        · rw [hmatching] at hone
          cases hone
        · rw [hmatching] at hnone
          cases hnone
      · rename_i hmatching
        have hnot : ∀ registration, registry.matchingCapabilityRoutes
            (normalizeRole action.executorRole) capability (providerForAction action).value
            (accountContextForAction action).accountContext ≠ [registration] := by
          intro registration hone
          rw [hmatching] at hone
          cases hone
        split_ifs
        · exact .unmatched _ _ _ _ _ hasks hnot fun h => absurd h (by decide)
        · exact .unmatched _ _ _ _ _ hasks hnot fun h => absurd h (by decide)
        · exact .unmatched _ _ _ _ _ hasks hnot fun h => absurd h (by decide)

omit [PyStd] in
/-- Only which routes match counts, not in which order they were registered. -/
theorem resolveCapabilityRoute_congr_of_perm (hperm : registry'.values.Perm registry.values)
    (hfallback : registry'.fallbackExecutor = registry.fallbackExecutor) (role : String)
    (capability : Option String) :
    registry'.resolveCapabilityRoute role capability provider accountContext =
      registry.resolveCapabilityRoute role capability provider accountContext := by
  rcases capability with _ | capability
  · rfl
  have hmatching : (registry'.matchingCapabilityRoutes role capability provider accountContext).Perm
      (registry.matchingCapabilityRoutes role capability provider accountContext) :=
    hperm.filter _
  have hspecific : registry'.hasAccountSpecificRoutes role capability provider =
      registry.hasAccountSpecificRoutes role capability provider := hperm.any_eq
  have hfall : ∀ role capability provider accountContext reason,
      registry'.fallback role capability provider accountContext reason =
        registry.fallback role capability provider accountContext reason := by
    intro role capability provider accountContext reason
    rw [fallback, fallback, hfallback]
  simp only [resolveCapabilityRoute, Option.bind_eq_bind, Option.bind_some, hspecific, hfall]
  rcases hroutes : registry.matchingCapabilityRoutes role capability provider accountContext with
    _ | ⟨first, _ | ⟨second, rest⟩⟩
  · rw [hroutes] at hmatching
    rw [hmatching.eq_nil]
  · rw [hroutes] at hmatching
    rw [List.perm_singleton.mp hmatching]
  · -- two matching routes stay two
    rw [hroutes] at hmatching
    have hlength := hmatching.length_eq
    rcases hroutes' : registry'.matchingCapabilityRoutes role capability provider accountContext with
      _ | ⟨first', _ | ⟨second', rest'⟩⟩
    · simp [hroutes'] at hlength
    · simp [hroutes'] at hlength
    · rfl

/-- Registries with the same registrations resolve every action alike. -/
theorem resolve_congr_of_perm (hperm : registry'.values.Perm registry.values)
    (hfallback : registry'.fallbackExecutor = registry.fallbackExecutor) (action : Action) :
    registry'.resolveWithRegistration action = registry.resolveWithRegistration action := by
  have hfall : ∀ role capability provider accountContext reason,
      registry'.fallback role capability provider accountContext reason =
        registry.fallback role capability provider accountContext reason := by
    intro role capability provider accountContext reason
    rw [fallback, fallback, hfallback]
  simp only [resolveWithRegistration, hfall,
    resolveCapabilityRoute_congr_of_perm hperm hfallback]

end WorkerExecutorRegistry

open WorkerExecutorRegistry in
/-- In every registry that register calls lead to, rejected ones included, an action is
routed exactly if its request is well formed and served by exactly one registration, whose
executor then receives the capability and the account context asked for. Otherwise the
fallback executor is taken, and never as ambiguous where a provider is named. The order of
the registrations does not matter. -/
theorem routing_exact [PyStd] (fallbackExecutor : WorkerExecutor) (calls : List RegistryCall)
    (action : Action) :
    let registry := after { fallbackExecutor } calls
    let resolution := registry.resolveWithRegistration action
    (resolution.registered = true ↔ ∃ role capability provider accountContext,
      Asks action role capability provider accountContext ∧
        ∃! registration, registration ∈ registry.values ∧
          registration.Serves role capability provider accountContext) ∧
    (∀ role capability provider accountContext, resolution.registered = true →
      Asks action role capability provider accountContext →
        ∃ registration ∈ registry.values,
          registration.Serves role capability provider accountContext ∧
          resolution.executor = registration.executor ∧
          ∀ executor, (resolution.execution executor action).capability = some capability ∧
            (resolution.execution executor action).accountContext = accountContext) ∧
    (resolution.registered = false → resolution.executor = fallbackExecutor) ∧
    ((action.field "capability_provider").isSome →
      resolution.routingReason ≠ some "ambiguous_capability_route") ∧
    (∀ calls', (after { fallbackExecutor } calls').values.Perm registry.values →
      (after { fallbackExecutor } calls').resolveWithRegistration action = resolution) ∧
    ∀ calls', Accepts { fallbackExecutor } calls → calls'.Perm calls →
      Accepts { fallbackExecutor } calls' ∧
        (after { fallbackExecutor } calls').resolveWithRegistration action = resolution := by
  intro registry resolution
  have hkeyed : registry.Keyed := keyed_after fallbackExecutor calls
  have hfallback : registry.fallbackExecutor = fallbackExecutor := fallbackExecutor_after calls
  have hresolved : Resolved registry action resolution :=
    resolved_resolveWithRegistration registry action
  have horder : ∀ calls', (after { fallbackExecutor } calls').values.Perm registry.values →
      (after { fallbackExecutor } calls').resolveWithRegistration action = resolution := by
    intro calls' hperm
    exact resolve_congr_of_perm hperm ((fallbackExecutor_after calls').trans hfallback.symm) action
  clear_value resolution
  refine ⟨?_, ?_, ?_, ?_, horder, ?_⟩
  · cases hresolved with
    | route role capability provider accountContext registration hasks hmatching =>
      exact iff_of_true rfl ⟨role, capability, provider, accountContext, hasks,
        hkeyed.matching_eq_singleton_iff.mp ⟨registration, hmatching⟩⟩
    | unmatched role capability provider accountContext reason hasks hmatching =>
      refine iff_of_false Bool.false_ne_true ?_
      rintro ⟨role', capability', provider', accountContext', hasks', hone⟩
      obtain ⟨rfl, rfl, rfl, rfl⟩ := hasks.unique hasks'
      obtain ⟨registration, hregistration⟩ := hkeyed.matching_eq_singleton_iff.mpr hone
      exact hmatching registration hregistration
    | malformed role capability provider accountContext reason hasks =>
      refine iff_of_false Bool.false_ne_true ?_
      rintro ⟨role', capability', provider', accountContext', hasks', -⟩
      exact hasks _ _ _ _ hasks'
  · intro role capability provider accountContext hregistered hasks
    cases hresolved with
    | route role' capability' provider' accountContext' registration hasks' hmatching =>
      obtain ⟨rfl, rfl, rfl, rfl⟩ := hasks'.unique hasks
      have hmem := mem_matchingCapabilityRoutes_iff.mp (hmatching ▸ List.mem_singleton_self registration)
      exact ⟨registration, hmem.1, hmem.2, rfl, fun _ => ⟨rfl, hmem.2.accountContext⟩⟩
    | unmatched => cases hregistered
    | malformed => cases hregistered
  · intro hregistered
    cases hresolved with
    | route => cases hregistered
    | unmatched => exact hfallback
    | malformed => exact hfallback
  · -- with a named provider the matching routes are one at most
    intro hnamed hambiguous
    cases hresolved with
    | route => exact absurd (Option.some.inj hambiguous) (by decide)
    | unmatched role capability provider accountContext reason hasks hmatching hreason =>
      have hsome : ∃ name, provider = some name := by
        have hprovider := hasks.provider
        rcases hfield : action.field "capability_provider" with _ | value
        · rw [hfield] at hnamed
          cases hnamed
        · rw [hfield] at hprovider
          cases hprovider with
          | some => exact ⟨_, rfl⟩
      obtain ⟨name, rfl⟩ := hsome
      have hne := hreason (Option.some.inj hambiguous)
      obtain ⟨first, rest, hcons⟩ := List.exists_cons_of_ne_nil hne
      have hfirst := mem_matchingCapabilityRoutes_iff.mp (hcons ▸ List.mem_cons_self)
      obtain ⟨registration, hregistration⟩ := hkeyed.matching_eq_singleton_iff.mpr
        ⟨first, hfirst, fun other hother =>
          hkeyed.eq_of_serves hother.1 hfirst.1 hother.2 hfirst.2⟩
      exact hmatching registration hregistration
    | malformed role capability provider accountContext reason hasks hreason =>
      exact hreason (Option.some.inj hambiguous)
  · intro calls' haccepts hperm
    obtain ⟨haccepts', hvalues⟩ := haccepts.perm hperm
    exact ⟨haccepts', horder calls' hvalues⟩

end Velox
