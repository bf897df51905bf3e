import Velox.Core.Error

/-!
# Credential storage

The vendor-neutral contract of a credential store, and the store that lives in memory.
References and materials are checked when they are built. Whatever a store keeps, a
reference is answered with the text that was persisted for it, and only a call for that
reference changes it.

## Main definitions

* `CredentialReference`, `CredentialMaterial` — checked identities and opaque texts
* `CredentialStore` — `store`, `get` and `delete` with the contract they keep
* `InMemoryCredentialStore` — the deterministic store

## Main results

* `CredentialStore.held_store_without_replace` — storing never replaces silently
-/

set_option autoImplicit false

namespace Velox

/-! ### Identities and materials -/

/-- Explicit VELOX credential identity, separate from provider routing. -/
structure CredentialReference where
  namespace_ : String
  accountIdentifier : String
  namespace_nonBlank : Python.strip namespace_ ≠ ""
  accountIdentifier_nonBlank : Python.strip accountIdentifier ≠ ""
  deriving DecidableEq

/-- Opaque credential material. -/
structure CredentialMaterial where
  value : String
  value_nonEmpty : value ≠ ""
  deriving DecidableEq

/-- `_validate_identifier`, for a field that is blank. -/
def blankIdentifierError (fieldName : String) : Raised :=
  ⟨.valueError, "credential reference " ++ fieldName ++ " must be a non-blank string"⟩

/-- `CredentialReference(...)`. -/
def CredentialReference.new (namespace_ accountIdentifier : String) :
    Except Raised CredentialReference :=
  if hns : Python.strip namespace_ = "" then .error (blankIdentifierError "namespace")
  else if haccount : Python.strip accountIdentifier = "" then
    .error (blankIdentifierError "account_identifier")
  else .ok ⟨namespace_, accountIdentifier, hns, haccount⟩

/-- `CredentialMaterial(...)`. -/
def CredentialMaterial.new (value : String) : Except Raised CredentialMaterial :=
  if h : value = "" then
    .error ⟨.valueError, "credential material must be a non-empty string"⟩
  else .ok ⟨value, h⟩

/-- `CredentialAlreadyExistsError`. -/
def credentialAlreadyExistsError : Raised :=
  ⟨.exception "CredentialAlreadyExistsError",
    "credential already exists for the requested namespace and account"⟩

/-- `CredentialStoreBackendError`. -/
def credentialStoreBackendError : Raised :=
  ⟨.exception "CredentialStoreBackendError", "credential store backend operation failed"⟩

/-- A persisted text, as `get` returns it. -/
def heldMaterial : Option String → Except Raised (Option CredentialMaterial)
  | none => .ok none
  | some value => (CredentialMaterial.new value).map some

theorem CredentialReference.new_eq_ok {namespace_ accountIdentifier : String}
    (hns : Python.strip namespace_ ≠ "") (haccount : Python.strip accountIdentifier ≠ "") :
    new namespace_ accountIdentifier = .ok ⟨namespace_, accountIdentifier, hns, haccount⟩ := by
  rw [new, dif_neg hns, dif_neg haccount]

theorem CredentialReference.fields_of_new {namespace_ accountIdentifier : String}
    {reference : CredentialReference} (h : new namespace_ accountIdentifier = .ok reference) :
    reference.namespace_ = namespace_ ∧ reference.accountIdentifier = accountIdentifier := by
  rw [new] at h
  split_ifs at h
  obtain rfl := Except.ok.inj h
  exact ⟨rfl, rfl⟩

theorem heldMaterial_value (material : CredentialMaterial) :
    heldMaterial (some material.value) = .ok (some material) := by
  rw [heldMaterial, CredentialMaterial.new, dif_neg material.value_nonEmpty]
  rfl

theorem held_of_heldMaterial {held : Option String} {material : CredentialMaterial}
    (h : heldMaterial held = .ok (some material)) : held = some material.value := by
  cases held with
  | none => exact absurd (Except.ok.inj h) (fun h => nomatch h)
  | some value =>
    rw [heldMaterial, CredentialMaterial.new] at h
    split_ifs at h
    · exact nomatch h
    · obtain rfl := Option.some.inj (Except.ok.inj h)
      rfl

/-! ### The contract -/

/-- Storage boundary for opaque credentials addressed by explicit reference. -/
structure CredentialStore (W : Type) where
  store : CredentialReference → CredentialMaterial → (replace : Bool) → W → Except Raised Unit × W
  get : CredentialReference → W → Except Raised (Option CredentialMaterial) × W
  delete : CredentialReference → W → Except Raised Bool × W
  /-- The text persisted for a reference. -/
  held : W → CredentialReference → Option String
  /-- Return stored material, or `None` when the reference is unknown. -/
  get_fst (r : CredentialReference) (w : W) : (get r w).1 = heldMaterial (held w r)
  held_get (r : CredentialReference) (w : W) : held (get r w).2 = held w
  /-- Store material. -/
  held_store (r : CredentialReference) (m : CredentialMaterial) (replace : Bool) (w : W) :
    (store r m replace w).1 = .ok () → held (store r m replace w).2 r = some m.value
  held_store_of_ne (r : CredentialReference) (m : CredentialMaterial) (replace : Bool) (w : W)
    (r' : CredentialReference) : r' ≠ r → held (store r m replace w).2 r' = held w r'
  /-- Replacing a value requires explicit permission. -/
  store_refuses (r : CredentialReference) (m : CredentialMaterial) (w : W) : held w r ≠ none →
    (store r m false w).1 ≠ .ok () ∧ held (store r m false w).2 r = held w r
  /-- Delete one credential. -/
  held_delete_of_ne (r : CredentialReference) (w : W) (r' : CredentialReference) : r' ≠ r →
    held (delete r w).2 r' = held w r'

/-- Storing without permission never replaces a value. -/
theorem CredentialStore.held_store_without_replace {W : Type} (store : CredentialStore W)
    (r : CredentialReference) (m : CredentialMaterial) (w : W) {r' : CredentialReference}
    {value : String} (h : store.held w r' = some value) :
    store.held (store.store r m false w).2 r' = some value := by
  by_cases hr : r' = r
  · subst hr
    have hne : store.held w r' ≠ none := fun hnone => nomatch h.symm.trans hnone
    exact (store.store_refuses r' m w hne).2.trans h
  · exact (store.held_store_of_ne r m false w r' hr).trans h

/-! ### The store in memory -/

namespace InMemoryCredentialStore

/-- The credentials of the process. -/
abbrev Credentials := OrderedDict CredentialReference CredentialMaterial

/-- `store`. -/
def store (reference : CredentialReference) (material : CredentialMaterial) (replace : Bool)
    (credentials : Credentials) : Except Raised Unit × Credentials :=
  if credentials.contains reference ∧ ¬replace then
    (.error credentialAlreadyExistsError, credentials)
  else (.ok (), credentials.set reference material)

/-- `get`. -/
def get (reference : CredentialReference) (credentials : Credentials) :
    Except Raised (Option CredentialMaterial) × Credentials :=
  (.ok (credentials.get reference), credentials)

/-- `delete`. -/
def delete (reference : CredentialReference) (credentials : Credentials) :
    Except Raised Bool × Credentials :=
  (.ok (credentials.get reference).isSome, credentials.erase reference)

/-- The store in memory keeps the contract. -/
def credentialStore : CredentialStore Credentials where
  store
  get
  delete
  held credentials reference := (credentials.get reference).map CredentialMaterial.value
  get_fst r credentials := by
    cases h : credentials.get r with
    | none => simp only [get, h, Option.map_none, heldMaterial]
    | some material => simp only [get, h, Option.map_some, heldMaterial_value]
  held_get _ _ := rfl
  held_store r m replace credentials hok := by
    unfold store at hok ⊢
    split_ifs at hok ⊢
    rw [OrderedDict.get_set_self, Option.map_some]
  held_store_of_ne r m replace credentials r' hr := by
    unfold store
    split_ifs
    · rfl
    · rw [OrderedDict.get_set_of_ne hr]
  store_refuses r m credentials hheld := by
    have hcontains : credentials.contains r := by
      rw [OrderedDict.contains, ← Option.isSome_map (f := CredentialMaterial.value)]
      exact Option.ne_none_iff_isSome.mp hheld
    have hrefused : store r m false credentials =
        (.error credentialAlreadyExistsError, credentials) :=
      if_pos ⟨hcontains, Bool.false_ne_true⟩
    rw [hrefused]
    exact ⟨fun h => (nomatch h), rfl⟩
  held_delete_of_ne r credentials r' hr := by
    simp only [delete, OrderedDict.get_erase_of_ne hr]

end InMemoryCredentialStore

end Velox
