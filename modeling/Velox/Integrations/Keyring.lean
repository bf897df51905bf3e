import Velox.Core.Credentials

/-!
# The macOS Keychain credential store

The adapter through Python keyring, over a backend that addresses a password by its
service and its user name.

## Main definitions

* `KeyringBackend` — the injectable backend with the contract it keeps
* `MacOSKeychainCredentialStore` — the adapter

## Main results

* `MacOSKeychainCredentialStore.credentialStore` — it keeps the contract of a credential
  store
-/

set_option autoImplicit false

namespace Velox

/-- Injectable subset of the keyring backend API. -/
structure KeyringBackend (W : Type) where
  getPassword : (service username : String) → W → Except Raised (Option String) × W
  setPassword : (service username password : String) → W → Except Raised Unit × W
  deletePassword : (service username : String) → W → Except Raised Unit × W
  /-- The password of a user of a service. -/
  password : W → String → String → Option String
  getPassword_fst (s u : String) (w : W) : (getPassword s u w).1 = .ok (password w s u)
  password_getPassword (s u : String) (w : W) : password (getPassword s u w).2 = password w
  password_setPassword (s u p : String) (w : W) : (setPassword s u p w).1 = .ok () →
    password (setPassword s u p w).2 s u = some p
  password_setPassword_of_ne (s u p : String) (w : W) (s' u' : String) : (s', u') ≠ (s, u) →
    password (setPassword s u p w).2 s' u' = password w s' u'
  password_deletePassword_of_ne (s u : String) (w : W) (s' u' : String) : (s', u') ≠ (s, u) →
    password (deletePassword s u w).2 s' u' = password w s' u'

/-- `except Exception` around a call of the backend. -/
def orBackendError {α : Type} (r : Except Raised α) : Except Raised α :=
  r.mapError fun e => if e.isException then credentialStoreBackendError else e

namespace MacOSKeychainCredentialStore

variable {W : Type} (backend : KeyringBackend W)

/-- `_get_password`. -/
def getPassword (reference : CredentialReference) (w : W) : Except Raised (Option String) × W :=
  let (r, w) := backend.getPassword reference.namespace_ reference.accountIdentifier w
  (orBackendError r, w)

/-- `store`. -/
def store (reference : CredentialReference) (material : CredentialMaterial) (replace : Bool)
    (w : W) : Except Raised Unit × W :=
  match getPassword backend reference w with
  | (.error e, w) => (.error e, w)
  | (.ok existing, w) =>
    if existing.isSome ∧ ¬replace then (.error credentialAlreadyExistsError, w)
    else
      let (r, w) := backend.setPassword reference.namespace_ reference.accountIdentifier
        material.value w
      (orBackendError r, w)

/-- `get`. -/
def get (reference : CredentialReference) (w : W) :
    Except Raised (Option CredentialMaterial) × W :=
  let (r, w) := getPassword backend reference w
  (r.bind heldMaterial, w)

/-- `delete`. -/
def delete (reference : CredentialReference) (w : W) : Except Raised Bool × W :=
  match getPassword backend reference w with
  | (.error e, w) => (.error e, w)
  | (.ok none, w) => (.ok false, w)
  | (.ok (some _), w) =>
    let (r, w) := backend.deletePassword reference.namespace_ reference.accountIdentifier w
    (orBackendError (r.map fun _ => true), w)

variable {backend}

/-- Reading a password is answered, and changes no password. -/
theorem getPassword_eq (backend : KeyringBackend W) (reference : CredentialReference) (w : W) :
    ∃ w', getPassword backend reference w =
        (.ok (backend.password w reference.namespace_ reference.accountIdentifier), w') ∧
      backend.password w' = backend.password w := by
  refine ⟨(backend.getPassword reference.namespace_ reference.accountIdentifier w).2, ?_,
    backend.password_getPassword ..⟩
  exact Prod.ext (congrArg orBackendError (backend.getPassword_fst ..)) rfl

theorem address_ne {r r' : CredentialReference} (h : r' ≠ r) :
    (r'.namespace_, r'.accountIdentifier) ≠ (r.namespace_, r.accountIdentifier) := by
  intro heq
  obtain ⟨hns, haccount⟩ := Prod.mk.inj heq
  cases r
  cases r'
  subst hns haccount
  exact h rfl

theorem orBackendError_eq_ok_iff {α : Type} {r : Except Raised α} {a : α} :
    orBackendError r = .ok a ↔ r = .ok a := by
  cases r with
  | error e => exact iff_of_false (fun h => nomatch h) fun h => nomatch h
  | ok b => exact Iff.rfl

/-- The adapter keeps the contract of a credential store. -/
def credentialStore (backend : KeyringBackend W) : CredentialStore W where
  store := store backend
  get := get backend
  delete := delete backend
  held w reference := backend.password w reference.namespace_ reference.accountIdentifier
  get_fst r w := by
    obtain ⟨w', hget, -⟩ := getPassword_eq backend r w
    rw [get, hget]
    rfl
  held_get r w := by
    obtain ⟨w', hget, hsame⟩ := getPassword_eq backend r w
    funext r'
    rw [get, hget, hsame]
  held_store r m replace w hok := by
    obtain ⟨w', hget, -⟩ := getPassword_eq backend r w
    rw [store, hget] at hok ⊢
    simp only at hok ⊢
    split_ifs at hok ⊢
    exact backend.password_setPassword _ _ _ _ (orBackendError_eq_ok_iff.mp hok)
  held_store_of_ne r m replace w r' hr := by
    obtain ⟨w', hget, hsame⟩ := getPassword_eq backend r w
    rw [store, hget]
    simp only
    split_ifs
    · rw [hsame]
    · rw [backend.password_setPassword_of_ne _ _ _ _ _ _ (address_ne hr), hsame]
  store_refuses r m w hheld := by
    obtain ⟨w', hget, hsame⟩ := getPassword_eq backend r w
    have hexists := Option.ne_none_iff_isSome.mp hheld
    rw [store, hget]
    simp only [hexists, Bool.false_eq_true, not_false_eq_true, and_self, if_true]
    exact ⟨fun h => (nomatch h), by rw [hsame]⟩
  held_delete_of_ne r w r' hr := by
    obtain ⟨w', hget, hsame⟩ := getPassword_eq backend r w
    rw [delete, hget]
    cases backend.password w r.namespace_ r.accountIdentifier with
    | none => simp only [hsame]
    | some existing =>
      simp only
      rw [backend.password_deletePassword_of_ne _ _ _ _ _ (address_ne hr), hsame]

end MacOSKeychainCredentialStore

end Velox
