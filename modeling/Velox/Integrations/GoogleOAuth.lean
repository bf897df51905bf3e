import Velox.Core.Credentials
import Velox.Integrations.GoogleProvider
import Velox.Integrations.JsonDocument
import Velox.Python.Time

/-!
# Google OAuth

Connecting an account stores refresh-capable material under the account identifier;
the credentials provider reads it back, and the operator's `verify` command reports
whether it could. Authorization, identity verification and the Google credentials
object are calls, as are those of the credential store.

## Main definitions

* `GoogleOAuthCalls`, `googleOAuthOf` — the calls, over Google and a credential store
* `GoogleOAuthBootstrapService.connect`
* `StoredGoogleCredentialsProvider.getCredentials`,
  `StoredGoogleCredentialsProvider.parseCredentialMaterial`
* `GoogleOAuthCli.verify` — the operator's `verify` command
-/

set_option autoImplicit false

namespace Velox

def GOOGLE_OAUTH_CREDENTIAL_NAMESPACE : String := "velox.google.oauth"

def GOOGLE_OAUTH_SCOPES : List String :=
  ["openid", "email", "https://www.googleapis.com/auth/calendar.events.readonly"]

/-! ### Calls -/

/-- A credentials object of google-auth, by the attributes the server reads. Reading
one of the first four may raise. -/
structure Credentials where
  refreshToken : Except Raised Value
  idToken : Except Raised Value
  clientId : Except Raised Value
  clientSecret : Except Raised Value
  token : Value
  /-- `expiry` in UTC, if it is a `datetime`. -/
  expiry : Option DateTime

/-- What refreshing credentials can raise. -/
inductive RefreshRaised
  | transportError
  | refreshError (retryable : Bool)
  | other (e : Raised)

/-- What is asked of Google and its libraries. -/
inductive GoogleAuthCall
  | authorize (clientSecretsFile : String) (scopes : List String)
  | verify (token audience : String)
  | fromAuthorizedUserInfo (info : List (String × Value))
  | refresh (credentials : Credentials)

/-- Google's calls with their replies. -/
@[reducible] def GoogleAuthCalls : Signature where
  Call := GoogleAuthCall
  Reply
    | .authorize _ _ => Except Raised (Option Credentials)
    | .verify _ _ => Except Raised (Option Dict)
    | .fromAuthorizedUserInfo _ => Except Raised (Option Credentials)
    | .refresh _ => Except RefreshRaised Credentials

/-- The calls of connecting and reading back. -/
inductive GoogleOAuthCall
  | google (call : GoogleAuthCall)
  | store (reference : CredentialReference) (material : CredentialMaterial) (replace : Bool)
  | get (reference : CredentialReference)

/-- The calls with their replies. -/
@[reducible] def GoogleOAuthCalls : Signature where
  Call := GoogleOAuthCall
  Reply
    | .google call => GoogleAuthCalls.Reply call
    | .store _ _ _ => Except Raised Unit
    | .get _ => Except Raised (Option CredentialMaterial)

/-- Google over one world, and a credential store over another. -/
def googleOAuthOf {G S : Type} (google : Handler GoogleAuthCalls G) (store : CredentialStore S) :
    Handler GoogleOAuthCalls (G × S)
  | .google call, (g, s) => ((google call g).1, (google call g).2, s)
  | .store reference material replace, (g, s) =>
    ((store.store reference material replace s).1, g, (store.store reference material replace s).2)
  | .get reference, (g, s) => ((store.get reference s).1, g, (store.get reference s).2)

/-- A method of the OAuth services. -/
abbrev OAuthTask (ε α : Type) := Proc GoogleOAuthCalls Unit ε α

/-! ### Connecting -/

/-- `GoogleOAuthBootstrapError`. -/
def bootstrapError : Raised :=
  ⟨.exception "GoogleOAuthBootstrapError", "Google OAuth bootstrap failed"⟩

/-- `GoogleOAuthAccountMismatchError`. -/
def accountMismatchError : Raised :=
  ⟨.exception "GoogleOAuthAccountMismatchError",
    "authenticated Google account does not match expected account"⟩

/-- Explicit inputs for connecting one VELOX account to one Google account. -/
structure GoogleOAuthConnectRequest where
  clientSecretsFile : String
  accountIdentifier : String
  expectedGoogleEmail : String
  replace : Bool := false

/-- Safe metadata returned after a verified Google OAuth connection. -/
structure GoogleOAuthConnectResult where
  credentialReference : CredentialReference
  accountIdentifier : String
  verifiedGoogleEmail : String
  scopes : List String

/-- What is worth keeping of an authorization. -/
structure StoredCredential where
  clientId : String
  clientSecret : String
  refreshToken : String
  deriving DecidableEq

/-- The document that is persisted. -/
def StoredCredential.document (credential : StoredCredential) :
    List (String × JsonDocument.Item) :=
  [("client_id", .text credential.clientId), ("client_secret", .text credential.clientSecret),
    ("refresh_token", .text credential.refreshToken), ("scopes", .texts GOOGLE_OAUTH_SCOPES)]

/-- `CredentialMaterial(json.dumps(...))`; what `dumps` writes is never empty. -/
def StoredCredential.material (credential : StoredCredential) : CredentialMaterial :=
  ⟨JsonDocument.dumps credential.document, JsonDocument.dumps_ne_empty _⟩

namespace GoogleOAuthBootstrapService

/-- `except Exception`, and a reply of `None`, are bootstrap errors. -/
def orBootstrapError {α : Type} : Except Raised (Option α) → Except Raised α
  | .ok (some a) => .ok a
  | .ok none => .error bootstrapError
  | .error e => .error (if e.isException then bootstrapError else e)

/-- `_validate_request`. -/
def validateRequest (request : GoogleOAuthConnectRequest) : Except Raised Unit := do
  .raiseIf (Python.strip request.clientSecretsFile = "") bootstrapError
  .raiseIf (Python.strip request.accountIdentifier = "") bootstrapError
  .raiseIf (Python.strip request.expectedGoogleEmail = "") bootstrapError

/-- `_require_non_blank_string`. -/
def requireNonBlankString : Value → Except Raised String
  | .str s => if Python.strip s = "" then .error bootstrapError else .ok s
  | _ => .error bootstrapError

/-- The attributes of the authorized credentials. All are read before any is checked. -/
def credentialFields (credentials : Credentials) : Except Raised (StoredCredential × String) := do
  let rawRefreshToken ← orBootstrapError (credentials.refreshToken.map some)
  let rawIdentityToken ← orBootstrapError (credentials.idToken.map some)
  let rawClientId ← orBootstrapError (credentials.clientId.map some)
  let rawClientSecret ← orBootstrapError (credentials.clientSecret.map some)
  let refreshToken ← requireNonBlankString rawRefreshToken
  let identityToken ← requireNonBlankString rawIdentityToken
  let clientId ← requireNonBlankString rawClientId
  let clientSecret ← requireNonBlankString rawClientSecret
  return ({ clientId, clientSecret, refreshToken }, identityToken)

/-- `_verified_email`. -/
def verifiedEmail (identity : Dict) : Except Raised String :=
  if identity.get "email_verified" ≠ some (.bool true) then .error bootstrapError
  else match identity.get "email" with
    | some (.str email) =>
      if Python.strip email = "" then .error bootstrapError else .ok (Python.strip email)
    | _ => .error bootstrapError

/-- The exceptions of a store that are passed on; any other is a bootstrap error. -/
def storageError (e : Raised) : Raised :=
  if e.kind = credentialAlreadyExistsError.kind ∨ e.kind = credentialStoreBackendError.kind then e
  else if e.isException then bootstrapError
  else e

/-- `connect`. -/
@[irreducible] def connect [PyStd] (request : GoogleOAuthConnectRequest) :
    OAuthTask Raised GoogleOAuthConnectResult := do
  Proc.ofExcept (validateRequest request)
  let credentials ← Proc.request GoogleOAuthCalls
    (.google (.authorize request.clientSecretsFile GOOGLE_OAUTH_SCOPES)) orBootstrapError
  let (credential, identityToken) ← Proc.ofExcept (credentialFields credentials)
  let identity ← Proc.request GoogleOAuthCalls
    (.google (.verify identityToken credential.clientId)) orBootstrapError
  let verifiedEmail ← Proc.ofExcept (verifiedEmail identity)
  Proc.ofExcept (.raiseIf
    (PyStd.casefold verifiedEmail ≠ PyStd.casefold (Python.strip request.expectedGoogleEmail))
    accountMismatchError)
  let reference ← Proc.ofExcept
    (CredentialReference.new GOOGLE_OAUTH_CREDENTIAL_NAMESPACE request.accountIdentifier)
  Proc.request GoogleOAuthCalls (.store reference credential.material request.replace)
    fun reply => reply.mapError storageError
  return {
    credentialReference := reference
    accountIdentifier := request.accountIdentifier
    verifiedGoogleEmail := verifiedEmail
    scopes := GOOGLE_OAUTH_SCOPES }

end GoogleOAuthBootstrapService

/-! ### The material -/

/-- `isinstance(value, str) and value.strip()`. -/
def isNonBlankText : Value → Bool
  | .str s => Python.strip s ≠ ""
  | _ => false

/-- The checks a parsed material must pass, its keys being the given ones. -/
def MaterialChecks (fields : List String) (parsed : List (String × Value)) : Prop :=
  ((∀ key ∈ parsed.map Prod.fst, key ∈ fields) ∧ ∀ key ∈ fields, key ∈ parsed.map Prod.fst) ∧
    (∀ key ∈ ["client_id", "client_secret", "refresh_token"],
      isNonBlankText (Value.field parsed key)) ∧
    Value.field parsed "scopes" = .list (GOOGLE_OAUTH_SCOPES.map .str)

instance (fields : List String) (parsed : List (String × Value)) :
    Decidable (MaterialChecks fields parsed) :=
  inferInstanceAs (Decidable ((_ ∧ _) ∧ _ ∧ _))

namespace StoredGoogleCredentialsProvider

/-- `_STORED_GOOGLE_CREDENTIAL_FIELDS`. -/
def storedGoogleCredentialFields : List String :=
  ["client_id", "client_secret", "refresh_token", "scopes"]

/-- `GoogleCredentialsProviderError` with a failure of the given form. -/
def failure (category : WorkerExecutionFailureCategory) (message : String) (statusCode : ℤ)
    (reason : String) (retryable : Bool := false) (metadata : Dict := ∅) : CredentialsRaised :=
  .credentialsProviderError {
    category
    message
    retryable
    providerStatusCode := some statusCode
    providerReason := some reason
    metadata }

/-- `_validate_routing_identifier`. -/
def validateRoutingIdentifier (value : Option String) (fieldName : String) :
    Except CredentialsRaised String :=
  let invalid := failure .permanent ("Google credentials request has invalid " ++ fieldName) 400
    "invalidAccountContext" false (.ofList [("field", .str fieldName)])
  match value with
  | none => .error invalid
  | some value =>
    if Python.strip value = "" ∨ value ≠ Python.strip value then .error invalid else .ok value

/-- `_raise_malformed_credentials`. -/
def malformedCredentials : CredentialsRaised :=
  failure .permanent "Stored Google credentials are invalid; reconnect is required" 401
    "reconnectRequired"

/-- What the credential store answered, with its failures translated. -/
def storedMaterial : Except Raised (Option CredentialMaterial) →
    Except CredentialsRaised CredentialMaterial
  | .ok (some material) => .ok material
  | .ok none => .error (failure .permanent
      "Google credentials are unavailable; reconnect is required" 401 "reconnectRequired")
  | .error e =>
    .error (if e.kind = credentialStoreBackendError.kind then
      failure .transient "Google credential store is unavailable" 503
        "credentialStoreUnavailable" true
    else if e.isException then
      failure .internal "Google credentials could not be resolved" 500 "internalCredentialsError"
    else .other e)

/-- `_parse_credential_material`. -/
def parseCredentialMaterial [PyJson] (serialized : String) :
    Except CredentialsRaised (List (String × Value)) :=
  match PyJson.loads serialized with
  | .error e => .error (if e.isException then malformedCredentials else .other e)
  | .ok (.dict parsed) =>
    if MaterialChecks storedGoogleCredentialFields parsed then
      .ok [("client_id", Value.field parsed "client_id"),
        ("client_secret", Value.field parsed "client_secret"),
        ("refresh_token", Value.field parsed "refresh_token"),
        ("scopes", .list (GOOGLE_OAUTH_SCOPES.map .str))]
    else .error malformedCredentials
  | .ok _ => .error malformedCredentials

/-- The credentials object google-auth built. -/
def reconstructed : Except Raised (Option Credentials) → Except CredentialsRaised Credentials
  | .ok (some credentials) => .ok credentials
  | .ok none => .error malformedCredentials
  | .error e => .error (if e.isException then malformedCredentials else .other e)

/-- How a failure to refresh is reported. -/
def refreshFailure : RefreshRaised → CredentialsRaised
  | .transportError => failure .transient "Google credential refresh is temporarily unavailable"
      503 "credentialRefreshUnavailable" true
  | .refreshError true => failure .transient
      "Google credential refresh is temporarily unavailable" 503 "credentialRefreshUnavailable" true
  | .refreshError false => failure .permanent
      "Google credentials are invalid; reconnect is required" 401 "reconnectRequired"
  | .other e =>
    if e.isException then
      failure .internal "Google credentials could not be refreshed" 500 "internalCredentialsError"
    else .other e

/-- `_safe_expiry`. -/
def safeExpiry (expiry : Option DateTime) : Option String :=
  expiry.map fun t => t.isoformat.replace "+00:00" "Z"

/-- The access token of refreshed credentials, for the given routing identity. -/
def accessGranted (principal account : String) (credentials : Credentials) :
    Except CredentialsRaised GoogleCredentials :=
  match credentials.token with
  | .str accessToken =>
    if Python.strip accessToken = "" then
      .error (failure .permanent "Google credentials are invalid; reconnect is required" 401
        "reconnectRequired")
    else .ok { accessToken, principal, account, expiresAt := safeExpiry credentials.expiry }
  | _ => .error (failure .permanent "Google credentials are invalid; reconnect is required" 401
      "reconnectRequired")

/-- What follows parsing: the credentials are rebuilt and refreshed. -/
def refreshed (principal account : String) (info : List (String × Value)) :
    OAuthTask CredentialsRaised GoogleCredentials := do
  let credentials ← Proc.request GoogleOAuthCalls (.google (.fromAuthorizedUserInfo info))
    reconstructed
  let credentials ← Proc.request GoogleOAuthCalls (.google (.refresh credentials))
    fun reply => reply.mapError refreshFailure
  Proc.ofExcept (accessGranted principal account credentials)

/-- `get_credentials`. -/
def getCredentials [PyJson] (principal account : Option String) :
    OAuthTask CredentialsRaised GoogleCredentials := do
  let principal ← Proc.ofExcept (validateRoutingIdentifier principal "principal")
  let account ← Proc.ofExcept (validateRoutingIdentifier account "account")
  let reference ← Proc.ofExcept
    ((CredentialReference.new GOOGLE_OAUTH_CREDENTIAL_NAMESPACE account).mapError .other)
  let material ← Proc.request GoogleOAuthCalls (.get reference) storedMaterial
  let info ← Proc.ofExcept (parseCredentialMaterial material.value)
  refreshed principal account info

end StoredGoogleCredentialsProvider

/-! ### The operator's command -/

/-- The failure codes of `verify`. -/
inductive GoogleOAuthCliFailureCode
  | invalidInput
  | credentialStoreUnavailable
  | credentialMissing
  | credentialMalformed
  deriving DecidableEq

/-- What `verify` can raise. -/
inductive CliRaised
  /-- `GoogleOAuthCliError`. -/
  | cliError (code : GoogleOAuthCliFailureCode)
  | other (e : Raised)

namespace GoogleOAuthCli

/-- `_EXPECTED_CREDENTIAL_FIELDS`. -/
def expectedCredentialFields : List String :=
  ["client_id", "client_secret", "refresh_token", "scopes"]

/-- `_FORBIDDEN_PERSISTED_FIELDS`. -/
def forbiddenPersistedFields : List String := ["access_token", "id_token", "token"]

/-- What the credential store answered. -/
def presentMaterial : Except Raised (Option CredentialMaterial) → Except CliRaised CredentialMaterial
  | .ok (some material) => .ok material
  | .ok none => .error (.cliError .credentialMissing)
  | .error e =>
    .error (if e.kind = credentialStoreBackendError.kind then .cliError .credentialStoreUnavailable
      else .other e)

/-- The persisted document, if it is refresh-capable. -/
def wellFormedMaterial [PyJson] (serialized : String) : Except CliRaised (List (String × Value)) :=
  match PyJson.loads serialized with
  | .error e => .error (if e.isException then .cliError .credentialMalformed else .other e)
  | .ok (.dict parsed) =>
    if MaterialChecks expectedCredentialFields parsed then .ok parsed
    else .error (.cliError .credentialMalformed)
  | .ok _ => .error (.cliError .credentialMalformed)

/-- The report on a usable credential. -/
def report (accountIdentifier : String) (parsed : List (String × Value)) : Dict :=
  .ofList [("status", .str "succeeded"), ("command", .str "verify"),
    ("credential_namespace", .str GOOGLE_OAUTH_CREDENTIAL_NAMESPACE),
    ("account_identifier", .str accountIdentifier), ("credential_present", .bool true),
    ("material_parses", .bool true), ("refresh_token_present", .bool true),
    ("client_id_present", .bool true), ("client_secret_present", .bool true),
    ("scopes", .list (GOOGLE_OAUTH_SCOPES.map .str)),
    ("persisted_forbidden_fields", .list ((forbiddenPersistedFields.filter
      fun field => field ∈ parsed.map Prod.fst).map .str))]

/-- `_verify`. -/
def verify [PyJson] (accountIdentifier : String) : OAuthTask CliRaised Dict := do
  Proc.ofExcept (.raiseIf
    (Python.strip accountIdentifier = "" ∨ accountIdentifier ≠ Python.strip accountIdentifier)
    (.cliError .invalidInput))
  let reference ← Proc.ofExcept
    ((CredentialReference.new GOOGLE_OAUTH_CREDENTIAL_NAMESPACE accountIdentifier).mapError .other)
  let material ← Proc.request GoogleOAuthCalls (.get reference) presentMaterial
  let parsed ← Proc.ofExcept (wellFormedMaterial material.value)
  return report accountIdentifier parsed

end GoogleOAuthCli

end Velox
