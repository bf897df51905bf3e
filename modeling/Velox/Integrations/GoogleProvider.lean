import Velox.Lib.Effect
import Velox.Workers.Executor

/-!
# The Google provider boundary

Credentials resolution, transport and their composition, which every Google
integration shares. What a credentials provider and a transport do is left to a
handler; the deterministic fakes are given in full.

Response headers are left out: nothing reads them.

## Main definitions

* `GoogleProviderRequest`, `GoogleProviderResponse`, `GoogleProviderFailure`
* `ProviderCalls`, `GoogleCalls` — the calls an integration and the composition make
* `GoogleProviderComposition.execute`
* `FakeGoogleCredentialsProvider`, `FakeGoogleTransportClient`

## Main results

* `GoogleProviderComposition.provider_of_credentials` — with credentials for the
  account of the request, the composition is its transport
-/

set_option autoImplicit false

namespace Velox

/-- Provider-facing Google credential material. -/
structure GoogleCredentials where
  accessToken : String
  principal : String
  account : String
  tokenType : String := "Bearer"
  expiresAt : Option String := none

/-- Provider transport request behind a Google integration boundary. -/
structure GoogleProviderRequest where
  operation : String
  path : String
  method : String := "GET"
  body : Option Dict := none
  query : Dict := ∅
  accountContext : Option WorkerAccountContext := none

/-- Provider failure mapping shape for Google adapters. -/
structure GoogleProviderFailure where
  category : WorkerExecutionFailureCategory
  message : String
  retryable : Bool := false
  providerStatusCode : Option ℤ := none
  providerReason : Option String := none
  metadata : Dict := ∅

/-- Provider transport response behind a Google integration boundary. -/
structure GoogleProviderResponse where
  statusCode : ℤ
  body : Dict := ∅
  failure : Option GoogleProviderFailure := none

/-- What `get_credentials` can raise. -/
inductive CredentialsRaised
  /-- `GoogleCredentialsProviderError`. -/
  | credentialsProviderError (failure : GoogleProviderFailure)
  /-- Any other exception. -/
  | other (e : Raised)

/-- `provider_status_code or 500`. -/
def GoogleProviderFailure.statusCode (failure : GoogleProviderFailure) : ℤ :=
  match failure.providerStatusCode with
  | none | some 0 => 500
  | some code => code

/-! ### Calls -/

/-- What an integration asks of a provider. -/
@[reducible] def ProviderCalls : Signature where
  Call := GoogleProviderRequest
  Reply _ := Except Raised GoogleProviderResponse

/-- The calls of a provider composition. -/
inductive GoogleCall
  | getCredentials (principal account : Option String)
  | transport (request : GoogleProviderRequest) (credentials : GoogleCredentials)

/-- What a provider composition is made of. -/
@[reducible] def GoogleCalls : Signature where
  Call := GoogleCall
  Reply
    | .getCredentials _ _ => Except CredentialsRaised GoogleCredentials
    | .transport _ _ => Except Raised GoogleProviderResponse

/-- A credentials provider and a transport over some world. -/
def googleOf {W : Type}
    (getCredentials : Option String → Option String → W →
      Except CredentialsRaised GoogleCredentials × W)
    (transport : GoogleProviderRequest → GoogleCredentials → W →
      Except Raised GoogleProviderResponse × W) : Handler GoogleCalls W
  | .getCredentials principal account, w => getCredentials principal account w
  | .transport request credentials, w => transport request credentials w

/-! ### The composition -/

namespace GoogleProviderComposition

/-- The response to a request the composition itself rejects. -/
def failureResponse (service : String) (request : GoogleProviderRequest) (statusCode : ℤ)
    (failure : GoogleProviderFailure) : GoogleProviderResponse where
  statusCode
  body := .ofList [("external_execution_performed", .bool false), ("integration", .str service),
    ("adapter", .str "fake_provider_composition"), ("operation", .str request.operation),
    ("failed", .bool true)]
  failure

/-- Resolve the credentials and hand the request to the transport. -/
def resolve (service : String) (request : GoogleProviderRequest)
    (principal account : Option String) :
    Prog GoogleCalls (Except Raised GoogleProviderResponse) :=
  .call (F := GoogleCalls) (.getCredentials principal account) fun
    | .error (.credentialsProviderError failure) =>
      .ret (.ok (failureResponse service request failure.statusCode failure))
    | .error (.other e) => .ret (.error e)
    | .ok credentials => .call (F := GoogleCalls) (.transport request credentials) .ret

/-- `GoogleProviderComposition.execute`: an account context of the request decides,
and a principal or account supplied beside it must agree. -/
def execute (service : String) (request : GoogleProviderRequest)
    (principal account : Option String := none) :
    Prog GoogleCalls (Except Raised GoogleProviderResponse) :=
  match request.accountContext with
  | none => resolve service request principal account
  | some context =>
    if (principal.isSome ∧ principal.map Python.strip ≠ context.principal) ∨
        (account.isSome ∧ account.map Python.strip ≠ some context.accountIdentifier) then
      .ret (.ok (failureResponse service request 400 {
        category := .permanent
        message := service ++ " provider request account context mismatch"
        metadata := .ofList [("field", .str "account_context")] }))
    else resolve service request context.principal context.accountIdentifier

/-- The composition, as the provider of an integration. -/
def provider {W : Type} (service : String) (h : Handler GoogleCalls W) : Handler ProviderCalls W :=
  fun request w => (execute service request).run h w

variable {W : Type} {h : Handler GoogleCalls W} {service : String}
  {request : GoogleProviderRequest} {credentials : GoogleCredentials} {w w' : W}

/-- With credentials for the account of the request, the composition is its
transport. -/
theorem provider_of_credentials
    (hcredentials : h (.getCredentials (request.accountContext.bind (·.principal))
      (request.accountContext.map (·.accountIdentifier))) w = (.ok credentials, w')) :
    provider service h request w = h (.transport request credentials) w' := by
  obtain ⟨operation, path, method, body, query, context⟩ := request
  have hresolve : ∀ principal account, h (.getCredentials principal account) w =
      (.ok credentials, w') → ∀ request, (resolve service request principal account).run h w =
        h (.transport request credentials) w' := by
    intro principal account hok request
    simp only [resolve, Prog.run_call, hok, Prog.run_ret]
  rcases context with _ | context
  · exact hresolve none none hcredentials _
  · simp only [provider, execute, Option.isSome_none, Bool.false_eq_true, false_and, or_self,
      if_false]
    exact hresolve context.principal (some context.accountIdentifier) hcredentials _

end GoogleProviderComposition

/-! ### The fakes -/

/-- Deterministic credentials provider with no OAuth or storage. -/
structure FakeGoogleCredentialsProvider where
  service : String
  failures : OrderedDict String GoogleProviderFailure := ∅

namespace FakeGoogleCredentialsProvider

variable (provider : FakeGoogleCredentialsProvider)

/-- `_normalize_identifier`. -/
def normalizeIdentifier (value : Option String) (fieldName : String) :
    Except CredentialsRaised String :=
  match value.map Python.strip with
  | none | some "" => throw (.credentialsProviderError {
      category := .permanent
      message := provider.service ++ " credentials request missing " ++ fieldName
      metadata := .ofList [("field", .str fieldName)] })
  | some value => return value

/-- `get_credentials`. -/
def getCredentials (principal account : Option String) :
    Except CredentialsRaised GoogleCredentials := do
  let principal ← provider.normalizeIdentifier principal "principal"
  let account ← provider.normalizeIdentifier account "account"
  let failure := provider.failures.get (principal ++ ":" ++ account) <|>
    provider.failures.get principal <|> provider.failures.get account
  match failure with
  | some failure => throw (.credentialsProviderError failure)
  | none => return {
      accessToken := "fake-" ++ provider.service ++ "-access-token:" ++ principal ++ ":" ++ account
      principal
      account
      expiresAt := "2099-01-01T00:00:00Z" }

end FakeGoogleCredentialsProvider

/-- Deterministic Google transport with no HTTP or provider API behavior. -/
structure FakeGoogleTransportClient where
  service : String
  responses : OrderedDict String GoogleProviderResponse := ∅
  failures : OrderedDict String GoogleProviderFailure := ∅

namespace FakeGoogleTransportClient

variable (client : FakeGoogleTransportClient)

/-- `_request_key`. -/
def requestKey (request : GoogleProviderRequest) : String :=
  request.method ++ ":" ++ request.path ++ ":" ++ request.operation

/-- The service-neutral deterministic response. -/
def defaultResponse (request : GoogleProviderRequest) (credentials : GoogleCredentials) :
    GoogleProviderResponse where
  statusCode := 200
  body := .ofList [("external_execution_performed", .bool false),
    ("integration", .str client.service), ("adapter", .str "fake_transport"),
    ("operation", .str request.operation), ("path", .str request.path),
    ("method", .str request.method), ("token_type", .str credentials.tokenType),
    ("principal", .str credentials.principal), ("account", .str credentials.account)]

/-- The response to a request for which a failure is configured. -/
def failureResponse (request : GoogleProviderRequest) (failure : GoogleProviderFailure) :
    GoogleProviderResponse where
  statusCode := failure.statusCode
  body := .ofList [("external_execution_performed", .bool false),
    ("integration", .str client.service), ("adapter", .str "fake_transport"),
    ("operation", .str request.operation), ("failed", .bool true)]
  failure

/-- `execute`, with the default response of the service at hand. -/
def execute (defaultResponse : GoogleProviderRequest → GoogleCredentials →
      Except Raised GoogleProviderResponse)
    (request : GoogleProviderRequest) (credentials : GoogleCredentials) :
    Except Raised GoogleProviderResponse :=
  match client.failures.get (requestKey request) <|> client.failures.get request.operation with
  | some failure => return client.failureResponse request failure
  | none =>
    match client.responses.get (requestKey request) <|> client.responses.get request.operation with
    | some response => return response
    | none => defaultResponse request credentials

end FakeGoogleTransportClient

end Velox
