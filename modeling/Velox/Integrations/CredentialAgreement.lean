import Velox.Integrations.GoogleOAuth
import Velox.Lib.Run
import Velox.Lib.Transcript

/-!
# Stored credentials read back

Connecting an account and reading its credential back go through two validations of the
account identifier and a JSON document with a strict set of fields. Whatever the
connect service persists can be parsed; but it accepts an identifier with padding,
which the credentials provider rejects.

## Main definitions

* `IsRoutingIdentifier` — what the credentials provider accepts
* `StoreOperation`, `googleOAuthStep` — connects and deletions in one credential store
* `Authorized` — what an authorization leaves to persist
* `Reconstructs`, `PastParsing`, `Verifies` — what reading a credential back comes to
* `CredentialsAgree` — connecting, reading back and verifying agree

## Main results

* `parseCredentialMaterial_material` — whatever is persisted can be parsed
* `held_after_of_ne` — operations for other accounts leave an account's credential alone
* `verifies_iff_pastParsing` — `verify` reports success exactly for what can be parsed
* `credentialsAgree_iff` — the services agree exactly on unpadded account identifiers
-/

set_option autoImplicit false

namespace Velox

open GoogleOAuthBootstrapService StoredGoogleCredentialsProvider GoogleOAuthCli

/-! ### Vocabulary -/

/-- What `_validate_routing_identifier` accepts. -/
def IsRoutingIdentifier (s : String) : Prop := Python.strip s ≠ "" ∧ Python.strip s = s

instance (s : String) : Decidable (IsRoutingIdentifier s) := inferInstanceAs (Decidable (_ ∧ _))

/-- The reference of an account's Google credential. -/
def accountReference (account : String) (h : Python.strip account ≠ "") : CredentialReference :=
  ⟨GOOGLE_OAUTH_CREDENTIAL_NAMESPACE, account, by decide, h⟩

/-- What google-auth rebuilds a credential from. -/
def StoredCredential.info (credential : StoredCredential) : List (String × Value) :=
  [("client_id", .str credential.clientId), ("client_secret", .str credential.clientSecret),
    ("refresh_token", .str credential.refreshToken),
    ("scopes", .list (GOOGLE_OAUTH_SCOPES.map .str))]

/-- A connect or a deletion in a credential store. -/
inductive StoreOperation
  | connect (request : GoogleOAuthConnectRequest)
  | delete (reference : CredentialReference)

/-- The account identifier an operation is about. -/
def StoreOperation.account : StoreOperation → String
  | .connect request => request.accountIdentifier
  | .delete reference => reference.accountIdentifier

section Operations

variable [PyStd] {G S : Type} (google : Handler GoogleAuthCalls G) (store : CredentialStore S)

/-- Connect an account. -/
def connected (request : GoogleOAuthConnectRequest) (w : G × S) :
    Except Raised GoogleOAuthConnectResult × (G × S) :=
  (((connect request).run (googleOAuthOf google store) () w).1.1,
    ((connect request).run (googleOAuthOf google store) () w).2)

/-- What an operation does. -/
def googleOAuthStep (w : G × S) : StoreOperation → G × S
  | .connect request => (connected google store request w).2
  | .delete reference => (w.1, (store.delete reference w.2).2)

/-- What the authorization of a connect leaves to persist. -/
def Authorized (request : GoogleOAuthConnectRequest) (g : G) (credential : StoredCredential) :
    Prop :=
  ∃ credentials,
    (google (.authorize request.clientSecretsFile GOOGLE_OAUTH_SCOPES) g).1 =
        .ok (some credentials) ∧
      credentials.clientId = .ok (.str credential.clientId) ∧
      credentials.clientSecret = .ok (.str credential.clientSecret) ∧
      credentials.refreshToken = .ok (.str credential.refreshToken)

end Operations

section Reading

variable [PyJson] {W : Type} (h : Handler GoogleOAuthCalls W) (w : W)

/-- `get_credentials` finds a material under a reference of the account and hands
exactly the fields of the credential to google-auth; if google-auth rebuilds and refreshes
it, the token is returned. -/
structure ReconstructsFrom (principal account : String) (credential : StoredCredential)
    (reference : CredentialReference) (material : CredentialMaterial) : Prop where
  namespace_ : reference.namespace_ = GOOGLE_OAUTH_CREDENTIAL_NAMESPACE
  accountIdentifier : reference.accountIdentifier = account
  found : (h (.get reference) w).1 = .ok (some material)
  asked : ∃ reply rest, (getCredentials (some principal) (some account) ()).transcript h w =
    ⟨.get reference, .ok (some material)⟩ ::
      ⟨.google (.fromAuthorizedUserInfo credential.info), reply⟩ :: rest
  returned : ∀ built w' fresh w'' token,
    h (.google (.fromAuthorizedUserInfo credential.info)) (h (.get reference) w).2 =
      (.ok (some built), w') →
    h (.google (.refresh built)) w' = (.ok fresh, w'') →
    fresh.token = .str token → Python.strip token ≠ "" →
    ((getCredentials (some principal) (some account)).run h () w).1.1 =
      .ok { accessToken := token, principal, account, expiresAt := safeExpiry fresh.expiry }

/-- `get_credentials` reconstructs a credential. -/
def Reconstructs (principal account : String) (credential : StoredCredential) : Prop :=
  ∃ reference material, ReconstructsFrom h w principal account credential reference material

/-- `get_credentials` gets past parsing: it hands something to google-auth. -/
def PastParsing (principal account : String) : Prop :=
  ∃ info reply, (⟨.google (.fromAuthorizedUserInfo info), reply⟩ : Exchange GoogleOAuthCalls) ∈
    (getCredentials (some principal) (some account) ()).transcript h w

/-- The operator's `verify` command reports success. -/
def Verifies (account : String) : Prop :=
  ∃ report, ((verify account).run h () w).1.1 = .ok report

end Reading

/-- Connecting, reading back and verifying agree after a connect. -/
structure CredentialsAgree [PyStd] [PyJson] {G S : Type} (google : Handler GoogleAuthCalls G)
    (store : CredentialStore S) (request : GoogleOAuthConnectRequest) (w : G × S)
    (result : GoogleOAuthConnectResult) : Prop where
  /-- Whatever happens to other accounts, the credential reads back as it was
  authorized. -/
  finds : ∃ credential, Authorized google request w.1 credential ∧
    ∀ operations : List StoreOperation, (∀ o ∈ operations, o.account ≠ result.accountIdentifier) →
      ∀ principal, IsRoutingIdentifier principal →
        Reconstructs (googleOAuthOf google store)
          (Run.after (googleOAuthStep google store) (connected google store request w).2 operations)
          principal result.accountIdentifier credential
  /-- Only what is held under an account's own reference reaches google-auth for it. -/
  isolated : ∀ (w : G × S) (principal account : String) info reply,
    (⟨.google (.fromAuthorizedUserInfo info), reply⟩ : Exchange GoogleOAuthCalls) ∈
      (getCredentials (some principal) (some account) ()).transcript (googleOAuthOf google store) w →
    ∃ reference text, reference.namespace_ = GOOGLE_OAUTH_CREDENTIAL_NAMESPACE ∧
      reference.accountIdentifier = account ∧ store.held w.2 reference = some text ∧
      parseCredentialMaterial text = .ok info
  /-- Operations for other accounts leave what is held under a reference alone. -/
  undisturbed : ∀ (w : G × S) (operations : List StoreOperation) (reference : CredentialReference),
    (∀ o ∈ operations, o.account ≠ reference.accountIdentifier) →
      store.held (Run.after (googleOAuthStep google store) w operations).2 reference =
        store.held w.2 reference
  /-- Connecting without `replace` overwrites nothing. -/
  overwritesNothing : ∀ (w : G × S) (request : GoogleOAuthConnectRequest), request.replace = false →
    ∀ reference text, store.held w.2 reference = some text →
      store.held (connected google store request w).2.2 reference = some text
  /-- `verify` reports success exactly when `get_credentials` gets past parsing. -/
  verified : ∀ (w : G × S) (principal account : String), IsRoutingIdentifier principal →
    (Verifies (googleOAuthOf google store) w account ↔
      PastParsing (googleOAuthOf google store) w principal account)

/-! ### Whatever is persisted can be parsed -/

theorem mapped_eq_ok {r : Except Raised Value} {v : Value}
    (h : orBootstrapError (r.map some) = .ok v) : r = .ok v := by
  cases r with
  | error e => exact nomatch h
  | ok u => exact congrArg Except.ok (Except.ok.inj h)

theorem requireNonBlankString_eq_ok {v : Value} {s : String}
    (h : requireNonBlankString v = .ok s) : v = .str s ∧ Python.strip s ≠ "" := by
  cases v with
  | str t =>
    rw [requireNonBlankString] at h
    split_ifs at h with hblank
    obtain rfl := Except.ok.inj h
    exact ⟨rfl, hblank⟩
  | _ => exact nomatch h

/-- The fields of an authorization are the attributes of its credentials, and none is
blank. -/
theorem credentialFields_eq_ok {credentials : Credentials} {credential : StoredCredential}
    {identityToken : String} (h : credentialFields credentials = .ok (credential, identityToken)) :
    (credentials.clientId = .ok (.str credential.clientId) ∧
      credentials.clientSecret = .ok (.str credential.clientSecret) ∧
      credentials.refreshToken = .ok (.str credential.refreshToken)) ∧
    Python.strip credential.clientId ≠ "" ∧ Python.strip credential.clientSecret ≠ "" ∧
      Python.strip credential.refreshToken ≠ "" := by
  rw [credentialFields] at h
  obtain ⟨rawRefreshToken, hraw, h⟩ := Except.bind_eq_ok_iff.mp h
  obtain ⟨rawIdentityToken, -, h⟩ := Except.bind_eq_ok_iff.mp h
  obtain ⟨rawClientId, hrawId, h⟩ := Except.bind_eq_ok_iff.mp h
  obtain ⟨rawClientSecret, hrawSecret, h⟩ := Except.bind_eq_ok_iff.mp h
  obtain ⟨refreshToken, hrefresh, h⟩ := Except.bind_eq_ok_iff.mp h
  obtain ⟨_, -, h⟩ := Except.bind_eq_ok_iff.mp h
  obtain ⟨clientId, hid, h⟩ := Except.bind_eq_ok_iff.mp h
  obtain ⟨clientSecret, hsecret, h⟩ := Except.bind_eq_ok_iff.mp h
  obtain ⟨rfl, -⟩ := Prod.mk.inj (Except.ok.inj h)
  obtain ⟨rfl, hrefreshText⟩ := requireNonBlankString_eq_ok hrefresh
  obtain ⟨rfl, hidText⟩ := requireNonBlankString_eq_ok hid
  obtain ⟨rfl, hsecretText⟩ := requireNonBlankString_eq_ok hsecret
  exact ⟨⟨mapped_eq_ok hrawId, mapped_eq_ok hrawSecret, mapped_eq_ok hraw⟩, hidText, hsecretText,
    hrefreshText⟩

/-- A persisted document reads back, field by field. -/
theorem parseCredentialMaterial_material [PyJsonDumps] {credential : StoredCredential}
    (hid : Python.strip credential.clientId ≠ "") (hsecret : Python.strip credential.clientSecret ≠ "")
    (hrefresh : Python.strip credential.refreshToken ≠ "") :
    parseCredentialMaterial credential.material.value = .ok credential.info := by
  have hsorted : credential.document.Pairwise fun e f => e.1 < f.1 := by
    have hkeys : (["client_id", "client_secret", "refresh_token", "scopes"] : List String).Pairwise
        (· < ·) := by decide
    exact List.pairwise_map.mp (show (credential.document.map Prod.fst).Pairwise (· < ·) from hkeys)
  have hloads : PyJson.loads credential.material.value = .ok (.dict credential.info) :=
    PyJsonDumps.loads_dumps hsorted
  have hchecks : MaterialChecks storedGoogleCredentialFields credential.info := by
    refine ⟨⟨fun key hkey => hkey, fun key hkey => hkey⟩, fun key hkey => ?_, rfl⟩
    simp only [List.mem_cons, List.not_mem_nil, or_false] at hkey
    rcases hkey with rfl | rfl | rfl
    · exact decide_eq_true hid
    · exact decide_eq_true hsecret
    · exact decide_eq_true hrefresh
  rw [parseCredentialMaterial, hloads]
  exact if_pos hchecks

/-! ### Reading a credential back -/

theorem validateRoutingIdentifier_of_valid {s fieldName : String} (hs : IsRoutingIdentifier s) :
    validateRoutingIdentifier (some s) fieldName = .ok s := by
  rw [validateRoutingIdentifier]
  exact if_neg fun h => h.elim hs.1 fun hne => hne hs.2.symm

theorem validateRoutingIdentifier_of_not_valid {s : String} (fieldName : String)
    (hs : ¬IsRoutingIdentifier s) : ∃ e, validateRoutingIdentifier (some s) fieldName = .error e := by
  refine ⟨_, if_pos ?_⟩
  by_contra hvalid
  obtain ⟨hblank, hpadded⟩ := not_or.mp hvalid
  exact hs ⟨hblank, (not_not.mp hpadded).symm⟩

theorem storedMaterial_eq_ok {r : Except Raised (Option CredentialMaterial)}
    {material : CredentialMaterial} (hr : storedMaterial r = .ok material) :
    r = .ok (some material) := by
  rcases r with e | _ | found
  · exact nomatch hr
  · exact nomatch hr
  · exact congrArg (fun m => Except.ok (some m)) (Except.ok.inj hr)

theorem presentMaterial_eq_ok {r : Except Raised (Option CredentialMaterial)}
    {material : CredentialMaterial} (hr : presentMaterial r = .ok material) :
    r = .ok (some material) := by
  rcases r with e | _ | found
  · exact nomatch hr
  · exact nomatch hr
  · exact congrArg (fun m => Except.ok (some m)) (Except.ok.inj hr)

section Reading

variable [PyJson] {W : Type} {h : Handler GoogleOAuthCalls W} {w : W} {principal account : String}

/-- With a valid routing identity the store is asked for the account's reference. -/
theorem getCredentials_of_valid (hprincipal : IsRoutingIdentifier principal)
    (haccount : IsRoutingIdentifier account) :
    getCredentials (some principal) (some account) =
      Proc.request GoogleOAuthCalls (.get (accountReference account haccount.1)) storedMaterial >>=
        fun material => Proc.ofExcept (parseCredentialMaterial material.value) >>=
          refreshed principal account := by
  have hreference : CredentialReference.new GOOGLE_OAUTH_CREDENTIAL_NAMESPACE account =
      .ok (accountReference account haccount.1) :=
    CredentialReference.new_eq_ok (by decide) haccount.1
  simp only [getCredentials, validateRoutingIdentifier_of_valid hprincipal,
    validateRoutingIdentifier_of_valid haccount, Proc.ofExcept_ok_bind, hreference]
  rfl

/-- Without one, nothing is asked. -/
theorem transcript_getCredentials_of_not_valid (haccount : ¬IsRoutingIdentifier account) :
    (getCredentials (some principal) (some account) ()).transcript h w = [] := by
  obtain ⟨e, he⟩ := validateRoutingIdentifier_of_not_valid "account" haccount
  simp only [getCredentials, he]
  cases validateRoutingIdentifier (some principal) "principal" <;> rfl

/-- The account's reference holds a material that can be parsed. -/
def Usable (h : Handler GoogleOAuthCalls W) (w : W) (account : String) : Prop :=
  ∃ (hblank : Python.strip account ≠ "") (material : CredentialMaterial),
    Python.strip account = account ∧
      (h (.get (accountReference account hblank)) w).1 = .ok (some material) ∧
      ∃ info, parseCredentialMaterial material.value = .ok info

theorem transcript_getCredentials (hprincipal : IsRoutingIdentifier principal)
    (haccount : IsRoutingIdentifier account) :
    (getCredentials (some principal) (some account) ()).transcript h w =
      ⟨.get (accountReference account haccount.1),
        (h (.get (accountReference account haccount.1)) w).1⟩ ::
        ((Proc.ofExcept (storedMaterial (h (.get (accountReference account haccount.1)) w).1) >>=
          fun material => Proc.ofExcept (parseCredentialMaterial material.value) >>=
            refreshed principal account) ()).transcript h
          (h (.get (accountReference account haccount.1)) w).2 := by
  rw [getCredentials_of_valid hprincipal haccount, Proc.transcript_request_bind]

/-- What the store answers with is parsed and handed on. -/
theorem transcript_of_usable (hprincipal : IsRoutingIdentifier principal)
    (haccount : IsRoutingIdentifier account) {material : CredentialMaterial}
    (hget : (h (.get (accountReference account haccount.1)) w).1 = .ok (some material))
    {info : List (String × Value)} (hparse : parseCredentialMaterial material.value = .ok info) :
    ∃ reply rest, (getCredentials (some principal) (some account) ()).transcript h w =
      ⟨.get (accountReference account haccount.1), .ok (some material)⟩ ::
        ⟨.google (.fromAuthorizedUserInfo info), reply⟩ :: rest := by
  rw [transcript_getCredentials hprincipal haccount, hget,
    show storedMaterial (.ok (some material)) = .ok material from rfl, Proc.ofExcept_ok_bind,
    hparse, Proc.ofExcept_ok_bind, refreshed, Proc.transcript_request_bind]
  exact ⟨_, _, rfl⟩

/-- When google-auth is asked to rebuild credentials, the store has just answered for the
account's reference with what they are rebuilt from. -/
def RebuildPermitted (account : String) (log : List (Exchange GoogleOAuthCalls))
    (c : GoogleOAuthCall) : Prop :=
  ∀ info, c = .google (.fromAuthorizedUserInfo info) →
    ∃ (haccount : IsRoutingIdentifier account) (material : CredentialMaterial),
      log = [⟨.get (accountReference account haccount.1), .ok (some material)⟩] ∧
        parseCredentialMaterial material.value = .ok info

theorem finds_getCredentials (principal account : String) :
    (getCredentials (some principal) (some account)).Finds (RebuildPermitted account)
      (fun _ _ => True) [] := by
  by_cases hprincipal : IsRoutingIdentifier principal
  · by_cases haccount : IsRoutingIdentifier account
    · rw [getCredentials_of_valid hprincipal haccount]
      simp only [refreshed, Proc.finds_bind, Proc.finds_request, Proc.finds_ofExcept]
      refine ⟨fun info h => (by cases h), fun reply material hreply info hinfo => ?_⟩
      refine ⟨fun info' h => ?_, fun _ _ _ => ⟨fun info' h => (by cases h), fun _ _ _ _ _ => trivial⟩⟩
      obtain rfl := GoogleAuthCall.fromAuthorizedUserInfo.inj (GoogleOAuthCall.google.inj h)
      obtain rfl := storedMaterial_eq_ok hreply
      exact ⟨haccount, material, rfl, hinfo⟩
    · obtain ⟨e, he⟩ := validateRoutingIdentifier_of_not_valid "account" haccount
      simp only [getCredentials, he, Proc.finds_bind, Proc.finds_ofExcept]
      exact fun _ _ _ h => by cases h
  · obtain ⟨e, he⟩ := validateRoutingIdentifier_of_not_valid "principal" hprincipal
    simp only [getCredentials, he, Proc.finds_bind, Proc.finds_ofExcept]
    exact fun _ h => by cases h

/-- What reaches google-auth was parsed from what the store holds for the account. -/
theorem parsed_of_mem_transcript {info : List (String × Value)}
    {reply : GoogleOAuthCalls.Reply (.google (.fromAuthorizedUserInfo info))}
    (hmem : (⟨.google (.fromAuthorizedUserInfo info), reply⟩ : Exchange GoogleOAuthCalls) ∈
      (getCredentials (some principal) (some account) ()).transcript h w) :
    ∃ (haccount : IsRoutingIdentifier account) (material : CredentialMaterial),
      (h (.get (accountReference account haccount.1)) w).1 = .ok (some material) ∧
        parseCredentialMaterial material.value = .ok info := by
  obtain ⟨before, after, hsplit⟩ := List.append_of_mem hmem
  have hpermitted := Prog.Traced.transcript (finds_getCredentials principal account) h w hsplit
  obtain ⟨haccount, material, hbefore, hparse⟩ := hpermitted info rfl
  have hreplays := Prog.replays_transcript h (getCredentials (some principal) (some account) ()) w
  rw [List.nil_append] at hbefore
  rw [hsplit, hbefore] at hreplays
  exact ⟨haccount, material, hreplays.1, hparse⟩

theorem pastParsing_iff_usable (hprincipal : IsRoutingIdentifier principal) :
    PastParsing h w principal account ↔ Usable h w account := by
  constructor
  · rintro ⟨info, reply, hmem⟩
    obtain ⟨haccount, material, hget, hparse⟩ := parsed_of_mem_transcript hmem
    exact ⟨haccount.1, material, haccount.2, hget, info, hparse⟩
  · rintro ⟨hblank, material, hpadded, hget, info, hparse⟩
    obtain ⟨reply, rest, hasked⟩ := transcript_of_usable hprincipal ⟨hblank, hpadded⟩ hget hparse
    refine ⟨info, reply, ?_⟩
    rw [hasked]
    exact List.mem_cons_of_mem _ List.mem_cons_self

theorem wellFormedMaterial_eq_ok_iff {serialized : String} :
    (∃ parsed, wellFormedMaterial serialized = .ok parsed) ↔
      ∃ info, parseCredentialMaterial serialized = .ok info := by
  unfold wellFormedMaterial parseCredentialMaterial
  split
  · exact iff_of_false (fun ⟨_, h⟩ => nomatch h) fun ⟨_, h⟩ => nomatch h
  · next parsed _ =>
    by_cases hchecks : MaterialChecks expectedCredentialFields parsed
    · exact iff_of_true ⟨_, if_pos hchecks⟩ ⟨_, if_pos hchecks⟩
    · refine iff_of_false ?_ ?_
      · rintro ⟨_, h⟩
        exact nomatch (if_neg hchecks).symm.trans h
      · rintro ⟨_, h⟩
        exact nomatch (if_neg hchecks).symm.trans h
  · exact iff_of_false (fun ⟨_, h⟩ => nomatch h) fun ⟨_, h⟩ => nomatch h

theorem verify_of_valid (haccount : IsRoutingIdentifier account) :
    verify account =
      Proc.request GoogleOAuthCalls (.get (accountReference account haccount.1)) presentMaterial >>=
        fun material => Proc.ofExcept (wellFormedMaterial material.value) >>=
          fun parsed => pure (report account parsed) := by
  have hreference : CredentialReference.new GOOGLE_OAUTH_CREDENTIAL_NAMESPACE account =
      .ok (accountReference account haccount.1) :=
    CredentialReference.new_eq_ok (by decide) haccount.1
  have hvalid : ¬(Python.strip account = "" ∨ account ≠ Python.strip account) :=
    fun h => h.elim haccount.1 fun hne => hne haccount.2.symm
  simp only [verify, Except.raiseIf_neg hvalid, Proc.ofExcept_ok_bind, hreference]
  rfl

theorem verifies_iff_usable : Verifies h w account ↔ Usable h w account := by
  by_cases haccount : IsRoutingIdentifier account
  · rw [Verifies, verify_of_valid haccount]
    simp only [Proc.run_request_bind]
    constructor
    · rintro ⟨report, hreport⟩
      cases hpresent : presentMaterial (h (.get (accountReference account haccount.1)) w).1 with
      | error e =>
        rw [hpresent] at hreport
        cases hreport
      | ok material =>
        rw [hpresent, Proc.ofExcept_ok_bind] at hreport
        refine ⟨haccount.1, material, haccount.2, presentMaterial_eq_ok hpresent,
          wellFormedMaterial_eq_ok_iff.mp ?_⟩
        cases hparse : wellFormedMaterial material.value with
        | error e =>
          rw [hparse] at hreport
          cases hreport
        | ok parsed => exact ⟨parsed, rfl⟩
    · rintro ⟨hblank, material, -, hget, hparse⟩
      obtain ⟨parsed, hparsed⟩ := wellFormedMaterial_eq_ok_iff.mpr hparse
      refine ⟨report account parsed, ?_⟩
      rw [hget, show presentMaterial (.ok (some material)) = .ok material from rfl,
        Proc.ofExcept_ok_bind, hparsed]
      rfl
  · have hunusable : ¬Usable h w account := by
      rintro ⟨hblank, material, hpadded, -⟩
      exact haccount ⟨hblank, hpadded⟩
    refine iff_of_false ?_ hunusable
    have hinvalid : Python.strip account = "" ∨ account ≠ Python.strip account := by
      by_contra hvalid
      obtain ⟨hblank, hpadded⟩ := not_or.mp hvalid
      exact haccount ⟨hblank, (not_not.mp hpadded).symm⟩
    rintro ⟨report, hreport⟩
    simp only [verify, Except.raiseIf_pos hinvalid] at hreport
    cases hreport

/-- `verify` reports success exactly when `get_credentials` gets past parsing. -/
theorem verifies_iff_pastParsing (hprincipal : IsRoutingIdentifier principal) :
    Verifies h w account ↔ PastParsing h w principal account :=
  verifies_iff_usable.trans (pastParsing_iff_usable hprincipal).symm

end Reading

/-! ### What operations do to the store -/

theorem orBootstrapError_eq_ok {α : Type} {r : Except Raised (Option α)} {a : α}
    (h : orBootstrapError r = .ok a) : r = .ok (some a) := by
  rcases r with e | _ | b
  · exact nomatch h
  · exact nomatch h
  · exact congrArg (fun b => Except.ok (some b)) (Except.ok.inj h)

section Operations

variable [PyStd] {G S : Type} {google : Handler GoogleAuthCalls G} {store : CredentialStore S}
  {request : GoogleOAuthConnectRequest} {w : G × S}

/-- The calls a connect may make: only its own reference is stored, with its own
permission to replace. -/
def ConnectCall (request : GoogleOAuthConnectRequest) : GoogleOAuthCall → Prop
  | .google _ => True
  | .store reference _ replace =>
    reference.accountIdentifier = request.accountIdentifier ∧ replace = request.replace
  | .get _ => False

theorem calls_connect : (connect request).Calls (ConnectCall request) fun _ => True := by
  have skip : ∀ {α : Type} {r : Except Raised α},
      (Proc.ofExcept r : OAuthTask Raised α).Calls (ConnectCall request) fun _ => True :=
    .ofExcept trivial
  unfold connect
  refine .bind skip (fun _ _ => ?_) fun _ _ => trivial
  refine .bind (A := fun _ => True) (.request trivial fun _ => trivial) (fun _ _ => ?_)
    fun _ _ => trivial
  refine .bind skip (fun fields _ => ?_) fun _ _ => trivial
  refine .bind (A := fun _ => True) (.request trivial fun _ => trivial) (fun _ _ => ?_)
    fun _ _ => trivial
  refine .bind skip (fun _ _ => ?_) fun _ _ => trivial
  refine .bind skip (fun _ _ => ?_) fun _ _ => trivial
  -- what is stored goes under the identifier of the request
  refine .bind (A := fun r => ∀ reference, r = .ok reference →
    reference.accountIdentifier = request.accountIdentifier)
    (.ofExcept fun reference h => (CredentialReference.fields_of_new h).2) (fun reference h => ?_)
    fun _ _ => trivial
  refine .bind (A := fun _ => True) (.request ⟨h reference rfl, rfl⟩ fun _ => trivial)
    (fun _ _ => ?_) fun _ _ => trivial
  exact .pure trivial

/-- What the calls of a connect keep of the store, the connect keeps. -/
theorem held_connected {reference : CredentialReference} {held : Option String}
    (hstore : ∀ r m (s : S), r.accountIdentifier = request.accountIdentifier →
      store.held s reference = held →
        store.held (store.store r m request.replace s).2 reference = held)
    (hheld : store.held w.2 reference = held) :
    store.held (connected google store request w).2.2 reference = held := by
  have hstep : ∀ c (w : G × S), ConnectCall request c → store.held w.2 reference = held →
      store.held (googleOAuthOf google store c w).2.2 reference = held := by
    rintro (call | ⟨r, m, replace⟩ | r) ⟨g, s⟩ hc hs
    · exact hs
    · obtain ⟨haccount, rfl⟩ := hc
      exact hstore r m s haccount hs
    · exact hc.elim
  exact (Proc.Ensures.run (Proc.Calls.ensures (P := fun _ _ => True)
    (I := fun w : G × S => store.held w.2 reference = held) (fun _ _ _ => trivial) hstep
    calls_connect hheld)).1

/-- A step for another account leaves what is held alone. -/
theorem held_step_of_ne {o : StoreOperation} {reference : CredentialReference}
    (ho : o.account ≠ reference.accountIdentifier) :
    store.held (googleOAuthStep google store w o).2 reference = store.held w.2 reference := by
  cases o with
  | connect request =>
    refine held_connected (fun r m s haccount hs => ?_) rfl
    refine (store.held_store_of_ne r m request.replace s reference ?_).trans hs
    rintro rfl
    exact ho haccount.symm
  | delete r =>
    refine store.held_delete_of_ne r w.2 reference ?_
    rintro rfl
    exact ho rfl

/-- Operations for other accounts leave an account's credential alone. -/
theorem held_after_of_ne {operations : List StoreOperation} {reference : CredentialReference}
    (h : ∀ o ∈ operations, o.account ≠ reference.accountIdentifier) :
    store.held (Run.after (googleOAuthStep google store) w operations).2 reference =
      store.held w.2 reference :=
  Run.Along.invariant
    (I := fun w' : G × S => store.held w'.2 reference = store.held w.2 reference)
    (fun _ _ ho hw => (held_step_of_ne ho).trans hw) (Run.along_of_forall (fun o ho _ => h o ho) w) rfl

/-- Connecting without `replace` overwrites nothing. -/
theorem held_connected_without_replace (hreplace : request.replace = false)
    {reference : CredentialReference} {text : String}
    (htext : store.held w.2 reference = some text) :
    store.held (connected google store request w).2.2 reference = some text := by
  refine held_connected (fun r m s _ hs => ?_) htext
  rw [hreplace]
  exact store.held_store_without_replace r m s hs

/-! ### What a successful connect leaves -/

/-- What the exchanges of a successful connect show: it authorized, verified and stored. -/
def ConnectShown (request : GoogleOAuthConnectRequest) (log : List (Exchange GoogleOAuthCalls))
    (result : GoogleOAuthConnectResult) : Prop :=
  ∃ credentials credential identityToken identity,
    credentialFields credentials = .ok (credential, identityToken) ∧
      result.accountIdentifier = request.accountIdentifier ∧
      result.credentialReference.namespace_ = GOOGLE_OAUTH_CREDENTIAL_NAMESPACE ∧
      result.credentialReference.accountIdentifier = request.accountIdentifier ∧
      log = [
        ⟨.google (.authorize request.clientSecretsFile GOOGLE_OAUTH_SCOPES), .ok (some credentials)⟩,
        ⟨.google (.verify identityToken credential.clientId), .ok (some identity)⟩,
        ⟨.store result.credentialReference credential.material request.replace, .ok ()⟩]

theorem finds_connect :
    (connect request).Finds (fun _ _ => True) (ConnectShown request) [] := by
  simp only [connect, Proc.finds_bind, Proc.finds_request, Proc.finds_ofExcept, Proc.finds_pure,
    true_and]
  intro _ _ authorized credentials hauthorized fields hfields verified identity hverified
    email _ _ _ reference hreference stored _ hstored
  obtain ⟨credential, identityToken⟩ := fields
  obtain rfl := orBootstrapError_eq_ok hauthorized
  obtain rfl := orBootstrapError_eq_ok hverified
  obtain ⟨hnamespace, haccount⟩ := CredentialReference.fields_of_new hreference
  have hok : stored = .ok () := by
    cases stored with
    | error e => cases hstored
    | ok u => rfl
  subst hok
  exact ⟨credentials, credential, identityToken, identity, hfields, rfl, hnamespace, haccount, rfl⟩

/-- A successful connect leaves what it authorized under the account's reference. -/
theorem held_of_connected {result : GoogleOAuthConnectResult}
    (h : (connected google store request w).1 = .ok result) :
    ∃ credential, Authorized google request w.1 credential ∧
      result.accountIdentifier = request.accountIdentifier ∧
      result.credentialReference.namespace_ = GOOGLE_OAUTH_CREDENTIAL_NAMESPACE ∧
      result.credentialReference.accountIdentifier = request.accountIdentifier ∧
      store.held (connected google store request w).2.2 result.credentialReference =
        some credential.material.value ∧
      Python.strip credential.clientId ≠ "" ∧ Python.strip credential.clientSecret ≠ "" ∧
        Python.strip credential.refreshToken ≠ "" := by
  obtain ⟨credentials, credential, identityToken, identity, hfields, haccount, hnamespace,
    hreference, hlog⟩ := finds_connect.run (googleOAuthOf google store) h
  have hreplays := Prog.replays_transcript (googleOAuthOf google store) (connect request ()) w
  rw [List.nil_append] at hlog
  rw [hlog] at hreplays
  obtain ⟨hauthorized, -, hstored, hend⟩ := hreplays
  obtain ⟨⟨hid, hsecret, hrefresh⟩, hblank⟩ := credentialFields_eq_ok hfields
  refine ⟨credential, ⟨credentials, hauthorized, hid, hsecret, hrefresh⟩, haccount, hnamespace,
    hreference, ?_, hblank⟩
  have hheld := store.held_store _ _ _ _ hstored
  exact (congrArg (fun v : G × S => store.held v.2 result.credentialReference) hend).symm.trans hheld

end Operations

/-! ### Agreement -/

theorem eq_accountReference {reference : CredentialReference} {account : String}
    (hnamespace : reference.namespace_ = GOOGLE_OAUTH_CREDENTIAL_NAMESPACE)
    (haccount : reference.accountIdentifier = account) (hblank : Python.strip account ≠ "") :
    reference = accountReference account hblank := by
  cases reference
  subst hnamespace haccount
  rfl

section Agreement

variable {G S : Type} {google : Handler GoogleAuthCalls G} {store : CredentialStore S}
  {w : G × S} {principal account : String}

/-- A store answers for a reference with what it holds. -/
theorem get_of_held {reference : CredentialReference} {material : CredentialMaterial}
    (hheld : store.held w.2 reference = some material.value) :
    (googleOAuthOf google store (.get reference) w).1 = .ok (some material) :=
  (store.get_fst reference w.2).trans (hheld ▸ heldMaterial_value material)

theorem held_of_get {reference : CredentialReference} {material : CredentialMaterial}
    (hget : (googleOAuthOf google store (.get reference) w).1 = .ok (some material)) :
    store.held w.2 reference = some material.value :=
  held_of_heldMaterial ((store.get_fst reference w.2).symm.trans hget)

/-- What is held for an account is reconstructed. -/
theorem reconstructs_of_held [PyJson] (hprincipal : IsRoutingIdentifier principal)
    (haccount : IsRoutingIdentifier account) {credential : StoredCredential}
    (hheld : store.held w.2 (accountReference account haccount.1) = some credential.material.value)
    (hparse : parseCredentialMaterial credential.material.value = .ok credential.info) :
    Reconstructs (googleOAuthOf google store) w principal account credential := by
  have hget : (googleOAuthOf google store (.get (accountReference account haccount.1)) w).1 =
      .ok (some credential.material) := get_of_held hheld
  refine ⟨accountReference account haccount.1, credential.material, rfl, rfl, hget,
    transcript_of_usable hprincipal haccount hget hparse, ?_⟩
  intro built w' fresh w'' token hbuilt hfresh htoken hblank
  rw [getCredentials_of_valid hprincipal haccount, Proc.run_request_bind, hget,
    show storedMaterial (.ok (some credential.material)) = .ok credential.material from rfl,
    Proc.ofExcept_ok_bind, hparse, Proc.ofExcept_ok_bind, refreshed, Proc.run_request_bind, hbuilt]
  change ((Proc.ofExcept (.ok built) >>= _ : OAuthTask _ _).run _ () w').1.1 = _
  rw [Proc.ofExcept_ok_bind, Proc.run_request_bind, hfresh]
  change (accessGranted principal account fresh) = _
  rw [accessGranted, htoken]
  exact if_neg hblank

end Agreement

section Connect

variable [PyStd] {G S : Type} {google : Handler GoogleAuthCalls G} {store : CredentialStore S}
  {request : GoogleOAuthConnectRequest} {w : G × S} {result : GoogleOAuthConnectResult}

/-- A connect for which everything else succeeds. -/
theorem connected_eq_ok (google : Handler GoogleAuthCalls G) (store : CredentialStore S)
    (request : GoogleOAuthConnectRequest) (w : G × S)
    (hfile : Python.strip request.clientSecretsFile ≠ "")
    (haccount : Python.strip request.accountIdentifier ≠ "")
    (hexpected : Python.strip request.expectedGoogleEmail ≠ "") {credentials : Credentials} {g g' : G}
    (hauthorized : google (.authorize request.clientSecretsFile GOOGLE_OAUTH_SCOPES) w.1 =
      (.ok (some credentials), g))
    {credential : StoredCredential} {identityToken : String}
    (hfields : credentialFields credentials = .ok (credential, identityToken)) {identity : Dict}
    (hverified : google (.verify identityToken credential.clientId) g = (.ok (some identity), g'))
    {email : String} (hemail : verifiedEmail identity = .ok email)
    (hfold : PyStd.casefold email = PyStd.casefold (Python.strip request.expectedGoogleEmail))
    (hstored : (store.store (accountReference request.accountIdentifier haccount)
      credential.material request.replace w.2).1 = .ok ()) :
    (connected google store request w).1 = .ok {
      credentialReference := accountReference request.accountIdentifier haccount
      accountIdentifier := request.accountIdentifier
      verifiedGoogleEmail := email
      scopes := GOOGLE_OAUTH_SCOPES } := by
  have hrequest : validateRequest request = .ok () := by
    simp only [validateRequest, Except.raiseIf_neg hfile, Except.raiseIf_neg haccount,
      Except.raiseIf_neg hexpected]
    rfl
  have hreference : CredentialReference.new GOOGLE_OAUTH_CREDENTIAL_NAMESPACE
      request.accountIdentifier = .ok (accountReference request.accountIdentifier haccount) :=
    CredentialReference.new_eq_ok (by decide) haccount
  obtain ⟨g₀, s⟩ := w
  simp only at hauthorized hstored
  simp only [connected, connect, hrequest, Proc.ofExcept_ok_bind, Proc.run_request_bind,
    googleOAuthOf, hauthorized, orBootstrapError, hfields, hverified, hemail,
    Except.raiseIf_neg (not_not.mpr hfold), hreference, hstored]
  rfl

/-- A padded account identifier is never read back. -/
theorem unpadded_of_credentialsAgree [PyJson]
    (haccount : result.accountIdentifier = request.accountIdentifier)
    (h : CredentialsAgree google store request w result) :
    Python.strip request.accountIdentifier = request.accountIdentifier := by
  obtain ⟨credential, -, hfinds⟩ := h.finds
  obtain ⟨reference, material, hreconstructs⟩ :=
    hfinds [] (fun o ho => (nomatch ho)) "velox" (by decide)
  obtain ⟨reply, rest, hasked⟩ := hreconstructs.asked
  rw [haccount] at hasked
  by_contra hpadded
  rw [transcript_getCredentials_of_not_valid fun hvalid => hpadded hvalid.2] at hasked
  exact nomatch hasked

/-- After a successful connect the services agree exactly when the account identifier has
no padding. -/
theorem credentialsAgree_iff [PyJsonDumps] (google : Handler GoogleAuthCalls G)
    (store : CredentialStore S) (request : GoogleOAuthConnectRequest) (w : G × S)
    (result : GoogleOAuthConnectResult) (h : (connected google store request w).1 = .ok result) :
    CredentialsAgree google store request w result ↔
      Python.strip request.accountIdentifier = request.accountIdentifier := by
  obtain ⟨credential, hauthorized, haccount, hnamespace, hreference, hheld, hid, hsecret, hrefresh⟩ :=
    held_of_connected h
  have hblank : Python.strip request.accountIdentifier ≠ "" :=
    hreference ▸ result.credentialReference.accountIdentifier_nonBlank
  refine ⟨unpadded_of_credentialsAgree haccount, fun hpadded => ?_⟩
  have hvalid : IsRoutingIdentifier result.accountIdentifier :=
    haccount.symm ▸ (⟨hblank, hpadded⟩ : IsRoutingIdentifier request.accountIdentifier)
  rw [eq_accountReference hnamespace (hreference.trans haccount.symm) hvalid.1] at hheld
  refine ⟨⟨credential, hauthorized, fun operations ho principal hprincipal => ?_⟩, ?_,
    fun w operations reference ho => held_after_of_ne ho,
    fun w request hreplace reference text htext => held_connected_without_replace hreplace htext,
    fun w principal account hprincipal => verifies_iff_pastParsing hprincipal⟩
  · refine reconstructs_of_held hprincipal hvalid ?_
      (parseCredentialMaterial_material hid hsecret hrefresh)
    exact (held_after_of_ne ho).trans hheld
  · intro w principal account info reply hmem
    obtain ⟨haccount, material, hget, hparse⟩ := parsed_of_mem_transcript hmem
    exact ⟨_, material.value, rfl, rfl, held_of_get hget, hparse⟩

end Connect

/-! ### A sample connect -/

/-- A Google that authorizes and verifies one user. -/
def sampleGoogle : Handler GoogleAuthCalls Unit
  | .authorize _ _, g => (.ok (some sampleCredentials), g)
  | .verify _ _, g =>
    (.ok (some (.ofList [("email", .str "user@example.com"), ("email_verified", .bool true)])), g)
  | .fromAuthorizedUserInfo _, g => (.ok (some sampleCredentials), g)
  | .refresh credentials, g => (.ok credentials, g)
where
  sampleCredentials : Credentials := {
    refreshToken := .ok (.str "refresh-token")
    idToken := .ok (.str "identity-token")
    clientId := .ok (.str "client-id")
    clientSecret := .ok (.str "client-secret")
    token := .str "access-token"
    expiry := none }

/-- The request of a sample connect. -/
def sampleConnect (accountIdentifier : String) : GoogleOAuthConnectRequest where
  clientSecretsFile := "client_secrets.json"
  accountIdentifier
  expectedGoogleEmail := "User@example.com"

/-- What a sample connect returns. -/
def sampleConnected (accountIdentifier : String) (h : Python.strip accountIdentifier ≠ "") :
    GoogleOAuthConnectResult where
  credentialReference := accountReference accountIdentifier h
  accountIdentifier
  verifiedGoogleEmail := "user@example.com"
  scopes := GOOGLE_OAUTH_SCOPES

/-- A sample connect with an empty store in memory succeeds. -/
theorem connected_sample {account : String} (h : Python.strip account ≠ "") :
    let _ := PyStd.ascii
    (connected sampleGoogle InMemoryCredentialStore.credentialStore (sampleConnect account)
      ((), ∅)).1 = .ok (sampleConnected account h) := by
  intro _
  have hfile : Python.strip "client_secrets.json" ≠ "" := by decide
  have hemail : Python.strip "User@example.com" ≠ "" := by decide
  have hfields : credentialFields sampleGoogle.sampleCredentials =
      .ok (⟨"client-id", "client-secret", "refresh-token"⟩, "identity-token") := by decide
  have hverified : verifiedEmail (.ofList [("email", .str "user@example.com"),
      ("email_verified", .bool true)]) = .ok "user@example.com" := by decide
  have hfold : PyStd.casefold "user@example.com" =
      PyStd.casefold (Python.strip "User@example.com") := by decide
  have hstored : ∀ material, (InMemoryCredentialStore.credentialStore.store
      (accountReference account h) material false ∅).1 = .ok () := fun _ => rfl
  exact connected_eq_ok sampleGoogle InMemoryCredentialStore.credentialStore
    (sampleConnect account) ((), ∅) hfile h hemail rfl hfields rfl hverified hfold (hstored _)

/-- Connecting the account `work` with an empty store in memory. -/
theorem credentialsAgree_of_unpadded :
    let _ := PyStd.ascii
    let _ := PyJsonDumps.plain
    CredentialsAgree sampleGoogle InMemoryCredentialStore.credentialStore (sampleConnect "work")
      ((), ∅) (sampleConnected "work" (by decide)) := by
  intro _ _
  exact (credentialsAgree_iff sampleGoogle InMemoryCredentialStore.credentialStore
    (sampleConnect "work") ((), ∅) _ (connected_sample _)).mpr (by decide)

/-- The account ` work ` is connected, and cannot be read back. -/
theorem not_credentialsAgree :
    let _ := PyStd.ascii
    let _ := PyJsonDumps.plain
    (connected sampleGoogle InMemoryCredentialStore.credentialStore (sampleConnect " work ")
        ((), ∅)).1 = .ok (sampleConnected " work " (by decide)) ∧
      ¬CredentialsAgree sampleGoogle InMemoryCredentialStore.credentialStore
        (sampleConnect " work ") ((), ∅) (sampleConnected " work " (by decide)) := by
  intro _ _
  refine ⟨connected_sample _, fun h => ?_⟩
  exact absurd (unpadded_of_credentialsAgree rfl h) (by decide)

end Velox
