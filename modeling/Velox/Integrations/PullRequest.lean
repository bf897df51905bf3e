import Velox.Integrations.Json
import Velox.Integrations.Workspace

/-!
# Publishing pull requests

The GitHub CLI implementation of the pull-request role: it finds the pull request of
a pushed branch, or creates one and finds it.

## Main definitions

* `PullRequestPublication` — the identity of a published pull request
* `GitHubCliPullRequestPublisher.find`, `GitHubCliPullRequestPublisher.publish`

## Main results

* `GitHubCliPullRequestPublisher.find_eq` — looking for a pull request is a single call
* `GitHubCliPullRequestPublisher.publicationOf_eq_ok_some` — what a found pull
  request was read from
-/

set_option autoImplicit false

namespace Velox

/-- Provider-neutral pull-request identity returned after publication. -/
structure PullRequestPublication where
  number : Int
  url : String
  baseBranch : String
  headBranch : String
  created : Bool
  deriving DecidableEq

/-- `PullRequestPublicationError`. -/
abbrev pullRequestPublicationError : ErrorKind := .exception "PullRequestPublicationError"

/-- A `PullRequestPublicationError` with its message. -/
def publicationError (message : String) : Raised := ⟨pullRequestPublicationError, message⟩

namespace GitHubCliPullRequestPublisher

open TrustedGitWorkspace (checked checked_eq_ok_iff)

/-- A missing executable makes the publisher unavailable. -/
def runError (error : Raised) : Raised :=
  if error.kind = executableNotFoundError then
    publicationError "pull-request publisher is unavailable"
  else error

/-- `_run`. -/
def run (command : GhCommand) (cwd : PurePath) : HostTask String := do
  let result ← tryCatch (askHost (.run (.gh command) cwd)) fun error => throw (runError error)
  Proc.ofExcept (checked (publicationError "pull-request publisher command failed") result)

variable [PyJson]

/-- The items of a listing. -/
def payload (raw : String) : Except Raised (List Value) :=
  match PyJson.loads raw with
  | .ok (.list items) => .ok items
  | .ok _ => .error (publicationError "pull-request publisher returned invalid data")
  | .error error =>
    if error.kind = jsonDecodeError then
      .error (publicationError "pull-request publisher returned invalid data")
    else .error error

/-- The objects of a listing that name the head branch. -/
def matching (headBranch : String) (items : List Value) : List (List (String × Value)) :=
  items.filterMap fun
    | .dict entries => if Value.field entries "headRefName" = .str headBranch then some entries else none
    | _ => none

omit [PyJson] in
/-- The identity of a listed pull request. -/
def identity (baseBranch headBranch : String) (item : List (String × Value)) :
    Except Raised PullRequestPublication :=
  if Value.field item "baseRefName" ≠ .str baseBranch then
    .error (publicationError "existing pull request targets an unexpected base")
  else
    match (Value.field item "number").int?, Value.field item "url" with
    | some number, .str url =>
      if Python.strip url = "" then
        .error (publicationError "pull-request publisher returned invalid identity")
      else .ok { number, url, baseBranch, headBranch, created := false }
    | _, _ => .error (publicationError "pull-request publisher returned invalid identity")

/-- The pull request of the head branch in a listing. -/
def publicationOf (baseBranch headBranch raw : String) :
    Except Raised (Option PullRequestPublication) := do
  let items ← payload raw
  match matching headBranch items with
  | [] => return none
  | [item] => some <$> identity baseBranch headBranch item
  | _ => throw (publicationError "multiple pull requests match the promotion branch")

/-- `_find`. -/
def find (repositoryRoot : PurePath) (baseBranch headBranch : String) :
    HostTask (Option PullRequestPublication) := do
  let raw ← run (.prList headBranch) repositoryRoot
  Proc.ofExcept (publicationOf baseBranch headBranch raw)

/-- `publish`: find the pull request, or create it and find it. -/
def publish (repositoryRoot : PurePath) (baseBranch headBranch title body : String) :
    HostTask PullRequestPublication := do
  match ← find repositoryRoot baseBranch headBranch with
  | some existing => return existing
  | none =>
    let _ ← run (.prCreate baseBranch headBranch title body) repositoryRoot
    match ← find repositoryRoot baseBranch headBranch with
    | some published => return { published with created := true }
    | none => throw (publicationError "pull request was not discoverable after creation")

/-! ### Commands as single calls -/

/-- What a checked GitHub CLI command makes of the reply. -/
def readOutput (reply : Except Raised ProcessResult) : Except Raised String :=
  reply.mapError runError >>= checked (publicationError "pull-request publisher command failed")

omit [PyJson] in
theorem readOutput_eq_ok_iff {reply : Except Raised ProcessResult} {output : String} :
    readOutput reply = .ok output ↔
      ∃ result, reply = .ok result ∧ ¬result.Failed ∧ result.stdout = output := by
  rcases reply with e | result
  · simp [readOutput, Except.mapError]
  · simp [readOutput, Except.mapError, checked_eq_ok_iff]

omit [PyJson] in
/-- A GitHub CLI command is a single call. -/
theorem run_eq (command : GhCommand) (cwd : PurePath) :
    run command cwd = Proc.request Host (.run (.gh command) cwd) readOutput := by
  rw [run, askHost, Proc.tryCatch_request_throw, Proc.request_bind_ofExcept]
  rfl

/-- Looking for a pull request is a single call. -/
theorem find_eq (repositoryRoot : PurePath) (baseBranch headBranch : String) :
    find repositoryRoot baseBranch headBranch =
      Proc.request Host (.run (.gh (.prList headBranch)) repositoryRoot) fun reply =>
        readOutput reply >>= publicationOf baseBranch headBranch := by
  rw [find, run_eq, Proc.request_bind_ofExcept]

theorem payload_eq_ok_iff {raw : String} {items : List Value} :
    payload raw = .ok items ↔ PyJson.loads raw = .ok (.list items) := by
  unfold payload
  split
  · next items' h => simp [h]
  · next value hvalue h =>
    simp only [h, Except.ok.injEq, reduceCtorEq, false_iff]
    rintro rfl
    exact hvalue items rfl
  · next error h =>
    split_ifs <;> simp [h]

omit [PyJson] in
/-- What the identity of a listed pull request was read from. -/
theorem identity_eq_ok {baseBranch headBranch : String} {item : List (String × Value)}
    {publication : PullRequestPublication}
    (h : identity baseBranch headBranch item = .ok publication) :
    Value.field item "baseRefName" = .str baseBranch ∧
      (Value.field item "number").int? = some publication.number ∧
      Value.field item "url" = .str publication.url ∧ publication.baseBranch = baseBranch ∧
      publication.headBranch = headBranch ∧ publication.created = false := by
  unfold identity at h
  split_ifs at h with hbase
  split at h
  · next number url hnumber hurl =>
    split_ifs at h
    obtain rfl := Except.ok.inj h
    exact ⟨not_not.mp hbase, hnumber, hurl, rfl, rfl, rfl⟩
  · cases h

/-- A found pull request is the only listed one of the branch, and it targets the base. -/
theorem publicationOf_eq_ok_some {baseBranch headBranch raw : String}
    {publication : PullRequestPublication}
    (h : publicationOf baseBranch headBranch raw = .ok (some publication)) :
    ∃ items item, PyJson.loads raw = .ok (.list items) ∧ matching headBranch items = [item] ∧
      identity baseBranch headBranch item = .ok publication := by
  obtain ⟨items, hitems, h⟩ := Except.bind_eq_ok_iff.mp h
  rcases hmatching : matching headBranch items with _ | ⟨item, _ | ⟨item', rest⟩⟩
  · rw [hmatching] at h
    cases h
  · rw [hmatching] at h
    replace h : some <$> identity baseBranch headBranch item = .ok (some publication) := h
    rcases hidentity : identity baseBranch headBranch item with e | publication'
    · rw [hidentity] at h
      cases h
    · rw [hidentity] at h
      obtain rfl := Option.some.inj (Except.ok.inj h)
      exact ⟨items, item, payload_eq_ok_iff.mp hitems, hmatching, hidentity⟩
  · rw [hmatching] at h
    cases h

end GitHubCliPullRequestPublisher

end Velox
