import Velox.Integrations.Evidence
import Velox.Integrations.Promotion

/-!
# The promotion gate

Whatever git, the GitHub CLI and the file system answer, a promotion pushes only what
the commands of the same call have shown to be the reviewed work product, and records
only what was read back from the remote and from the pull-request host.

## Main definitions

* `CheckoutShown`, `CommitShown`, `PushShown`, `PublicationShown` — the evidence
* `RunState.PromotionAllOrNone` — the six promotion fields are all null or all set

## Main results

* `SoftwareEngineeringPromotionService.finds_publish` — the evidence behind a push and
  behind a publication
* `RunWrite.promotionAllOrNone_of_apply` — no operation sets a part of the fields
-/

set_option autoImplicit false

namespace Velox

/-! ### Evidence -/

/-- The push commands. -/
def IsPush (call : HostCall) : Prop :=
  ∃ remote branch cwd, call = .run (.git (.push remote branch)) cwd

/-- The canonical checkout is clean, unchanged, on the trusted base branch, and its
HEAD is the head of the remote base. -/
structure CheckoutShown (settings : PromotionSettings) (log : HostLog) (head : String) : Prop where
  unchanged : ∃ output, PrintedTwice log (.git .status) settings.workspace.root output ∧
    Python.strip output = ""
  onBase : ∃ output, Printed log (.git .symbolicRef) settings.workspace.root output ∧
    Python.strip output = settings.baseBranch
  clean : ∃ output, Printed log (.git .status) settings.workspace.root output ∧
    Python.strip output = ""
  canonicalHead : ∃ output, Printed log (.git (.revParse "HEAD")) settings.workspace.root output ∧
    Python.strip output = head
  remoteBase : ∃ output,
    Printed log (.git (.lsRemote settings.remote settings.baseBranch)) settings.workspace.root
      output ∧ (Python.split (Python.strip output)).head? = some head

open SoftwareEngineeringPromotionService (Candidate trailer candidate)

/-- A commit is the only one beyond canonical HEAD, which is its parent; it names the
action, it is the head of the branch, and the worktree is clean. -/
structure CommitShown (candidate : Candidate) (log : HostLog) (commitSha : String) : Prop where
  onlyCommit : ∃ output,
    Printed log (.git (.revListCount (candidate.canonicalHead ++ ".." ++ commitSha))) candidate.root
      output ∧ Python.strip output = "1"
  parent : ∃ output, Printed log (.git (.revParse (commitSha ++ "^"))) candidate.root output ∧
    Python.strip output = candidate.canonicalHead
  trailer : ∃ output, Printed log (.git (.showMessage commitSha)) candidate.root output ∧
    trailer candidate.actionId ∈ (Python.splitlines (Python.strip output)).map Python.strip
  branchHead : ∃ output, Printed log (.git (.revParse candidate.branch)) candidate.root output ∧
    Python.strip output = commitSha
  worktreeClean : ∃ output, Printed log (.git .status) candidate.worktreePath output ∧
    Python.strip output = ""

/-- What was shown before the push: after all else, the canonical checkout was found
clean and at the same HEAD once more. -/
def PushShown (settings : PromotionSettings) (actionId : UUID) (log : HostLog)
    (commitSha : String) : Prop :=
  ∃ head before after, log = before ++ after ∧ CheckoutShown settings before head ∧
    CommitShown (candidate settings actionId settings.workspace.root head) before commitSha ∧
    (∃ output, Printed after (.git (.revParse "HEAD")) settings.workspace.root output ∧
      Python.strip output = head) ∧
    ∃ output, Printed after (.git .status) settings.workspace.root output ∧
      Python.strip output = ""

/-- A push is made in the canonical root, of the derived branch to the trusted remote,
and after everything was shown. -/
def PushPermitted (settings : PromotionSettings) (actionId : UUID) (log : HostLog)
    (call : HostCall) : Prop :=
  ∀ remote branch cwd, call = .run (.git (.push remote branch)) cwd →
    remote = settings.remote ∧ branch = (settings.workspace.expectedWorktree actionId).branch ∧
      cwd = settings.workspace.root ∧ ∃ commitSha, PushShown settings actionId log commitSha

/-- The only listed pull request of the branch, and what it is known by. -/
def PullRequestShown [PyJson] (settings : PromotionSettings) (actionId : UUID) (log : HostLog)
    (publication : PullRequestPublication) : Prop :=
  ∃ raw items item,
    Printed log (.gh (.prList (settings.workspace.expectedWorktree actionId).branch))
      settings.workspace.root raw ∧
    PyJson.loads raw = .ok (.list items) ∧
    GitHubCliPullRequestPublisher.matching (settings.workspace.expectedWorktree actionId).branch
      items = [item] ∧
    GitHubCliPullRequestPublisher.identity settings.baseBranch
      (settings.workspace.expectedWorktree actionId).branch item = .ok publication

/-- What was shown before the record: the push with all that had to be shown before it,
the commit read back from the remote, and the pull request between the two branches. -/
structure PublicationShown [PyJson] (settings : PromotionSettings) (actionId : UUID)
    (log : HostLog) (publication : PromotionPublication) : Prop where
  pushed : ∃ before after, log = before ++ after ∧
    PushShown settings actionId before publication.commitSha ∧
    (∃ output, Printed after
      (.git (.push settings.remote (settings.workspace.expectedWorktree actionId).branch))
      settings.workspace.root output) ∧
    (∃ output, Printed after
        (.git (.lsRemote settings.remote (settings.workspace.expectedWorktree actionId).branch))
        settings.workspace.root output ∧
      (Python.split (Python.strip output)).head? = some publication.commitSha) ∧
    PullRequestShown settings actionId after {
      number := publication.number
      url := publication.url
      baseBranch := publication.baseBranch
      headBranch := publication.headBranch
      created := false }
  baseBranch : publication.baseBranch = settings.baseBranch
  headBranch : publication.headBranch = (settings.workspace.expectedWorktree actionId).branch

theorem CheckoutShown.mono {settings : PromotionSettings} {log log' : HostLog} {head : String}
    (h : CheckoutShown settings log head) (hlog : log <+: log') :
    CheckoutShown settings log' head where
  unchanged := h.unchanged.imp fun _ => And.imp_left fun hp => hp.mono hlog
  onBase := h.onBase.imp fun _ => And.imp_left fun hp => hp.mono hlog
  clean := h.clean.imp fun _ => And.imp_left fun hp => hp.mono hlog
  canonicalHead := h.canonicalHead.imp fun _ => And.imp_left fun hp => hp.mono hlog
  remoteBase := h.remoteBase.imp fun _ => And.imp_left fun hp => hp.mono hlog

/-! ### What the steps find -/

section Finds

open TrustedGitWorkspace (gitOutput status readOutput_eq_ok_iff)

variable {K : HostLog → HostCall → Prop} {t : HostLog}

/-- Every call but a push is permitted. -/
def PermitsQueries (K : HostLog → HostCall → Prop) : Prop := ∀ t c, ¬IsPush c → K t c

theorem finds_askHost {call : HostCall} {B : HostLog → call.Value → Prop} (hK : PermitsQueries K)
    (hcall : ¬IsPush call) (hB : ∀ t' value, t <+: t' → B t' value) :
    (askHost call).Finds K B t :=
  ⟨hK _ _ hcall, fun _ value _ => hB _ value (List.prefix_append ..)⟩

theorem finds_output {B : HostLog → String → Prop} {failure : Raised} {command : GitCommand}
    {cwd : PurePath} (hK : PermitsQueries K)
    (hcommand : ¬IsPush (.run (.git command) cwd))
    (hB : ∀ t' output, t <+: t' → Printed t' (.git command) cwd output → B t' output) :
    (gitOutput failure command cwd).Finds K B t :=
  finds_gitOutput (hK _ _ hcommand) fun _ hresult =>
    hB _ _ (List.prefix_append ..) (printed_concat hresult)

theorem finds_status {B : HostLog → String → Prop} {path : PurePath} (hK : PermitsQueries K)
    (hB : ∀ t' output, t <+: t' → Printed t' (.git .status) path output →
      (Printed t (.git .status) path output → PrintedTwice t' (.git .status) path output) →
      B t' output) :
    (status path).Finds K B t := by
  refine finds_gitOutput (hK _ _ (by simp [IsPush])) fun result hresult => ?_
  exact hB _ _ (List.prefix_append ..) (printed_concat hresult) fun hbefore =>
    ⟨t, _, rfl, hbefore, printed_singleton hresult⟩

theorem finds_validate {workspace : TrustedGitWorkspace} {B : HostLog → PurePath → Prop}
    (hK : PermitsQueries K) (hB : ∀ t', t <+: t' → B t' workspace.root) :
    workspace.validate.Finds K B t := by
  simp only [TrustedGitWorkspace.validate, Proc.finds_bind, Proc.finds_ofExcept, Proc.finds_pure,
    isDir, resolve]
  intro _ _
  refine finds_askHost hK (by simp [IsPush]) fun t₁ present ht₁ _ _ => ?_
  refine finds_output hK (by simp [IsPush]) fun t₂ toplevel ht₂ _ => ?_
  refine finds_askHost hK (by simp [IsPush]) fun t₃ actual ht₃ => ?_
  refine finds_askHost hK (by simp [IsPush]) fun t₄ expected ht₄ _ _ => ?_
  exact hB _ (((ht₁.trans ht₂).trans ht₃).trans ht₄)

open WorkProductService (check verified review branchesAt)

theorem finds_branchesAt {derived : PurePath} {entries : List (PurePath × Option String)}
    {B : HostLog → List (Option String) → Prop} (hK : PermitsQueries K)
    (hB : ∀ t' branches, t <+: t' → B t' branches) : (branchesAt derived entries).Finds K B t := by
  induction entries generalizing t B with
  | nil => exact Proc.finds_pure.mpr (hB _ _ (List.prefix_refl t))
  | cons entry entries ih =>
    simp only [branchesAt, Proc.finds_bind, Proc.finds_pure, resolve]
    refine finds_askHost hK (by simp [IsPush]) fun t₁ resolved ht₁ => ?_
    exact ih fun t₂ branches ht₂ => hB _ _ (ht₁.trans ht₂)

/-- The verified worktree is the derived one, and the canonical status was printed. -/
theorem finds_verified {service : WorkProductService} {actionId : UUID}
    {B : HostLog → PurePath × IsolatedWorktree × String → Prop} (hK : PermitsQueries K)
    (hB : ∀ t' before, t <+: t' → Printed t' (.git .status) service.workspace.root before →
      B t' (service.workspace.root, service.workspace.expectedWorktree actionId, before)) :
    (service.verified actionId).Finds K B t := by
  simp only [verified, WorkProductService.canonicalStatus, Proc.finds_bind,
    Proc.finds_tryCatch_throw, Proc.finds_pure, check, Proc.finds_ofExcept, isDir, resolve,
    WorkProductService.git]
  refine finds_validate hK fun t₁ ht₁ => finds_status hK fun t₂ before ht₂ hbefore _ => ?_
  refine finds_askHost hK (by simp [IsPush]) fun t₃ present ht₃ _ _ => ?_
  refine finds_askHost hK (by simp [IsPush]) fun t₄ canonical ht₄ => ?_
  refine finds_askHost hK (by simp [IsPush]) fun t₅ derived ht₅ _ _ => ?_
  refine finds_output hK (by simp [IsPush]) fun t₆ listing ht₆ _ => ?_
  rcases registeredWorktrees listing with _ | ⟨⟨mainPath, branch⟩, linked⟩
  · exact Proc.finds_throw.mpr trivial
  simp only [Proc.finds_bind, Proc.finds_ofExcept, Proc.finds_pure]
  refine finds_askHost hK (by simp [IsPush]) fun t₇ main ht₇ _ _ => ?_
  refine finds_branchesAt hK fun t₈ branches ht₈ _ _ => ?_
  refine finds_output hK (by simp [IsPush]) fun t₉ toplevel ht₉ _ => ?_
  refine finds_askHost hK (by simp [IsPush]) fun t' actual ht' _ _ => ?_
  have hlater : t₂ <+: t' :=
    ((ht₃.trans ht₄).trans (ht₅.trans ht₆)).trans ((ht₇.trans ht₈).trans (ht₉.trans ht'))
  exact hB _ _ ((ht₁.trans ht₂).trans hlater) (hbefore.mono hlater)

/-- A review that finds the canonical checkout clean and unchanged saw the same blank
status twice. -/
theorem finds_review {service : WorkProductService} {actionId : UUID}
    {B : HostLog → WorkProductReview → Prop} (hK : PermitsQueries K)
    (hB : ∀ t' review, t <+: t' → (review.canonicalClean → review.canonicalUnchanged →
      ∃ output, PrintedTwice t' (.git .status) service.workspace.root output ∧
        Python.strip output = "") → B t' review) :
    (service.review actionId).Finds K B t := by
  simp only [review, Proc.finds_bind, Proc.finds_tryCatch_throw, Proc.finds_pure,
    WorkProductService.git]
  refine finds_verified hK fun t₁ before ht₁ hbefore => ?_
  refine finds_status hK fun t₂ worktreeStatus ht₂ _ _ => ?_
  refine finds_output hK (by simp [IsPush]) fun t₃ _ ht₃ _ => ?_
  refine finds_output hK (by simp [IsPush]) fun t₄ _ ht₄ _ => ?_
  refine finds_status hK fun t₅ after ht₅ _ htwice => ?_
  have hlater : t₁ <+: t₄ := ht₂.trans (ht₃.trans ht₄)
  refine hB _ _ (ht₁.trans (hlater.trans ht₅)) fun hclean hunchanged => ?_
  simp only [decide_eq_true_eq] at hclean hunchanged
  subst hunchanged
  exact ⟨_, htwice (hbefore.mono hlater), hclean⟩

open SoftwareEngineeringPromotionService (verifyCommit createCommit createOrRecoverCommit preflight
  recheck pushBranch publishPullRequest publish)

theorem finds_git {B : HostLog → String → Prop} {command : GitCommand} {cwd : PurePath}
    (hK : PermitsQueries K) (hcommand : ¬IsPush (.run (.git command) cwd))
    (hB : ∀ t' output, t <+: t' → Printed t' (.git command) cwd output →
      B t' (Python.strip output)) :
    (SoftwareEngineeringPromotionService.git command cwd).Finds K B t := by
  simp only [SoftwareEngineeringPromotionService.git, Proc.finds_bind, Proc.finds_pure]
  exact finds_output hK hcommand hB

/-- A commit that passes verification was shown to be what it has to be. -/
theorem finds_verifyCommit {candidate : Candidate} {commitSha : String}
    {B : HostLog → Unit → Prop} (hK : PermitsQueries K)
    (hB : ∀ t', t <+: t' → CommitShown candidate t' commitSha → B t' ()) :
    (verifyCommit candidate commitSha).Finds K B t := by
  simp only [verifyCommit, SoftwareEngineeringPromotionService.check, Proc.finds_bind,
    Proc.finds_ofExcept, Except.raiseIf_eq_ok_iff, not_not]
  refine finds_git hK (by simp [IsPush]) fun t₁ count ht₁ hcount _ honly => ?_
  refine finds_git hK (by simp [IsPush]) fun t₂ parent ht₂ hparent _ hdirect => ?_
  refine finds_git hK (by simp [IsPush]) fun t₃ message ht₃ hmessage _ htrailer => ?_
  refine finds_git hK (by simp [IsPush]) fun t₄ head ht₄ hhead _ hbranch => ?_
  refine finds_status hK fun t₅ worktreeStatus ht₅ hstatus _ _ hclean => ?_
  refine hB t₅ (ht₁.trans (ht₂.trans (ht₃.trans (ht₄.trans ht₅)))) ?_
  exact {
    onlyCommit := ⟨count, hcount.mono (ht₂.trans (ht₃.trans (ht₄.trans ht₅))), honly⟩
    parent := ⟨parent, hparent.mono (ht₃.trans (ht₄.trans ht₅)), hdirect⟩
    trailer := ⟨message, hmessage.mono (ht₄.trans ht₅), htrailer⟩
    branchHead := ⟨head, hhead.mono ht₅, hbranch⟩
    worktreeClean := ⟨worktreeStatus, hstatus, hclean⟩ }

/-- Created or recovered, the commit was verified. -/
theorem finds_createOrRecoverCommit {settings : PromotionSettings} {candidate : Candidate}
    {dirty : Bool} {B : HostLog → String → Prop} (hK : PermitsQueries K)
    (hB : ∀ t' commitSha, t <+: t' → CommitShown candidate t' commitSha → B t' commitSha) :
    (createOrRecoverCommit settings candidate dirty).Finds K B t := by
  simp only [createOrRecoverCommit, SoftwareEngineeringPromotionService.check, Proc.finds_bind,
    Proc.finds_ite, Proc.finds_pure, Proc.finds_ofExcept]
  refine finds_git hK (by simp [IsPush]) fun t₁ worktreeHead ht₁ _ => ⟨fun _ _ _ => ?_, fun _ _ _ => ?_⟩
  · exact finds_verifyCommit hK fun t₂ ht₂ hshown => hB _ _ (ht₁.trans ht₂) hshown
  · simp only [createCommit, SoftwareEngineeringPromotionService.check, TrustedGitWorkspace.runGit,
      Proc.finds_bind, Proc.finds_tryCatch_throw, Proc.finds_pure, Proc.finds_ofExcept]
    refine finds_output hK (by simp [IsPush]) fun t₂ _ ht₂ _ => ?_
    refine finds_askHost hK (by simp [IsPush]) fun t₃ staged ht₃ _ _ _ _ => ?_
    refine finds_output hK (by simp [IsPush]) fun t₄ _ ht₄ _ => ?_
    refine finds_git hK (by simp [IsPush]) fun t₅ commitSha ht₅ _ => ?_
    refine finds_verifyCommit hK fun t₆ ht₆ hshown => ?_
    exact hB _ _ (ht₁.trans (ht₂.trans (ht₃.trans (ht₄.trans (ht₅.trans ht₆))))) hshown

/-- What the checks before any change have shown. -/
theorem finds_preflight {settings : PromotionSettings} {actionId : UUID}
    {B : HostLog → PurePath × String × Bool → Prop} (hK : PermitsQueries K)
    (hB : ∀ t' head dirty, t <+: t' → CheckoutShown settings t' head →
      B t' (settings.workspace.root, head, dirty)) :
    (preflight settings actionId).Finds K B t := by
  simp only [preflight, SoftwareEngineeringPromotionService.reviewed,
    SoftwareEngineeringPromotionService.check, Proc.finds_bind, Proc.finds_tryCatch_throw,
    Proc.finds_pure, Proc.finds_ofExcept, Except.raiseIf_eq_ok_iff, not_or, not_not]
  refine finds_validate hK fun t₁ ht₁ => ?_
  refine finds_review hK fun t₂ review ht₂ hreview _ hkept => ?_
  obtain ⟨hclean, hunchanged⟩ := hkept
  refine finds_git hK (by simp [IsPush]) fun t₃ branch ht₃ hbranch _ hbase => ?_
  refine finds_status hK fun t₄ canonicalStatus ht₄ hstatus _ _ hblank _ _ _ _ => ?_
  refine finds_git hK (by simp [IsPush]) fun t₅ _ ht₅ _ => ?_
  refine finds_git hK (by simp [IsPush]) fun t₆ head ht₆ hhead => ?_
  refine finds_git hK (by simp [IsPush]) fun t₇ remoteBase ht₇ hremote _ hmatches => ?_
  refine hB t₇ _ _ (ht₁.trans (ht₂.trans (ht₃.trans (ht₄.trans (ht₅.trans (ht₆.trans ht₇)))))) ?_
  obtain ⟨output, htwice, houtput⟩ := hreview hclean hunchanged
  exact {
    unchanged := ⟨output,
      htwice.mono (ht₃.trans (ht₄.trans (ht₅.trans (ht₆.trans ht₇)))), houtput⟩
    onBase := ⟨branch, hbranch.mono (ht₄.trans (ht₅.trans (ht₆.trans ht₇))), hbase⟩
    clean := ⟨canonicalStatus, hstatus.mono (ht₅.trans (ht₆.trans ht₇)), hblank⟩
    canonicalHead := ⟨head, hhead.mono ht₇, rfl⟩
    remoteBase := ⟨remoteBase, hremote, hmatches⟩ }

/-- The canonical checkout is found clean and at the same HEAD once more. -/
theorem finds_recheck {root : PurePath} {canonicalHead : String} {B : HostLog → Unit → Prop}
    (hK : PermitsQueries K)
    (hB : ∀ after, (∃ output, Printed after (.git (.revParse "HEAD")) root output ∧
        Python.strip output = canonicalHead) →
      (∃ output, Printed after (.git .status) root output ∧ Python.strip output = "") →
      B (t ++ after) ()) :
    (recheck root canonicalHead).Finds K B t := by
  simp only [recheck, SoftwareEngineeringPromotionService.git,
    SoftwareEngineeringPromotionService.check, status, Proc.finds_bind, Proc.finds_pure,
    Proc.finds_ofExcept, Except.raiseIf_eq_ok_iff, not_not]
  refine finds_gitOutput (hK _ _ (by simp [IsPush])) fun head hhead _ hsame => ?_
  refine finds_gitOutput (hK _ _ (by simp [IsPush])) fun canonicalStatus hstatus _ hblank => ?_
  rw [List.append_assoc]
  exact hB _ ⟨_, (printed_singleton hhead).mono (List.prefix_append ..), hsame⟩
    ⟨_, printed_concat hstatus, hblank⟩

/-- A pushed branch was read back from the remote. -/
theorem finds_pushBranch {settings : PromotionSettings} {root : PurePath} {branch commitSha : String}
    {B : HostLog → Unit → Prop} (hK : PermitsQueries K)
    (hpush : K t (.run (.git (.push settings.remote branch)) root))
    (hB : ∀ after, (∃ output, Printed after (.git (.push settings.remote branch)) root output) →
      (∃ output, Printed after (.git (.lsRemote settings.remote branch)) root output ∧
        (Python.split (Python.strip output)).head? = some commitSha) → B (t ++ after) ()) :
    (pushBranch settings root branch commitSha).Finds K B t := by
  simp only [pushBranch, SoftwareEngineeringPromotionService.git, Proc.finds_bind,
    Proc.finds_pure, Proc.finds_ofExcept, Except.raiseIf_eq_ok_iff, not_not]
  refine finds_gitOutput hpush fun pushed hpushed => ?_
  refine finds_gitOutput (hK _ _ (by simp [IsPush])) fun remoteHead hremote _ hsame => ?_
  rw [List.append_assoc]
  exact hB _ ⟨_, (printed_singleton hpushed).mono (List.prefix_append ..)⟩
    ⟨_, printed_concat hremote, hsame⟩

variable [PyJson] {settings : PromotionSettings} {actionId : UUID}

/-- A pull request that is found was listed. -/
theorem finds_find {B : HostLog → Option PullRequestPublication → Prop} (hK : PermitsQueries K)
    (hB : ∀ after found, (∀ publication, found = some publication →
      PullRequestShown settings actionId after publication) → B (t ++ after) found) :
    (GitHubCliPullRequestPublisher.find settings.workspace.root settings.baseBranch
      (settings.workspace.expectedWorktree actionId).branch).Finds K B t := by
  rw [GitHubCliPullRequestPublisher.find_eq]
  refine ⟨hK _ _ (by simp [IsPush]), fun reply found hfound => ?_⟩
  obtain ⟨raw, hraw, hlisted⟩ := Except.bind_eq_ok_iff.mp hfound
  obtain ⟨result, rfl, hresult, rfl⟩ := GitHubCliPullRequestPublisher.readOutput_eq_ok_iff.mp hraw
  refine hB _ found ?_
  rintro publication rfl
  obtain ⟨items, item, hitems, hmatching, hidentity⟩ :=
    GitHubCliPullRequestPublisher.publicationOf_eq_ok_some hlisted
  exact ⟨_, items, item, printed_singleton hresult, hitems, hmatching, hidentity⟩

theorem PullRequestShown.mono {log log' : HostLog} {publication : PullRequestPublication}
    (h : PullRequestShown settings actionId log publication) (hlog : log <+: log') :
    PullRequestShown settings actionId log' publication := by
  obtain ⟨raw, items, item, hraw, h⟩ := h
  exact ⟨raw, items, item, hraw.mono hlog, h⟩

theorem PullRequestShown.append_right {log log' : HostLog} {publication : PullRequestPublication}
    (h : PullRequestShown settings actionId log' publication) :
    PullRequestShown settings actionId (log ++ log') publication := by
  obtain ⟨raw, items, item, hraw, h⟩ := h
  exact ⟨raw, items, item, hraw.append_right, h⟩

theorem PullRequestShown.created_eq {log : HostLog} {publication : PullRequestPublication}
    (h : PullRequestShown settings actionId log publication) : publication.created = false := by
  obtain ⟨_, _, item, _, _, _, hidentity⟩ := h
  exact (GitHubCliPullRequestPublisher.identity_eq_ok hidentity).2.2.2.2.2

/-- A published pull request was listed, between the two branches. -/
theorem finds_publishPullRequest {title body : String}
    {B : HostLog → PullRequestPublication → Prop} (hK : PermitsQueries K)
    (hB : ∀ after publication,
      PullRequestShown settings actionId after { publication with created := false } →
      publication.baseBranch = settings.baseBranch →
      publication.headBranch = (settings.workspace.expectedWorktree actionId).branch →
      B (t ++ after) publication) :
    (publishPullRequest settings settings.workspace.root
      (settings.workspace.expectedWorktree actionId).branch title body).Finds K B t := by
  simp only [publishPullRequest, GitHubCliPullRequestPublisher.publish, Proc.finds_bind,
    Proc.finds_tryCatch_throw, Proc.finds_pure, Proc.finds_ofExcept, Except.raiseIf_eq_ok_iff,
    not_or, not_not]
  refine finds_find hK fun after found hfound => ?_
  rcases found with _ | existing
  · -- nothing is listed: the pull request is created, and has to be found then
    simp only [GitHubCliPullRequestPublisher.run_eq, Proc.finds_bind, Proc.finds_request]
    refine ⟨hK _ _ (by simp [IsPush]), fun _ _ _ => ?_⟩
    refine finds_find hK fun after' found hfound' => ?_
    rcases found with _ | published
    · exact Proc.finds_throw.mpr trivial
    · refine Proc.finds_pure.mpr ?_
      rintro _ ⟨hbase, hhead⟩
      have hshown := hfound' published rfl
      rw [List.append_assoc, List.append_assoc]
      refine hB _ _ ?_ hbase hhead
      have hpublished : { published with created := false } = published := by
        rw [← hshown.created_eq]
      rw [hpublished]
      exact hshown.append_right.append_right
  · refine Proc.finds_pure.mpr ?_
    rintro _ ⟨hbase, hhead⟩
    have hshown := hfound existing rfl
    refine hB _ _ ?_ hbase hhead
    have hexisting : { existing with created := false } = existing := by
      rw [← hshown.created_eq]
    rw [hexisting]
    exact hshown

/-- A promotion pushes only what was shown, and returns only what was read back. -/
theorem finds_publish {title body : String} :
    (publish settings actionId title body).Finds (PushPermitted settings actionId)
      (PublicationShown settings actionId) [] := by
  have hK : PermitsQueries (PushPermitted settings actionId) := by
    rintro t c hc remote branch cwd rfl
    exact absurd ⟨remote, branch, cwd, rfl⟩ hc
  simp only [publish, Proc.finds_bind, Proc.finds_pure]
  refine finds_preflight hK fun t₁ head dirty _ hcheckout => ?_
  refine finds_createOrRecoverCommit hK fun t₂ commitSha ht₂ hcommit => ?_
  refine finds_recheck hK fun after hsame hblank => ?_
  have hshown : PushShown settings actionId (t₂ ++ after) commitSha :=
    ⟨head, t₂, after, rfl, hcheckout.mono ht₂, hcommit, hsame, hblank⟩
  refine finds_pushBranch hK ?_ fun after' hpushed hremote => ?_
  · rintro remote branch cwd hcall
    cases hcall
    exact ⟨rfl, rfl, rfl, commitSha, hshown⟩
  · refine finds_publishPullRequest hK fun after'' publication hlisted hbase hhead => ?_
    refine ⟨⟨t₂ ++ after, after' ++ after'', by rw [List.append_assoc], hshown, ?_, ?_, ?_⟩, hbase,
      hhead⟩
    · exact hpushed.imp fun _ hp => hp.mono (List.prefix_append ..)
    · exact hremote.imp fun _ => And.imp_left fun hp => hp.mono (List.prefix_append ..)
    · exact hlisted.append_right

end Finds

/-! ### The durable row -/

/-- The row proves that the work product was made on the canonical route and kept. -/
structure RunState.Promotable (state : RunState) : Prop where
  canonical : IsCanonicalState state
  succeeded : state.executionStatus = some "succeeded"
  finished : state.executionFinishedAt ≠ none
  kept : state.disposition = some .keep
  keptSuccessfully : state.dispositionSucceeded = some true
  worktreePresent : state.worktreePresent = some true
  branchPresent : state.branchPresent = some true
  canonicalUnchanged : state.canonicalUnchanged = some true

theorem verifyAction_eq_ok_iff {state : RunState} {u : Unit} :
    SoftwareEngineeringPromotionService.verifyAction state = .ok u ↔ state.Promotable := by
  simp only [SoftwareEngineeringPromotionService.verifyAction, Except.bind_eq_ok_iff,
    Except.raiseIf_eq_ok_iff, not_or, not_not, ne_eq]
  constructor
  · rintro ⟨_, hcanonical, _, ⟨hstatus, hfinished⟩, hkeep, hkept, hworktree, hbranch, hunchanged⟩
    exact ⟨hcanonical, hstatus, hfinished, hkeep, hkept, hworktree, hbranch, hunchanged⟩
  · rintro ⟨hcanonical, hstatus, hfinished, hkeep, hkept, hworktree, hbranch, hunchanged⟩
    exact ⟨(), hcanonical, (), ⟨hstatus, hfinished⟩, hkeep, hkept, hworktree, hbranch, hunchanged⟩

/-- The six promotion fields are all set, or none of them is. -/
def RunState.PromotionAllOrNone (state : RunState) : Prop :=
  (state.promotionCommitSha.isSome ∧ state.pullRequestNumber.isSome ∧
    state.pullRequestUrl.isSome ∧ state.promotionBaseBranch.isSome ∧
    state.promotionHeadBranch.isSome ∧ state.promotionFinishedAt.isSome) ∨
  (state.promotionCommitSha = none ∧ state.pullRequestNumber = none ∧
    state.pullRequestUrl = none ∧ state.promotionBaseBranch = none ∧
    state.promotionHeadBranch = none ∧ state.promotionFinishedAt = none)

/-- No operation sets a part of the promotion fields. -/
theorem RunWrite.promotionAllOrNone_of_apply {write : RunWrite} {current : Option RunState}
    {state : RunState} (hcurrent : ∀ row, current = some row → row.PromotionAllOrNone)
    (h : write.apply current = .ok state) : state.PromotionAllOrNone := by
  cases write with
  | registerAction now registration =>
    obtain ⟨-, ⟨-, rfl⟩ | ⟨row, hrow, -, -, rfl⟩⟩ := registerAction_eq_ok_iff.mp h
    · exact Or.inr ⟨rfl, rfl, rfl, rfl, rfl, rfl⟩
    · exact hcurrent row hrow
  | recordApproval now id objective approvedAt =>
    obtain ⟨row, hrow, -, -, -, rfl⟩ := recordApproval_eq_ok_iff.mp h
    exact hcurrent row hrow
  | recordRejection now id rejectedAt =>
    obtain ⟨row, hrow, -, -, rfl⟩ := recordRejection_eq_ok_iff.mp h
    exact hcurrent row hrow
  | recordExecutionStarted now id startedAt =>
    obtain ⟨row, hrow, -, -, rfl⟩ := recordExecutionStarted_eq_ok_iff.mp h
    exact hcurrent row hrow
  | releaseUnstartedClaim id expected reconciled =>
    obtain ⟨row, hrow, -, -, -, -, rfl⟩ := releaseUnstartedClaim_eq_ok_iff.mp h
    exact hcurrent row hrow
  | abandonStartedClaim id expected reconciled =>
    obtain ⟨row, hrow, -, -, -, -, rfl⟩ := abandonStartedClaim_eq_ok_iff.mp h
    exact hcurrent row hrow
  | recordExecution now id status finishedAt external =>
    obtain ⟨row, hrow, rfl⟩ := recordExecution_eq_ok_iff.mp h
    exact hcurrent row hrow
  | recordDisposition now result =>
    obtain ⟨row, hrow, rfl⟩ := recordDisposition_eq_ok_iff.mp h
    exact hcurrent row hrow
  | recordPromotion now promotion =>
    obtain ⟨row, -, rfl⟩ := recordPromotion_eq_ok_iff.mp h
    exact Or.inl ⟨rfl, rfl, rfl, rfl, rfl, rfl⟩

/-- Whatever a process does, and wherever it is stopped, the promotion fields of every
row stay all set or all null. -/
theorem promotionAllOrNone_interrupt {R : RunRepository} {env : Environment} {V α : Type}
    (k : Handler Host V) (p : Prog (Outside.sum Host) α) (x : World R × V)
    (hx : ∀ id state, x.1.row id = some state → state.PromotionAllOrNone) (n : ℕ) :
    ∀ id state, (p.interrupt (Handler.both (outside env R) k) n x).1.row id = some state →
      state.PromotionAllOrNone := by
  have hp : p.Always (Handler.both (outside env R) k) (fun _ _ => True) (fun _ _ => True) x :=
    Prog.always_of_run trivial
  refine hp.interrupt (I := fun x => ∀ id state, x.1.row id = some state →
    state.PromotionAllOrNone) (fun c x _ hx => ?_) hx n
  cases c with
  | inl call =>
    exact row_invariant_outside RunWrite.promotionAllOrNone_of_apply (fun h => h) hx
  | inr call => exact hx

/-! ### Promotion as a whole -/

section Promote

variable [PyJson]

/-- What has to be shown before a call of a promotion: before a push, the row and all
that the commands have to show; before the record, what is recorded. -/
def PromotionGated (settings : PromotionSettings) (actionId : UUID) {R : RunRepository} {V : Type} :
    (Outside.sum Host).Call → World R × (V × HostLog) → Prop
  | .inr call, x =>
    PushPermitted settings actionId x.2.2 call ∧
      (IsPush call → ∃ state, x.1.row actionId = some state ∧ state.Promotable)
  | .inl (.store (.write write)), x => ∃ now finishedAt publication,
    write = .recordPromotion now {
      actionId
      commitSha := publication.commitSha
      pullRequestNumber := publication.number
      pullRequestUrl := publication.url
      baseBranch := publication.baseBranch
      headBranch := publication.headBranch
      finishedAt } ∧
    PublicationShown settings actionId x.2.2 publication
  | .inl (.store (.claimApproved ..)), _ => False
  | .inl (.execute _), _ => False
  | .inl _, _ => True

/-- How a promotion ends: recorded as it was shown, with a promotion that was recorded
before, or with an exception. Only the first changes a row. -/
def PromotionSettled (settings : PromotionSettings) (actionId : UUID) {R : RunRepository} {V : Type}
    (w : World R) (r : Except Raised PromotionPublication) (x : World R × (V × HostLog)) : Prop :=
  match r with
  | .ok publication =>
    (∃ state now finishedAt, w.row actionId = some state ∧ state.Promotable ∧
      PublicationShown settings actionId x.2.2 publication ∧
      x.1.row = Function.update w.row actionId (some (state.promoted {
        actionId
        commitSha := publication.commitSha
        pullRequestNumber := publication.number
        pullRequestUrl := publication.url
        baseBranch := publication.baseBranch
        headBranch := publication.headBranch
        finishedAt } now))) ∨
    (∃ state, w.row actionId = some state ∧ state.Promotable ∧
      SoftwareEngineeringPromotionService.recordedPromotion settings.configuration actionId state =
        .ok publication ∧ x.2.2 = [] ∧ x.1.row = w.row)
  | .error _ => x.1.row = w.row

/-- A promotion pushes and records only what was shown, whatever the commands answer. -/
theorem ensures_promote (settings : PromotionSettings) (actionId : UUID) (title body : String)
    (env : Environment) {R : RunRepository} {V : Type} (k : Handler Host V) (w : World R) (v : V) :
    (settings.promote actionId title body).Ensures (Handler.both (outside env R) k.logged)
      (PromotionGated settings actionId)
      (fun r _ x => PromotionSettled settings actionId w r x) () (w, (v, [])) := by
  simp only [PromotionSettings.promote, SoftwareEngineeringPromotionService.promote,
    Proc.ensures_expand_bind, Proc.ensures_expand_ofExcept, PromotionSettings.ensures_get]
  by_cases henabled : settings.configuration.enabled = true
  swap
  · rw [Except.raiseIf_pos henabled]
    exact rfl
  rw [Except.raiseIf_neg (not_not_intro henabled)]
  refine ⟨trivial, ?_⟩
  rcases hrow : w.row actionId with _ | state
  · exact rfl
  simp only [Except.either_ok, Proc.ensures_expand_bind, Proc.ensures_expand_ofExcept]
  rcases hverify : SoftwareEngineeringPromotionService.verifyAction state with e | u
  · exact rfl
  have hpromotable : state.Promotable := verifyAction_eq_ok_iff.mp hverify
  simp only [Except.either_ok]
  by_cases havailable : settings.configuration.available = true
  swap
  · rw [Except.raiseIf_pos havailable]
    exact rfl
  rw [Except.raiseIf_neg (not_not_intro havailable), Except.either_ok]
  refine Proc.ensures_expand_ite.mpr ⟨fun _ => ?_, fun _ => ?_⟩
  · -- the promotion that was recorded before is returned as it is
    rw [Proc.ensures_expand_ofExcept]
    rcases hrecorded : SoftwareEngineeringPromotionService.recordedPromotion settings.configuration
      actionId state with e | publication
    · exact rfl
    · exact Or.inr ⟨state, hrow, hpromotable, hrecorded, rfl, rfl⟩
  simp only [Proc.ensures_expand_bind, PromotionSettings.ensures_publishPromotion]
  refine Prog.Always.mono (Prog.Traced.logged finds_publish k v) ?_ ?_
  · exact fun call x hpermitted => ⟨hpermitted, fun _ => ⟨state, hrow, hpromotable⟩⟩
  rintro ⟨r, _⟩ ⟨v', log⟩ hshown
  rcases r with e | publication
  · exact rfl
  have hpublication : PublicationShown settings actionId log publication := hshown publication rfl
  simp only [Except.either_ok, Proc.ensures_expand_pure, PromotionSettings.ensures_utcnow]
  refine ⟨trivial, PromotionSettings.ensures_stamped settings ?_⟩
  have hid : ∀ now : DateTime, (RunWrite.recordPromotion now {
      actionId
      commitSha := publication.commitSha
      pullRequestNumber := publication.number
      pullRequestUrl := publication.url
      baseBranch := publication.baseBranch
      headBranch := publication.headBranch
      finishedAt := env.clock w.ticks }).actionId = actionId := fun _ => rfl
  refine Repository.ensures_stamped hid ?_ ?_ ?_ ?_
  · rintro c w' hquiet
    cases c with
    | execute => exact hquiet
    | store call =>
      cases call with
      | claimApproved => exact hquiet
      | write => exact hquiet.elim
      | _ => exact trivial
    | _ => exact trivial
  · exact fun now w' _ => ⟨now, _, publication, rfl, hpublication⟩
  · intro now stored w' happly hw'
    obtain ⟨row, hcurrent, rfl⟩ := recordPromotion_eq_ok_iff.mp happly
    obtain rfl : state = row := Option.some.inj (hrow.symm.trans hcurrent)
    exact Or.inl ⟨state, now, _, hrow, hpromotable, hpublication, hw'.row⟩
  · exact fun now e w' _ hw' => hw'.row

/-- Whatever git, the GitHub CLI and the file system answer, a promotion pushes only what
was shown to be the kept work product, records only what was read back, and leaves the
rows alone otherwise. Over anything a process does, the promotion fields of a row stay
all set or all null. -/
theorem promotion_gated (settings : PromotionSettings) (actionId : UUID) (title body : String)
    (env : Environment) (R : RunRepository) {V : Type} (k : Handler Host V) :
    (∀ (w : World R) (v : V),
      (settings.promote actionId title body).Ensures (Handler.both (outside env R) k.logged)
        (PromotionGated settings actionId)
        (fun r _ x => PromotionSettled settings actionId w r x) () (w, (v, []))) ∧
    ∀ {α : Type} (p : Prog (Outside.sum Host) α) (x : World R × V),
      (∀ id state, x.1.row id = some state → state.PromotionAllOrNone) → ∀ n id state,
      (p.interrupt (Handler.both (outside env R) k) n x).1.row id = some state →
        state.PromotionAllOrNone :=
  ⟨ensures_promote settings actionId title body env k, promotionAllOrNone_interrupt k⟩

end Promote

/-! ### A promotion that was recorded before -/

/-- Promotion of one repository to its branch `main`. -/
def PromotionSettings.sample : PromotionSettings where
  workspace := { root := { root := "/", parts := ["srv", "velox"] } }
  enabled := true
  available := true
  remote := "origin"
  baseBranch := "main"
  authorName := "VELOX"
  authorEmail := "velox@localhost"

/-- A kept work product that has been promoted. -/
def RunState.promotedSample : RunState where
  actionId := 0
  executorRole := ExecutorRole.softwareEngineering.value
  capability := SOFTWARE_ENGINEERING_IMPLEMENT_CAPABILITY
  target := "velox"
  executionStatus := some "succeeded"
  executionFinishedAt := some .min
  disposition := some .keep
  dispositionSucceeded := some true
  worktreePresent := some true
  branchPresent := some true
  canonicalUnchanged := some true
  promotionCommitSha := some "c0ffee"
  pullRequestNumber := some 7
  pullRequestUrl := some "https://host/7"
  promotionBaseBranch := some "main"
  promotionHeadBranch := some (PromotionSettings.sample.workspace.expectedWorktree 0).branch
  promotionFinishedAt := some .min

/-- An outside whose only durable row is the given one. -/
def World.ofRow (state : RunState) : World inMemoryRunRepository :=
  { World.initial inMemoryRunRepository with repository := InMemoryRunRepository.empty.store state }

theorem World.row_ofRow (state : RunState) :
    (World.ofRow state).row = Function.update (fun _ => none) state.actionId (some state) :=
  InMemoryRunRepository.get_store

/-- No command can be run. -/
def noCommands : Handler Host Unit := fun _ u => (.error (unavailable "no command can be run"), u)

/-- A promotion that is recorded already is returned: the call neither records nor raises. -/
theorem not_raises_unless_recorded :
    letI : PyJson := ⟨fun _ => .error ⟨jsonDecodeError, "Expecting value"⟩⟩
    ¬∀ (settings : PromotionSettings) (actionId : UUID) (w : World inMemoryRunRepository),
      (∀ exchange ∈ (settings.promote actionId "title" "body" ()).transcript
          (Handler.both (outside .cooperative inMemoryRunRepository) noCommands) (w, ()),
        ∀ write, exchange.1 ≠ .inl (.store (.write write))) →
      ((settings.promote actionId "title" "body").run
        (Handler.both (outside .cooperative inMemoryRunRepository) noCommands) () (w, ())).1.1.raised
          = true := by
  intro h
  refine absurd (h .sample 0 (.ofRow .promotedSample) fun exchange hmem write => ?_) (by decide)
  -- the row is read, and that is the only call
  replace hmem : exchange ∈ [⟨.inl (.store (.get 0)), .ok (some .promotedSample)⟩] := hmem
  obtain rfl := List.mem_singleton.mp hmem
  exact fun hcall => nomatch hcall

/-- A promoted row stays complete, wherever a promotion is stopped. -/
theorem promotion_gated_of_promoted :
    letI : PyJson := ⟨fun _ => .error ⟨jsonDecodeError, "Expecting value"⟩⟩
    ∀ n id state, ((PromotionSettings.sample.promote 0 "title" "body" ()).interrupt
        (Handler.both (outside .cooperative inMemoryRunRepository) noCommands) n
        (World.ofRow .promotedSample, ())).1.row id = some state → state.PromotionAllOrNone := by
  let _ : PyJson := ⟨fun _ => .error ⟨jsonDecodeError, "Expecting value"⟩⟩
  refine (promotion_gated .sample 0 "title" "body" .cooperative inMemoryRunRepository
    noCommands).2 _ (World.ofRow .promotedSample, ()) ?_
  intro id state hrow
  rw [World.row_ofRow] at hrow
  refine RunRepository.update_invariant (I := RunState.PromotionAllOrNone) ?_ ?_ id state hrow
  · exact fun _ _ hnone => nomatch hnone
  · exact Or.inl ⟨rfl, rfl, rfl, rfl, rfl, rfl⟩

end Velox
