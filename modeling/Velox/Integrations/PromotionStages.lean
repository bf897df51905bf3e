import Velox.Integrations.GitSite

/-!
# The stages of a promotion

A promotion that is cut short leaves the work product as it was, staged, committed,
pushed or published. Every stage comes to its result from each of these states, and a
failing command leaves one of them again.

## Main definitions

* `SiteState.Kept`, `SiteState.Uncommitted`, `GitSite.Committed`, `GitSite.Published` — how far
  the promotion has come
* `GitSite.Promotes` — the canonical checkout and the configuration of a promotion
* `GitSite.Lists` — what the pull-request host lists

## Main results

* `GitSite.yields_createOrRecoverCommit` — there is one commit, made or recovered
* `GitSite.yields_publish` — all the stages, one after another
-/

set_option autoImplicit false

namespace Velox

/-! ### How far a promotion has come -/

/-- The worktree of an action that was kept, next to a clean canonical checkout. -/
structure SiteState.Kept (s : SiteState) : Prop where
  inPlace : s.InPlace
  branch : s.branch = true
  canonicalClean : Python.strip s.canonicalStatus = ""

/-- No commit was made of the work product. -/
structure SiteState.Unpromoted (s : SiteState) : Prop extends s.Kept where
  commits : s.commits = 0
  pushed : s.pushed = []
  pullRequests : s.pullRequests = 0

/-- There is something to commit. -/
structure SiteState.Uncommitted (s : SiteState) : Prop extends s.Unpromoted where
  changed : s.changes = true ∨ s.staged = true

namespace GitSite

variable {settings : PromotionSettings} {actionId : UUID}

/-- The work product is in one commit, no other was pushed, and there is at most one pull
request. -/
structure Committed (site : GitSite settings actionId) (s : SiteState) : Prop extends s.Kept where
  commits : s.commits = 1
  changes : s.changes = false
  staged : s.staged = false
  pushed : ∀ sha ∈ s.pushed, sha = site.sha 0
  pullRequests : s.pullRequests ≤ 1

/-- The states that attempts to promote leave behind. -/
def Promoting (site : GitSite settings actionId) (s : SiteState) : Prop :=
  s.Uncommitted ∨ site.Committed s

/-- The commit is on the remote and has its pull request. -/
structure Published (site : GitSite settings actionId) (s : SiteState) : Prop
    extends site.Committed s where
  remote : s.pushed ≠ []
  pullRequest : s.pullRequests = 1

/-- Promotion is configured, and the canonical checkout is on the base branch, which the
remote has at the same commit. -/
structure Promotes (site : GitSite settings actionId) : Prop where
  enabled : settings.enabled = true
  available : settings.available = true
  remote : settings.remote ≠ "" ∧ ¬SoftwareEngineeringPromotionService.IsOption settings.remote
  baseBranch : settings.baseBranch ≠ "" ∧
    ¬SoftwareEngineeringPromotionService.IsOption settings.baseBranch
  onBase : Python.strip (site.currentBranch ++ "\n") = settings.baseBranch
  remoteBase : (Python.split site.remoteBase).head? = some site.canonicalHead

/-- The pull-request host lists nothing for the branch, and then the one pull request that
was created, between the two branches. -/
structure Lists [PyJson] (site : GitSite settings actionId) (number : Int) (url : String) :
    Prop where
  none : PyJson.loads (site.pullRequestListing 0) = .ok (.list [])
  one : ∃ item, PyJson.loads (site.pullRequestListing 1) = .ok (.list [.dict item]) ∧
    Value.field item "headRefName" = .str site.worktree.branch ∧
    Value.field item "baseRefName" = .str settings.baseBranch ∧
    Value.field item "number" = .int number ∧ Value.field item "url" = .str url
  number : -2 ^ 63 ≤ number ∧ number < 2 ^ 63
  url : Python.strip url ≠ ""

/-- What the promotion of the work product is known by. -/
def publication (site : GitSite settings actionId) (number : Int) (url : String) (created : Bool) :
    PromotionPublication where
  commitSha := site.sha 0
  number
  url
  baseBranch := settings.baseBranch
  headBranch := site.worktree.branch
  created

/-- What is committed. -/
abbrev candidate (site : GitSite settings actionId) :
    SoftwareEngineeringPromotionService.Candidate :=
  SoftwareEngineeringPromotionService.candidate settings actionId settings.workspace.root
    site.canonicalHead

theorem candidate_worktreePath (site : GitSite settings actionId) :
    site.candidate.worktreePath = site.worktree.path := by
  rw [candidate, SoftwareEngineeringPromotionService.candidate]

section Stages

open TrustedGitWorkspace (readOutput gitOutput gitOutput_eq status)
open SoftwareEngineeringPromotionService (git verifyCommit createCommit
  createOrRecoverCommit reviewed preflight recheck pushBranch publishPullRequest publish stateError
  trailer subject)

variable {site : GitSite settings actionId} {faults : Prop} {W : Type} {h : Handler Host W}
  {view : W → SiteState} {I : SiteState → Prop} {s s' : SiteState}

/-! ### What is printed -/

theorem isWord_commitAt (site : GitSite settings actionId) (n : ℕ) :
    Python.IsWord (site.commitAt n) := by
  cases n with
  | zero => exact site.isWord_canonicalHead
  | succ n => exact site.isWord_sha n

theorem isLine_str (id : UUID) : Python.IsLine (UUID.str id) := fun _ hc =>
  UUID.of_mem_str (p := fun c => Python.isLineBreak c = false) rfl (by decide) hc

theorem isLine_trailer (actionId : UUID) : Python.IsLine (trailer actionId) :=
  isLine_append (isLine_of_all rfl) (isLine_str actionId)

theorem isLine_subject (actionId : UUID) : Python.IsLine (subject actionId) :=
  isLine_append (isLine_of_all rfl) (isLine_str actionId)

theorem head_append {front : String} (hfront : front.toList.head? = some 'V') (back : String) :
    (front ++ back).toList.head? = some 'V' := by
  rw [String.toList_append, List.head?_append, hfront]
  rfl

theorem getLast_append (front : String) {back : String} (hback : back ≠ "") :
    (front ++ back).toList.getLast? = back.toList.getLast? := by
  have hne : back.toList ≠ [] := fun hnil => hback (String.toList_injective hnil)
  rw [String.toList_append, List.getLast?_append_of_ne_nil _ hne]

/-- A text that begins as the trailer does and ends in the identifier is not padded. -/
theorem strip_of_ends {text back : String} (hhead : text.toList.head? = some 'V')
    (hlast : text.toList.getLast? = (UUID.str actionId).toList.getLast?)
    (hback : ∀ c ∈ back.toList, Python.isSpace c = true) : Python.strip (text ++ back) = text := by
  refine Python.strip_append (fun c hc => ?_) (fun c hc => ?_) hback
  · rw [hhead] at hc
    obtain rfl := Option.some.inj hc
    rfl
  · rw [hlast] at hc
    exact UUID.of_mem_str (p := fun c => Python.isSpace c = false) rfl (by decide)
      (List.mem_of_mem_getLast? hc)

theorem getLast_trailer (actionId : UUID) :
    (trailer actionId).toList.getLast? = (UUID.str actionId).toList.getLast? :=
  getLast_append _ (by simp [UUID.str, UUID.hyphenate])

theorem trailer_ne_empty (actionId : UUID) : trailer actionId ≠ "" := by
  simp [trailer]

/-- A commit message is printed with line feeds after it. -/
theorem strip_message (actionId : UUID) :
    Python.strip (message actionId ++ "\n\n") = message actionId := by
  have hsubject : (subject actionId).toList.head? = some 'V' := head_append rfl _
  have hbody : ("" ++ "\n" ++ trailer actionId).toList.getLast? =
      (trailer actionId).toList.getLast? := getLast_append _ (trailer_ne_empty actionId)
  have hlast : (message actionId).toList.getLast? = (UUID.str actionId).toList.getLast? :=
    (getLast_append _ (by simp)).trans (hbody.trans (getLast_trailer actionId))
  exact strip_of_ends (head_append (head_append hsubject "\n") _) hlast
    (List.all_eq_true.mp (by decide))

theorem strip_trailer (actionId : UUID) : Python.strip (trailer actionId) = trailer actionId := by
  have hstrip : Python.strip (trailer actionId ++ "") = trailer actionId :=
    strip_of_ends (head_append rfl _) (getLast_trailer actionId) (by simp)
  rwa [String.append_empty] at hstrip

/-- The trailer is a line of the message. -/
theorem trailer_mem_message (actionId : UUID) :
    trailer actionId ∈ (Python.splitlines (Python.strip (message actionId ++ "\n\n"))).map
      Python.strip := by
  have hlines : Python.splitlines (message actionId) =
      [subject actionId, "", trailer actionId] := by
    have hempty : Python.IsLine "" := isLine_of_all rfl
    rw [message, Python.splitlines_line_append _ (isLine_subject actionId),
      Python.splitlines_line_append _ hempty,
      Python.splitlines_line (isLine_trailer actionId) (trailer_ne_empty actionId)]
  rw [strip_message, hlines]
  exact List.mem_map.mpr ⟨trailer actionId, by simp, strip_trailer actionId⟩

/-! ### Single commands -/

variable (hM : site.machine.Follows faults (h.restrict site.host) view)

/-- A checked command whose output is stripped. -/
theorem yields_git {command : GitCommand} {cwd : PurePath} {output : String}
    (hrun : (Proc.request Host (.run (.git command) cwd)
      (readOutput (stateError "trusted git verification failed")) : HostTask String).Yields h view
        faults I s output s') :
    (git command cwd).Yields h view faults I s (Python.strip output) s' := by
  rw [git, gitOutput_eq]
  exact Proc.Yields.bind hrun (Proc.yields_pure _)

include hM

/-- A question leaves the state as it is. -/
theorem yields_question {α : Type} (c : SiteCall) (hc : c.Asks)
    (unpack : Host.Reply (site.host c) → Except Raised α) {a : α} (hI : I s)
    (hreply : unpack (site.answer c s) = .ok a)
    (hfails : ∀ r, site.Fails c r → (unpack r).raised = true) :
    (Proc.request Host (site.host c) unpack : HostTask α).Yields h view faults I s a s := by
  have hsame : site.effect c s = s := effect_of_asks hc s
  have hcall := yields_call c (hM c) unpack hI (by rwa [hsame]) hreply hfails
  rwa [hsame] at hcall

theorem yields_canonicalHead (hI : I s) :
    (git (.revParse "HEAD") settings.workspace.root).Yields h view faults I s site.canonicalHead
      s := by
  have hgit := yields_git (yields_question hM .canonicalHead trivial (readOutput _) hI
    readOutput_printed fun _ => raised_readOutput)
  rwa [Python.strip_append_newline site.isWord_canonicalHead] at hgit

theorem yields_worktreeHead (hI : I s) :
    (git (.revParse "HEAD") site.worktree.path).Yields h view faults I s (site.commitAt s.commits)
      s := by
  have hgit := yields_git (yields_question hM .worktreeHead trivial (readOutput _) hI
    readOutput_printed fun _ => raised_readOutput)
  rwa [Python.strip_append_newline (site.isWord_commitAt s.commits)] at hgit

theorem yields_worktreeStatus (hI : I s) :
    (status site.worktree.path).Yields h view faults I s (site.worktreeStatus s.changes s.staged)
      s := by
  rw [status, gitOutput_eq]
  exact yields_question hM .worktreeStatus trivial (readOutput _) hI readOutput_printed
    fun _ => raised_readOutput

/-! ### The checks before anything is changed -/

omit hM in
/-- What a review finds. -/
def review (site : GitSite settings actionId) (s : SiteState) : WorkProductReview where
  changedFiles := TrustedGitWorkspace.changedFiles (site.worktreeStatus s.changes s.staged)
  untrackedFiles :=
    ((Python.splitlines (site.worktreeStatus s.changes s.staged)).filter fun line =>
      (Python.afterPrefix "?? " line).isSome).map (Python.drop 3)
  dirty := Python.strip (site.worktreeStatus s.changes s.staged) ≠ ""
  canonicalClean := Python.strip s.canonicalStatus = ""
  canonicalUnchanged := true

theorem yields_review (hI : I s) (hplace : s.InPlace) :
    ((WorkProductService.mk settings.workspace).review actionId).Yields h view faults I s
      (site.review s) s := by
  have hanswers : site.Answers faults h view := fun c _ => hM c
  rw [WorkProductService.review]
  refine Proc.Yields.bind (yields_verified hanswers hI hplace) ?_
  refine Proc.Yields.bind (Proc.Yields.tryCatch (yields_worktreeStatus hM hI)) ?_
  rw [WorkProductService.git, gitOutput_eq]
  refine Proc.Yields.bind (yields_question hM .diffStat trivial (readOutput _) hI readOutput_exited
    fun _ => raised_readOutput) ?_
  rw [WorkProductService.git, gitOutput_eq]
  refine Proc.Yields.bind (yields_question hM .diff trivial (readOutput _) hI readOutput_exited
    fun _ => raised_readOutput) ?_
  refine Proc.Yields.bind (Proc.Yields.tryCatch (yields_status hanswers hI)) ?_
  have hunchanged : decide (s.canonicalStatus = s.canonicalStatus) = true := decide_eq_true rfl
  rw [hunchanged]
  exact Proc.yields_pure _

/-- A promotion finds the canonical checkout as it has to be. -/
theorem yields_preflight (hsite : site.Promotes) (hI : I s) (hs : s.Kept) :
    (preflight settings actionId).Yields h view faults I s
      (settings.workspace.root, site.canonicalHead, (site.review s).dirty) s := by
  have hanswers : site.Answers faults h view := fun c _ => hM c
  rw [preflight]
  refine Proc.Yields.bind (Proc.Yields.tryCatch (Proc.Yields.bind (yields_validate hanswers hI)
    (Proc.Yields.bind (yields_review hM hI hs.inPlace) (Proc.yields_pure _)))) ?_
  dsimp only
  refine Proc.Yields.bind_check (by simp [review, hs.canonicalClean]) ?_
  refine Proc.Yields.bind (yields_git (yields_question hM .currentBranch trivial (readOutput _) hI
    readOutput_printed fun _ => raised_readOutput)) ?_
  refine Proc.Yields.bind_check (not_not_intro hsite.onBase) ?_
  refine Proc.Yields.bind (yields_status hanswers hI) ?_
  refine Proc.Yields.bind_check (not_not_intro hs.canonicalClean) ?_
  refine Proc.Yields.bind_check (not_or.mpr hsite.remote) ?_
  refine Proc.Yields.bind_check (not_or.mpr hsite.baseBranch) ?_
  refine Proc.Yields.bind (yields_git (yields_question hM .remoteUrl trivial (readOutput _) hI
    readOutput_printed fun _ => raised_readOutput)) ?_
  refine Proc.Yields.bind (yields_canonicalHead hM hI) ?_
  refine Proc.Yields.bind (yields_git (yields_question hM .remoteBase trivial (readOutput _) hI
    readOutput_printed fun _ => raised_readOutput)) ?_
  refine Proc.Yields.bind_check ?_ ?_
  · rw [Python.split_strip]
    exact not_not_intro hsite.remoteBase
  · exact Proc.yields_pure _

/-! ### The commit -/

/-- The commit passes verification. -/
theorem yields_verifyCommit (hI : I s) (hs : site.Committed s) :
    (verifyCommit site.candidate (site.sha 0)).Yields h view faults I s () s := by
  have hcommits : s.commits ≠ 0 := by simp [hs.commits]
  have hhead : Python.strip (site.commitAt s.commits ++ "\n") = site.sha 0 := by
    rw [hs.commits]
    exact Python.strip_append_newline (site.isWord_sha 0)
  simp only [verifyCommit, SoftwareEngineeringPromotionService.candidate]
  refine Proc.Yields.bind (yields_git (yields_question hM .commitCount trivial (readOutput _) hI
    (a := "1\n") ?_ fun _ => raised_readOutput)) ?_
  · rw [answer, if_neg hcommits]
    exact readOutput_printed
  refine Proc.Yields.bind_check (not_not_intro (by decide)) ?_
  refine Proc.Yields.bind (yields_git (yields_question hM .commitParent trivial (readOutput _) hI
    (a := site.canonicalHead ++ "\n") ?_ fun _ => raised_readOutput)) ?_
  · rw [answer, if_neg hcommits]
    exact readOutput_printed
  refine Proc.Yields.bind_check
    (not_not_intro (Python.strip_append_newline site.isWord_canonicalHead)) ?_
  refine Proc.Yields.bind (yields_git (yields_question hM .commitMessage trivial (readOutput _) hI
    (a := message actionId ++ "\n\n") ?_ fun _ => raised_readOutput)) ?_
  · rw [answer, if_neg hcommits]
    exact readOutput_printed
  refine Proc.Yields.bind_check ?_ ?_
  · exact not_not_intro (trailer_mem_message actionId)
  refine Proc.Yields.bind (yields_git (yields_question hM .branchHead trivial (readOutput _) hI
    (a := site.commitAt s.commits ++ "\n") ?_ fun _ => raised_readOutput)) ?_
  · rw [answer, if_pos hs.branch]
    exact readOutput_printed
  refine Proc.Yields.bind_check (not_not_intro hhead) ?_
  refine Proc.Yields.bind (yields_worktreeStatus hM hI) ?_
  have hclean := (site.strip_worktreeStatus s.changes s.staged).mpr ⟨hs.changes, hs.staged⟩
  refine Proc.yields_ofExcept (Except.raiseIf_neg ?_)
  exact not_not_intro hclean

omit hM in
theorem uncommitted_addAll (hs : s.Uncommitted) : (site.effect .addAll s).Uncommitted where
  inPlace := hs.inPlace
  branch := hs.branch
  canonicalClean := hs.canonicalClean
  commits := hs.commits
  pushed := hs.pushed
  pullRequests := hs.pullRequests
  changed := by
    right
    simpa [effect] using hs.changed

omit hM in
theorem committed_commit (hs : s.Uncommitted) (hstaged : s.staged = true)
    (hchanges : s.changes = false) : site.Committed (site.effect .commit s) := by
  rw [effect, if_pos hstaged]
  exact {
    inPlace := hs.inPlace
    branch := hs.branch
    canonicalClean := hs.canonicalClean
    commits := congrArg (· + 1) hs.commits
    changes := hchanges
    staged := rfl
    pushed := by simp [hs.pushed]
    pullRequests := by simp [hs.pullRequests] }

omit hM in
/-- The test for staged changes fails with an exception or with a status of its own. -/
theorem throws_of_fails_diffCached {r : Host.Reply (site.host .diffCached)}
    {staged : ProcessResult} {f : Unit → HostTask String} (hr : site.Fails .diffCached r)
    (hstaged : Except.mapError TrustedGitWorkspace.gitError r = .ok staged) :
    ∃ error, (SoftwareEngineeringPromotionService.check
        (staged.timedOut = true ∨ staged.returncode ≠ some 0 ∧ staged.returncode ≠ some 1)
        "staged diff could not be verified" >>= f) = throw error := by
  rcases r with e | result
  · cases hstaged
  · obtain rfl : result = staged := Except.ok.inj hstaged
    have hfailed : result.timedOut = true ∨
      result.returncode ≠ some 0 ∧ result.returncode ≠ some 1 := hr
    refine ⟨stateError "staged diff could not be verified", ?_⟩
    rw [SoftwareEngineeringPromotionService.check, Except.raiseIf_pos hfailed]
    rfl

/-- Everything the worktree contains is committed. -/
theorem yields_createCommit (hs : s.Uncommitted) :
    (createCommit settings site.candidate).Yields h view faults site.Promoting s (site.sha 0)
      (site.effect .commit (site.effect .addAll s)) := by
  have hadded : (site.effect .addAll s).Uncommitted := uncommitted_addAll hs
  have hstaged : (site.effect .addAll s).staged = true := by
    simpa [effect] using hs.changed
  have hcommitted : site.Committed (site.effect .commit (site.effect .addAll s)) :=
    committed_commit hadded hstaged rfl
  have hanswer : site.answer .diffCached (site.effect .addAll s) =
      site.exited .diffCached (site.effect .addAll s) 1 := by
    rw [answer, hstaged, if_pos rfl]
  simp only [createCommit, SoftwareEngineeringPromotionService.candidate]
  rw [gitOutput_eq]
  refine Proc.Yields.bind (yields_call .addAll (hM _) (readOutput _) (Or.inl hs) (Or.inl hadded)
    readOutput_exited fun _ => raised_readOutput) ?_
  rw [TrustedGitWorkspace.runGit, askHost, Proc.tryCatch_request_throw]
  have hsame : (site.machine.respond .diffCached (site.effect .addAll s)).2 =
      site.effect .addAll s := rfl
  refine Proc.yields_request_bind (hM .diffCached) (Or.inl hadded) (congrArg _ hanswer) hsame
    (fun r staged hfail hok => throws_of_fails_diffCached hfail hok)
    (fun s₁ hleft => Or.inl (by rcases hleft with rfl | rfl <;> exact hadded)) ?_
  refine Proc.Yields.bind_check (by simp) ?_
  refine Proc.Yields.bind_check (by simp) ?_
  rw [gitOutput_eq]
  refine Proc.Yields.bind (yields_call .commit (hM _) (readOutput _) (Or.inl hadded)
    (Or.inr hcommitted) (a := site.stdout .commit (site.effect .addAll s)) ?_
    fun _ => raised_readOutput) ?_
  · rw [answer, if_pos hstaged]
    exact readOutput_exited
  have hhead : site.commitAt (site.effect .commit (site.effect .addAll s)).commits = site.sha 0 := by
    rw [hcommitted.commits]
    rfl
  refine Proc.Yields.bind (yields_worktreeHead hM (Or.inr hcommitted)) ?_
  rw [hhead]
  exact Proc.Yields.bind (yields_verifyCommit hM (Or.inr hcommitted) hcommitted)
    (Proc.yields_pure _)

omit hM in
theorem dirty_review (s : SiteState) :
    (site.review s).dirty = true ↔ s.changes = true ∨ s.staged = true := by
  have hclean := site.strip_worktreeStatus s.changes s.staged
  rw [review, decide_eq_true_eq, ne_eq, hclean]
  cases s.changes <;> cases s.staged <;> simp

/-- There is one commit, whether it has to be made or was made before. -/
theorem yields_createOrRecoverCommit (hs : site.Promoting s) :
    ∃ s', (createOrRecoverCommit settings site.candidate (site.review s).dirty).Yields h view faults
        site.Promoting s (site.sha 0) s' ∧ site.Committed s' := by
  rw [createOrRecoverCommit, candidate_worktreePath]
  rcases hs with hs | hs
  · have hadded : (site.effect .addAll s).Uncommitted := uncommitted_addAll hs
    have hstaged : (site.effect .addAll s).staged = true := by
      simpa [effect] using hs.changed
    refine ⟨_, ?_, committed_commit hadded hstaged rfl⟩
    have hhead : ¬site.commitAt s.commits ≠ site.candidate.canonicalHead := by
      rw [hs.commits]
      exact not_not_intro rfl
    refine Proc.Yields.bind (yields_worktreeHead hM (Or.inl hs)) ?_
    rw [if_neg hhead]
    refine Proc.Yields.bind_check ?_ ?_
    · exact not_not_intro ((dirty_review s).mpr hs.changed)
    · exact yields_createCommit hM hs
  · -- a commit of an earlier attempt is recovered
    refine ⟨s, ?_, hs⟩
    have hclean : ¬(site.review s).dirty = true := by
      rw [dirty_review, hs.changes, hs.staged]
      simp
    have hhead : site.commitAt s.commits = site.sha 0 := by
      rw [hs.commits]
      rfl
    have hmoved : site.sha 0 ≠ site.candidate.canonicalHead := site.sha_ne_canonicalHead 0
    refine Proc.Yields.bind (yields_worktreeHead hM (Or.inr hs)) ?_
    rw [hhead, if_pos hmoved]
    refine Proc.Yields.bind_check ?_ ?_
    · exact hclean
    · exact Proc.Yields.bind (yields_verifyCommit hM (Or.inr hs) hs) (Proc.yields_pure _)

/-! ### The push -/

theorem yields_recheck (hI : I s) (hs : s.Kept) :
    (recheck settings.workspace.root site.canonicalHead).Yields h view faults I s () s := by
  rw [recheck]
  refine Proc.Yields.bind (yields_canonicalHead hM hI) ?_
  refine Proc.Yields.bind_check (not_not_intro rfl) ?_
  refine Proc.Yields.bind (yields_status (fun c _ => hM c) hI) ?_
  refine Proc.yields_ofExcept (Except.raiseIf_neg ?_)
  exact not_not_intro hs.canonicalClean

omit hM in
/-- A push adds the commit to the remote. -/
theorem committed_push (hs : site.Committed s) :
    site.Committed (site.effect .push s) ∧ (site.effect .push s).pushed = s.pushed ++ [site.sha 0] := by
  have hhead : site.commitAt s.commits = site.sha 0 := by
    rw [hs.commits]
    rfl
  rw [effect, if_pos hs.branch, hhead]
  refine ⟨?_, rfl⟩
  exact {
    inPlace := hs.inPlace
    branch := hs.branch
    canonicalClean := hs.canonicalClean
    commits := hs.commits
    changes := hs.changes
    staged := hs.staged
    pushed := by simpa [or_imp, forall_and] using hs.pushed
    pullRequests := hs.pullRequests }

theorem yields_pushBranch (hs : site.Committed s) :
    (pushBranch settings settings.workspace.root site.worktree.branch (site.sha 0)).Yields h view
      faults site.Promoting s () (site.effect .push s) := by
  obtain ⟨hpushed, hlist⟩ := committed_push hs
  rw [pushBranch, gitOutput_eq]
  refine Proc.Yields.bind (yields_call .push (hM _) (readOutput _) (Or.inr hs) (Or.inr hpushed)
    (a := site.stdout .push s) ?_ fun _ => raised_readOutput) ?_
  · rw [answer, if_pos hs.branch]
    exact readOutput_exited
  refine Proc.Yields.bind (yields_git (yields_question hM .remoteHead trivial (readOutput _)
    (Or.inr hpushed) (a := site.sha 0 ++ "\t" ++ refsHeads site.worktree.branch ++ "\n") ?_
    fun _ => raised_readOutput)) ?_
  · rw [answer, hlist, List.getLast?_concat]
    exact readOutput_printed
  refine Proc.yields_ofExcept (Except.raiseIf_neg ?_)
  have htext : site.sha 0 ++ "\t" ++ refsHeads site.worktree.branch ++ "\n" =
      site.sha 0 ++ String.ofList ('\t' :: (refsHeads site.worktree.branch ++ "\n").toList) :=
    String.toList_injective (by simp)
  rw [Python.split_strip, htext, Python.head_split_append (site.isWord_sha 0) rfl]
  exact not_not_intro rfl

/-! ### The pull request -/

omit hM in
theorem raised_readOutput_gh {command : GhCommand} {cwd : PurePath}
    {r : Host.Reply (.run (.gh command) cwd)} (hr : HostFails (.run (.gh command) cwd) r) :
    (GitHubCliPullRequestPublisher.readOutput r).raised = true := by
  rcases r with e | result
  · rfl
  · have hfailed : result.Failed := hr
    simp [GitHubCliPullRequestPublisher.readOutput, Except.mapError, TrustedGitWorkspace.checked,
      hfailed]

variable [PyJson] {number : Int} {url : String}

omit hM in
/-- What is listed is found. -/
theorem publicationOf_listing (hlists : site.Lists number url) :
    GitHubCliPullRequestPublisher.publicationOf settings.baseBranch site.worktree.branch
        (site.pullRequestListing 0) = .ok none ∧
      GitHubCliPullRequestPublisher.publicationOf settings.baseBranch site.worktree.branch
        (site.pullRequestListing 1) = .ok (some {
          number, url, baseBranch := settings.baseBranch, headBranch := site.worktree.branch
          created := false }) := by
  obtain ⟨item, hitem, hhead, hbase, hnumber, hurl⟩ := hlists.one
  have hmatching : GitHubCliPullRequestPublisher.matching site.worktree.branch [.dict item] =
      [item] := by
    simp [GitHubCliPullRequestPublisher.matching, hhead]
  have hidentity : GitHubCliPullRequestPublisher.identity settings.baseBranch site.worktree.branch
      item = .ok {
        number, url, baseBranch := settings.baseBranch, headBranch := site.worktree.branch
        created := false } := by
    simp [GitHubCliPullRequestPublisher.identity, hbase, hnumber, hurl, Value.int?, hlists.url]
  constructor
  · rw [GitHubCliPullRequestPublisher.publicationOf,
      GitHubCliPullRequestPublisher.payload_eq_ok_iff.mpr hlists.none]
    rfl
  · rw [GitHubCliPullRequestPublisher.publicationOf,
      GitHubCliPullRequestPublisher.payload_eq_ok_iff.mpr hitem, Except.ok_bind, hmatching]
    show some <$> GitHubCliPullRequestPublisher.identity _ _ _ = _
    rw [hidentity]
    rfl

theorem yields_find {found : Option PullRequestPublication} (hI : I s)
    (hfound : GitHubCliPullRequestPublisher.publicationOf settings.baseBranch site.worktree.branch
      (site.pullRequestListing s.pullRequests) = .ok found) :
    (GitHubCliPullRequestPublisher.find settings.workspace.root settings.baseBranch
      site.worktree.branch).Yields h view faults I s found s := by
  have hread : GitHubCliPullRequestPublisher.readOutput (site.answer .listPullRequests s) =
      .ok (site.pullRequestListing s.pullRequests) :=
    GitHubCliPullRequestPublisher.readOutput_eq_ok_iff.mpr
      ⟨_, rfl, by simp [ProcessResult.Failed], rfl⟩
  rw [GitHubCliPullRequestPublisher.find_eq]
  refine yields_question hM .listPullRequests trivial _ hI ?_ fun r hr =>
    Except.raised_bind (raised_readOutput_gh hr)
  rw [hread]
  exact hfound

omit hM [PyJson] in
theorem published_create (hs : site.Committed s) (hremote : s.pushed ≠ [])
    (hnone : s.pullRequests = 0) (title body : String) :
    site.Published (site.effect (.createPullRequest title body) s) := by
  rw [effect, if_neg hremote, hnone]
  exact {
    inPlace := hs.inPlace
    branch := hs.branch
    canonicalClean := hs.canonicalClean
    commits := hs.commits
    changes := hs.changes
    staged := hs.staged
    pushed := hs.pushed
    pullRequests := le_refl 1
    remote := hremote
    pullRequest := rfl }

omit [PyJson] in
theorem yields_create (hs : site.Committed s) (hremote : s.pushed ≠ []) (hnone : s.pullRequests = 0)
    (title body : String) :
    (GitHubCliPullRequestPublisher.run
      (.prCreate settings.baseBranch site.worktree.branch title body)
        settings.workspace.root).Yields h view faults site.Promoting s
          (site.stdout (.createPullRequest title body) s)
          (site.effect (.createPullRequest title body) s) := by
  have hpublished := published_create hs hremote hnone title body
  rw [GitHubCliPullRequestPublisher.run_eq]
  refine yields_call (.createPullRequest title body) (hM _) _ (Or.inr hs)
    (Or.inr hpublished.toCommitted) ?_ fun r hr => raised_readOutput_gh hr
  rw [answer, if_neg hremote]
  exact GitHubCliPullRequestPublisher.readOutput_eq_ok_iff.mpr
    ⟨_, rfl, by simp [ProcessResult.Failed], rfl⟩

/-- The pull request is found, or it is created and found. -/
theorem yields_publishPullRequest (hlists : site.Lists number url) (hs : site.Committed s)
    (hremote : s.pushed ≠ []) (title body : String) :
    ∃ created s', (publishPullRequest settings settings.workspace.root site.worktree.branch title
        body).Yields h view faults site.Promoting s
          { number, url, baseBranch := settings.baseBranch, headBranch := site.worktree.branch, created }
          s' ∧ site.Published s' := by
  obtain ⟨hnone, hone⟩ := publicationOf_listing hlists
  rw [publishPullRequest, GitHubCliPullRequestPublisher.publish]
  rcases Nat.le_one_iff_eq_zero_or_eq_one.mp hs.pullRequests with hcount | hcount
  · have hpublished := published_create hs hremote hcount title body
    rw [← hcount] at hnone
    rw [← hpublished.pullRequest] at hone
    refine ⟨true, _, ?_, hpublished⟩
    refine Proc.Yields.bind (Proc.Yields.tryCatch (Proc.Yields.bind (yields_find hM (Or.inr hs) hnone)
      (Proc.Yields.bind (yields_create hM hs hremote hcount title body)
        (Proc.Yields.bind (yields_find hM (Or.inr hpublished.toCommitted) hone)
          (Proc.yields_pure _))))) ?_
    exact Proc.Yields.bind_check (by simp) (Proc.yields_pure _)
  · rw [← hcount] at hone
    refine ⟨false, s, ?_, hs, hremote, hcount⟩
    refine Proc.Yields.bind (Proc.Yields.tryCatch (Proc.Yields.bind (yields_find hM (Or.inr hs) hone)
      (Proc.yields_pure _))) ?_
    exact Proc.Yields.bind_check (by simp) (Proc.yields_pure _)

omit hM [PyJson] in
theorem Promoting.kept (hs : site.Promoting s) : s.Kept :=
  hs.elim (fun huncommitted => huncommitted.toKept) fun hcommitted => hcommitted.toKept

/-- A promotion comes to the one commit, the same in every push, and to the one pull request. -/
theorem yields_publish (hsite : site.Promotes) (hlists : site.Lists number url)
    (hs : site.Promoting s) (title body : String) :
    ∃ created s', (publish settings actionId title body).Yields h view faults site.Promoting s
      (site.publication number url created) s' ∧ site.Published s' := by
  obtain ⟨s₁, hcommit, hs₁⟩ := yields_createOrRecoverCommit hM hs
  obtain ⟨hs₂, hlist⟩ := committed_push hs₁
  have hremote : (site.effect .push s₁).pushed ≠ [] := by simp [hlist]
  obtain ⟨created, s', hpublish, hs'⟩ :=
    yields_publishPullRequest hM hlists hs₂ hremote title body
  refine ⟨created, s', ?_, hs'⟩
  rw [publish]
  refine Proc.Yields.bind (yields_preflight hM hsite hs hs.kept) ?_
  dsimp only
  refine Proc.Yields.bind hcommit ?_
  refine Proc.Yields.bind (yields_recheck hM (Or.inr hs₁) hs₁.toKept) ?_
  refine Proc.Yields.bind (yields_pushBranch hM hs₁) ?_
  exact Proc.Yields.bind hpublish (Proc.yields_pure _)

omit hM [PyJson] in
/-- Where there is nothing to commit, a promotion is refused. -/
theorem raises_createOrRecoverCommit (hM : site.machine.Follows False (h.restrict site.host) view)
    (hs : s.Unpromoted) (hclean : ¬(s.changes = true ∨ s.staged = true)) :
    (createOrRecoverCommit settings site.candidate (site.review s).dirty).Raises h view
      (fun _ => True) s := by
  have hhead : ¬site.commitAt s.commits ≠ site.candidate.canonicalHead := by
    rw [hs.commits]
    exact not_not_intro rfl
  rw [createOrRecoverCommit, candidate_worktreePath]
  refine Proc.Yields.raises (yields_worktreeHead (I := fun _ => True) hM trivial) ?_
  rw [if_neg hhead]
  refine Proc.Raises.bind (Proc.raises_check ?_ trivial)
  rwa [dirty_review]

omit hM in
theorem raises_publish (hM : site.machine.Follows False (h.restrict site.host) view)
    (hsite : site.Promotes) (hs : s.Unpromoted) (hclean : ¬(s.changes = true ∨ s.staged = true))
    (title body : String) :
    (publish settings actionId title body).Raises h view (fun _ => True) s := by
  rw [publish]
  refine Proc.Yields.raises (yields_preflight (I := fun _ => True) hM hsite trivial hs.toKept) ?_
  exact (raises_createOrRecoverCommit hM hs hclean).bind

end Stages

end GitSite

end Velox
