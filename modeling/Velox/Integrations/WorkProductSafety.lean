import Velox.Integrations.Evidence
import Velox.Integrations.WorkProduct

/-!
# Only the derived pair is ever removed

Reviewing a work product and keeping it only ask questions. Discarding removes by force,
so that every check has to stand before the removal: whatever git prints and the file
system answers, the derived worktree is removed only after it was shown to be the one
linked worktree on the derived branch, and the branch only once the worktree is gone.

## Main definitions

* `IsQuery` — the calls that leave repositories and files alone
* `IdentityShown`, `NoCommitsShown` — the evidence behind a removal
* `DiscardPermitted` — the calls of a discard, each with what must stand before it
* `WorkProductSafe` — what holds of the runs of the service

## Main results

* `finds_identity` — what a verification shows
* `finds_discard` — the evidence behind the calls of a discard
* `expectedWorktree_injective` — different actions have different pairs
* `workProduct_safe`
-/

set_option autoImplicit false

namespace Velox

/-! ### Calls and evidence -/

/-- The commands that change a repository or a remote. -/
def GitCommand.Mutating : GitCommand → Prop
  | .worktreeAdd .. | .worktreeRemove _ | .deleteBranch _ | .addAll | .commit .. | .push .. => True
  | _ => False

/-- The calls that leave repositories and files alone. -/
def IsQuery : HostCall → Prop
  | .run (.git command) _ => ¬command.Mutating
  | .isDir _ | .exists _ | .resolve _ => True
  | _ => False

/-- The entries among some that were found to resolve to a path are on the given
branches. -/
def BranchesShown (log : HostLog) (derived : PurePath) (entries : List (PurePath × Option String))
    (branches : List (Option String)) : Prop :=
  ∃ targets, List.Forall₂ (fun entry target => Answered log (.resolve entry.1) target) entries
      targets ∧
    branches = ((entries.zip targets).filter fun found => found.2 = derived).map (·.1.2)

variable (workspace : TrustedGitWorkspace) (actionId : UUID)

/-- The derived path is a linked worktree of the canonical repository on exactly the
derived branch. -/
structure IdentityShown (log : HostLog) (canonical derived : PurePath) : Prop where
  rootResolves : Answered log (.resolve workspace.root) canonical
  pathResolves : Answered log (.resolve (workspace.expectedWorktree actionId).path) derived
  /-- It is neither the canonical checkout nor inside it. -/
  apart : derived ≠ canonical ∧ canonical ∉ derived.parents
  /-- The canonical checkout is the first registered worktree, and the derived path is
  registered once among the others, on its branch. -/
  registered : ∃ listing mainPath mainBranch linked,
    Printed log (.git .worktreeList) workspace.root listing ∧
    registeredWorktrees listing = (mainPath, mainBranch) :: linked ∧
    Answered log (.resolve mainPath) canonical ∧
    BranchesShown log derived linked
      [some (refsHeads (workspace.expectedWorktree actionId).branch)]
  /-- It is the root of a checkout of its own. -/
  ownRoot : ∃ toplevel,
    Printed log (.git .showToplevel) (workspace.expectedWorktree actionId).path toplevel ∧
    Answered log (.resolve (.ofString (Python.strip toplevel))) derived

/-- The derived branch has no commits beyond canonical HEAD. -/
def NoCommitsShown (log : HostLog) : Prop :=
  ∃ count, Printed log
      (.git (.revListCount ("HEAD.." ++ refsHeads (workspace.expectedWorktree actionId).branch)))
      workspace.root count ∧ Python.strip count = "0"

/-- All that must be shown before a removal, by nothing but queries. -/
structure RemovalShown (log : HostLog) : Prop where
  identity : ∃ canonical derived, IdentityShown workspace actionId log canonical derived
  noCommits : NoCommitsShown workspace actionId log
  queries : ∀ e ∈ log, IsQuery e.1

/-- The forced removal of the derived worktree. -/
def removeWorktree : HostCall :=
  .run (.git (.worktreeRemove (workspace.expectedWorktree actionId).path)) workspace.root

/-- The removal of the derived branch. -/
def removeBranch : HostCall :=
  .run (.git (.deleteBranch (workspace.expectedWorktree actionId).branch)) workspace.root

/-- A discard asks, removes the derived worktree once everything was shown, and removes
the derived branch once the worktree was found to be gone. -/
inductive DiscardPermitted (log : HostLog) : HostCall → Prop
  | query {call : HostCall} (h : IsQuery call) : DiscardPermitted log call
  | worktree (h : RemovalShown workspace actionId log) :
    DiscardPermitted log (removeWorktree workspace actionId)
  | branch {before after : HostLog} {reply : Host.Reply (removeWorktree workspace actionId)}
    (hlog : log = before ++ ⟨removeWorktree workspace actionId, reply⟩ :: after)
    (h : RemovalShown workspace actionId before) (hafter : ∀ e ∈ after, IsQuery e.1)
    (hgone : Answered after (.exists (workspace.expectedWorktree actionId).path) false) :
    DiscardPermitted log (removeBranch workspace actionId)

variable {workspace actionId}

theorem BranchesShown.mono {log log' : HostLog} {derived : PurePath}
    {entries : List (PurePath × Option String)} {branches : List (Option String)}
    (h : BranchesShown log derived entries branches) (hlog : log <+: log') :
    BranchesShown log' derived entries branches := by
  obtain ⟨targets, hresolved, hbranches⟩ := h
  exact ⟨targets, hresolved.imp fun _ _ hanswered => hanswered.mono hlog, hbranches⟩

theorem IdentityShown.mono {log log' : HostLog} {canonical derived : PurePath}
    (h : IdentityShown workspace actionId log canonical derived) (hlog : log <+: log') :
    IdentityShown workspace actionId log' canonical derived where
  rootResolves := h.rootResolves.mono hlog
  pathResolves := h.pathResolves.mono hlog
  apart := h.apart
  registered := by
    obtain ⟨listing, mainPath, mainBranch, linked, hlisting, hread, hmain, hbranches⟩ := h.registered
    exact ⟨listing, mainPath, mainBranch, linked, hlisting.mono hlog, hread, hmain.mono hlog,
      hbranches.mono hlog⟩
  ownRoot := h.ownRoot.imp fun _ => And.imp (fun hp => hp.mono hlog) fun ha => ha.mono hlog

/-! ### What questions find -/

/-- Only queries are made. -/
abbrev Queries : HostLog → HostCall → Prop := fun _ call => IsQuery call

section Finds

open TrustedGitWorkspace (gitOutput runGit status)
open WorkProductService (check verified review branchesAt canonicalStatus statusIfAvailable
  branchExists git)

variable {t : HostLog}

theorem finds_query {call : HostCall} {B : HostLog → call.Value → Prop} (hcall : IsQuery call)
    (hB : ∀ t' value, t <+: t' → Answered t' call value → B t' value) :
    (askHost call).Finds Queries B t :=
  finds_call hcall fun value => hB _ value (List.prefix_append ..) answered_concat

theorem finds_resolve {path : PurePath} {B : HostLog → PurePath → Prop}
    (hB : ∀ t' target, t <+: t' → Answered t' (.resolve path) target → B t' target) :
    (resolve path).Finds Queries B t :=
  finds_query trivial hB

theorem finds_printed {B : HostLog → String → Prop} {failure : Raised} {command : GitCommand}
    {cwd : PurePath} (hcommand : ¬command.Mutating)
    (hB : ∀ t' output, t <+: t' → Printed t' (.git command) cwd output → B t' output) :
    (gitOutput failure command cwd).Finds Queries B t :=
  finds_gitOutput hcommand fun _ hresult =>
    hB _ _ (List.prefix_append ..) (printed_concat hresult)

theorem finds_canonicalStatus {service : WorkProductService}
    {B : HostLog → PurePath × String → Prop}
    (hB : ∀ t' before, t <+: t' → B t' (service.workspace.root, before)) :
    service.canonicalStatus.Finds Queries B t := by
  simp only [canonicalStatus, TrustedGitWorkspace.validate, Proc.finds_bind, Proc.finds_ofExcept,
    Proc.finds_pure, isDir]
  intro _ _
  refine finds_query trivial fun t₁ present ht₁ _ _ _ => ?_
  refine finds_printed id fun t₂ toplevel ht₂ _ => ?_
  refine finds_resolve fun t₃ actual ht₃ _ => ?_
  refine finds_resolve fun t₄ expected ht₄ _ _ _ => ?_
  refine finds_printed id fun t₅ before ht₅ _ => ?_
  exact hB _ _ (ht₁.trans (ht₂.trans (ht₃.trans (ht₄.trans ht₅))))

theorem finds_branches {derived : PurePath} {entries : List (PurePath × Option String)}
    {B : HostLog → List (Option String) → Prop}
    (hB : ∀ t' branches, t <+: t' → BranchesShown t' derived entries branches → B t' branches) :
    (branchesAt derived entries).Finds Queries B t := by
  induction entries generalizing t B with
  | nil => exact Proc.finds_pure.mpr (hB _ _ (List.prefix_refl t) ⟨[], .nil, rfl⟩)
  | cons entry entries ih =>
    simp only [branchesAt, Proc.finds_bind, Proc.finds_pure]
    refine finds_resolve fun t₁ target ht₁ htarget => ?_
    refine ih fun t₂ branches ht₂ hbranches => hB _ _ (ht₁.trans ht₂) ?_
    obtain ⟨targets, hresolved, rfl⟩ := hbranches
    refine ⟨target :: targets, .cons (htarget.mono ht₂) hresolved, ?_⟩
    rw [List.zip_cons_cons, List.filter_cons]
    by_cases hhere : target = derived <;> simp [hhere]

/-- A verification that passes has shown the identity of the derived worktree. -/
theorem finds_identity {service : WorkProductService}
    {B : HostLog → PurePath × IsolatedWorktree × String → Prop}
    (hB : ∀ t' canonical derived before, t <+: t' →
      IdentityShown service.workspace actionId t' canonical derived →
      B t' (service.workspace.root, service.workspace.expectedWorktree actionId, before)) :
    (service.verified actionId).Finds Queries B t := by
  simp only [verified, Proc.finds_bind, Proc.finds_tryCatch_throw, check, Proc.finds_ofExcept,
    Except.raiseIf_eq_ok_iff, isDir, git]
  refine finds_canonicalStatus fun t₁ before ht₁ => ?_
  refine finds_query trivial fun t₂ present ht₂ _ _ _ => ?_
  refine finds_resolve fun t₃ canonical ht₃ hcanonical => ?_
  refine finds_resolve fun t₄ derived ht₄ hderived _ hapart => ?_
  refine finds_printed id fun t₅ listing ht₅ hlisting => ?_
  rcases hread : registeredWorktrees listing with _ | ⟨⟨mainPath, mainBranch⟩, linked⟩
  · exact Proc.finds_throw.mpr trivial
  simp only [Proc.finds_bind, Proc.finds_ofExcept, Proc.finds_pure, Except.raiseIf_eq_ok_iff,
    not_not]
  refine finds_resolve fun t₆ main ht₆ hmain _ hcheckout => ?_
  refine finds_branches fun t₇ branches ht₇ hbranches _ honce => ?_
  refine finds_printed id fun t₈ toplevel ht₈ htoplevel => ?_
  refine finds_resolve fun t₉ actual ht₉ hactual _ hown => ?_
  have hlast : t₇ <+: t₉ := ht₈.trans ht₉
  have hlisted : t₅ <+: t₉ := (ht₆.trans ht₇).trans hlast
  refine hB _ canonical derived _
    (ht₁.trans (ht₂.trans (ht₃.trans (ht₄.trans (ht₅.trans hlisted))))) ?_
  exact {
    rootResolves := hcanonical.mono (ht₄.trans (ht₅.trans hlisted))
    pathResolves := hderived.mono (ht₅.trans hlisted)
    apart := not_or.mp hapart
    registered := ⟨listing, mainPath, mainBranch, linked, hlisting.mono hlisted, hread,
      (hcheckout ▸ hmain).mono (ht₇.trans hlast), (honce ▸ hbranches).mono hlast⟩
    ownRoot := ⟨toplevel, htoplevel.mono ht₉, hown ▸ hactual⟩ }

/-- A review asks. -/
theorem finds_reviewed (service : WorkProductService) (actionId : UUID) :
    (service.review actionId).Finds Queries (fun _ _ => True) t := by
  simp only [review, Proc.finds_bind, Proc.finds_tryCatch_throw, Proc.finds_pure, git]
  refine finds_identity fun _ _ _ _ _ _ => ?_
  refine finds_printed id fun _ _ _ _ => ?_
  refine finds_printed id fun _ _ _ _ => ?_
  refine finds_printed id fun _ _ _ _ => ?_
  exact finds_printed id fun _ _ _ _ => trivial

/-- So does keeping a work product. -/
theorem finds_kept (service : WorkProductService) (actionId : UUID) :
    (service.apply actionId .keep).Finds Queries (fun _ _ => True) t := by
  simp only [WorkProductService.apply, Proc.finds_bind, Proc.finds_pure]
  exact finds_identity fun _ _ _ _ _ _ => trivial

/-- What follows the removals of a discard asks as well. -/
theorem calls_statusIfAvailable (root : PurePath) :
    (statusIfAvailable root).Calls IsQuery fun _ => True := by
  rw [statusIfAvailable]
  refine Proc.Calls.tryCatch (A := fun _ => True) ?_ (fun _ _ => trivial) fun e _ => ?_
  · refine Proc.Calls.bind (A := fun _ => True) ?_ (fun _ _ => Proc.Calls.pure trivial)
      fun _ _ => trivial
    rw [status, TrustedGitWorkspace.gitOutput_eq]
    exact Proc.Calls.request id fun _ => trivial
  · by_cases he : e.kind = workspaceUnavailableError
    · rw [if_pos he]
      exact Proc.Calls.pure trivial
    · rw [if_neg he]
      exact Proc.Calls.throw trivial

theorem finds_removal {K : HostLog → HostCall → Prop} {B : HostLog → ProcessResult → Prop}
    {command : GitCommand} {cwd : PurePath} (hK : K t (.run (.git command) cwd))
    (hB : ∀ reply, B (t ++ [⟨.run (.git command) cwd, .ok reply⟩]) reply) :
    (runGit command cwd).Finds K B t := by
  rw [runGit, Proc.finds_tryCatch_throw]
  exact finds_call hK hB

theorem calls_branchExists (root : PurePath) (branch : String) :
    (branchExists root branch).Calls IsQuery fun _ => True := by
  rw [branchExists]
  refine Proc.Calls.bind (A := fun _ => True) ?_ (fun _ _ => Proc.Calls.pure trivial)
    fun _ _ => trivial
  rw [runGit]
  exact Proc.Calls.tryCatch (A := fun _ => True) (Proc.Calls.request id fun _ => trivial)
    (fun _ _ => trivial) fun _ _ => Proc.Calls.throw trivial

/-- Questions may be asked at any time. -/
theorem finds_of_queries {α : Type} {m : HostTask α} {A B : HostLog → α → Prop}
    (hm : m.Finds Queries A t)
    (hB : ∀ new a, (∀ e ∈ new, IsQuery e.1) → A (t ++ new) a → B (t ++ new) a) :
    m.Finds (DiscardPermitted workspace actionId) B t := by
  refine (hm.only.permit fun _ _ _ h => .query h).mono fun t' a _ h => ?_
  obtain ⟨hA, new, rfl, hnew⟩ := h
  exact hB new a hnew hA

/-- Everything is shown before the removals of a discard. -/
theorem finds_removalShown {service : WorkProductService} {actionId : UUID}
    {B : HostLog → PurePath × IsolatedWorktree × String → Prop}
    (hB : ∀ log before, (∀ e ∈ log, IsQuery e.1) →
      (∃ canonical derived, IdentityShown service.workspace actionId log canonical derived) →
      B log (service.workspace.root, service.workspace.expectedWorktree actionId, before)) :
    (service.verified actionId).Finds (DiscardPermitted service.workspace actionId) B [] := by
  have hidentity : (service.verified actionId).Finds Queries (fun log verified =>
      (∃ canonical derived, IdentityShown service.workspace actionId log canonical derived) ∧
        ∃ before, verified = (service.workspace.root,
          service.workspace.expectedWorktree actionId, before)) [] :=
    finds_identity fun _ canonical derived before _ h => ⟨⟨canonical, derived, h⟩, before, rfl⟩
  refine finds_of_queries hidentity fun asked verified hasked hverified => ?_
  obtain ⟨hshown, before, rfl⟩ := hverified
  exact hB asked before hasked hshown

/-- A discard asks until everything is shown, removes the worktree, looks whether it is
gone, and then may remove the branch. -/
theorem finds_discard (service : WorkProductService) (actionId : UUID) :
    (service.apply actionId .discard).Finds (DiscardPermitted service.workspace actionId)
      (fun _ _ => True) [] := by
  -- whatever becomes of the pair, only questions follow
  have hrest : ∀ log, (statusIfAvailable service.workspace.root).Finds
      (DiscardPermitted service.workspace actionId) (fun log _ =>
        (branchExists service.workspace.root
          (service.workspace.expectedWorktree actionId).branch).Finds
            (DiscardPermitted service.workspace actionId) (fun _ _ => True) log) log := fun log =>
    finds_of_queries ((calls_statusIfAvailable _).finds log) fun _ _ _ _ =>
      finds_of_queries ((calls_branchExists _ _).finds _) fun _ _ _ _ => trivial
  simp only [WorkProductService.apply, Proc.finds_bind]
  refine finds_removalShown fun asked before hasked hidentity => ?_
  simp only [git, check, Proc.finds_ofExcept, Except.raiseIf_eq_ok_iff, not_not]
  refine finds_of_queries (finds_printed id fun _ _ _ hcount => hcount)
    fun counted count hcounted hcount _ hzero => ?_
  have hremoval : RemovalShown service.workspace actionId (asked ++ counted) := {
    identity := hidentity.imp fun _ => Exists.imp fun _ h => h.mono (List.prefix_append ..)
    noCommits := ⟨count, hcount, hzero⟩
    queries := fun e he => (List.mem_append.mp he).elim (hasked e) (hcounted e) }
  refine finds_removal (.worktree hremoval) fun reply => ?_
  refine finds_call (.query trivial) fun present => ?_
  simp only [Proc.finds_ite, Proc.finds_bind, Proc.finds_discard, Proc.finds_pure]
  refine ⟨fun _ => hrest _, fun hgone => ?_⟩
  obtain rfl : present = false := Bool.eq_false_iff.mpr hgone
  refine finds_removal ?_ fun _ => hrest _
  refine .branch (List.append_assoc ..) hremoval ?_ (List.mem_singleton_self _)
  intro e he
  obtain rfl := List.mem_singleton.mp he
  exact trivial

end Finds

/-! ### Different actions have different pairs -/

theorem isName_worktree (actionId : UUID) : PurePath.IsName ("se-" ++ UUID.str actionId) where
  ne_empty := by simp
  ne_dot h := by
    have hlength := congrArg String.length h
    rw [String.length_append] at hlength
    have hstart : "se-".length = 3 := rfl
    have hdot : ".".length = 1 := rfl
    omega
  slash_notMem := by
    rw [String.toList_append, List.mem_append]
    rintro (h | h)
    · exact absurd h (by decide)
    · exact UUID.notMem_str (by decide) (by decide) h

/-- No text of one pair is that of another. -/
theorem expectedWorktree_injective (workspace : TrustedGitWorkspace) {id id' : UUID} (h : id ≠ id') :
    (workspace.expectedWorktree id).path.str ≠ (workspace.expectedWorktree id').path.str ∧
      (workspace.expectedWorktree id).branch ≠ (workspace.expectedWorktree id').branch := by
  have hname : "se-" ++ UUID.str id ≠ "se-" ++ UUID.str id' := fun heq =>
    h (UUID.str_injective ((String.append_right_inj _).mp heq))
  simp only [TrustedGitWorkspace.expectedWorktree]
  refine ⟨fun heq => hname ?_, fun heq => hname ((String.append_right_inj "velox/").mp heq)⟩
  exact PurePath.eq_of_str_child_eq (isName_worktree id) (isName_worktree id') heq

/-- A call that removes one of the pair, wherever it is run and however it is built. -/
def Removes (worktree : IsolatedWorktree) (call : HostCall) : Prop :=
  ∃ command cwd, call = .run (.git command) cwd ∧
    (command.args = (GitCommand.worktreeRemove worktree.path).args ∨
      command.args = (GitCommand.deleteBranch worktree.branch).args)

theorem mutating_of_args {command : GitCommand} {worktree : IsolatedWorktree}
    (h : command.args = (GitCommand.worktreeRemove worktree.path).args ∨
      command.args = (GitCommand.deleteBranch worktree.branch).args) : command.Mutating := by
  cases command with
  | worktreeAdd => trivial
  | worktreeRemove => trivial
  | deleteBranch => trivial
  | addAll => trivial
  | commit => trivial
  | push => trivial
  | _ => rcases h with h | h <;> simp [GitCommand.args] at h

/-- What a discard may call removes nothing of another action. -/
theorem DiscardPermitted.spares {log : HostLog} {call : HostCall} {otherId : UUID}
    (h : DiscardPermitted workspace actionId log call) (hother : otherId ≠ actionId) :
    ¬Removes (workspace.expectedWorktree otherId) call := by
  rintro ⟨command, cwd, rfl, hargs⟩
  obtain ⟨hpath, hbranch⟩ := expectedWorktree_injective workspace hother
  generalize hcall : HostCall.run (.git command) cwd = call at h
  cases h with
  | query hquery =>
    subst hcall
    exact hquery (mutating_of_args hargs)
  | worktree =>
    obtain ⟨hcommand, -⟩ := HostCall.run.inj hcall
    obtain rfl := Command.git.inj hcommand
    simp only [GitCommand.args, List.cons.injEq, and_true, true_and] at hargs
    rcases hargs with hargs | hargs
    · exact hpath hargs.symm
    · exact absurd hargs.1 (by decide)
  | branch =>
    obtain ⟨hcommand, -⟩ := HostCall.run.inj hcall
    obtain rfl := Command.git.inj hcommand
    simp only [GitCommand.args, List.cons.injEq, and_true, true_and] at hargs
    rcases hargs with hargs | hargs
    · exact absurd hargs.1 (by decide)
    · exact hbranch hargs.symm

/-! ### The runs of the service -/

/-- Whatever the machine answers: review and keeping only ask, a discard calls what it may
call by what the same run has shown, and nothing is removed that belongs to another
action. -/
structure WorkProductSafe (service : WorkProductService) : Prop where
  review : ∀ (actionId : UUID) (W : Type) (h : Handler Host W) (w : W),
    ∀ e ∈ (service.review actionId ()).transcript h w, IsQuery e.1
  keep : ∀ (actionId : UUID) (W : Type) (h : Handler Host W) (w : W),
    ∀ e ∈ (service.apply actionId .keep ()).transcript h w, IsQuery e.1
  discard : ∀ (actionId : UUID) (W : Type) (h : Handler Host W) (w : W) before e after,
    (service.apply actionId .discard ()).transcript h w = before ++ e :: after →
      DiscardPermitted service.workspace actionId before e.1
  distinct : ∀ id id' : UUID, id ≠ id' →
    (service.workspace.expectedWorktree id).path ≠ (service.workspace.expectedWorktree id').path ∧
    (service.workspace.expectedWorktree id).branch ≠ (service.workspace.expectedWorktree id').branch
  spares : ∀ (actionId otherId : UUID) (W : Type) (h : Handler Host W) (w : W),
    otherId ≠ actionId → ∀ e ∈ (service.apply actionId .discard ()).transcript h w,
      ¬Removes (service.workspace.expectedWorktree otherId) e.1

theorem workProduct_safe (service : WorkProductService) : WorkProductSafe service := by
  have hqueries : ∀ {α : Type} {m : HostTask α} {B : HostLog → α → Prop}, m.Finds Queries B [] →
      ∀ (W : Type) (h : Handler Host W) (w : W), ∀ e ∈ (m ()).transcript h w, IsQuery e.1 := by
    intro α m B hm W h w e he
    obtain ⟨before, after, hrun⟩ := List.append_of_mem he
    exact Prog.Traced.transcript hm h w hrun
  have hdiscard : ∀ (actionId : UUID) (W : Type) (h : Handler Host W) (w : W) before e after,
      (service.apply actionId .discard ()).transcript h w = before ++ e :: after →
        DiscardPermitted service.workspace actionId before e.1 := by
    intro actionId W h w before e after hrun
    exact Prog.Traced.transcript (finds_discard service actionId) h w hrun
  exact {
    review := fun actionId => hqueries (finds_reviewed service actionId)
    keep := fun actionId => hqueries (finds_kept service actionId)
    discard := hdiscard
    distinct := fun id id' hne => by
      obtain ⟨hpath, hbranch⟩ := expectedWorktree_injective service.workspace hne
      exact ⟨fun heq => hpath (congrArg PurePath.str heq), hbranch⟩
    spares := fun actionId otherId W h w hne e he => by
      obtain ⟨before, after, hrun⟩ := List.append_of_mem he
      exact (hdiscard actionId W h w before e after hrun).spares hne }

end Velox
