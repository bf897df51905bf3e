import Velox.Lib.Run
import Velox.Python.Time
import Velox.SoftwareEngineering.SqliteOperations

/-!
# The two run repositories

The durable run repository fills the Role: a table holds a row for each action, and every
call does to the rows what the Role promises. Beside the process-local repository it gives
the same answers, call by call, until a call is made that only one of them accepts.

## Main definitions

* `sqliteRunRepository` — the durable implementation of the Role
* `RepliesAgree` — the same result, or an error of the repository on both sides
* `RunCall.Alike` — a call that the two repositories do not part on

## Main results

* `repositories_agree_iff` — the answers agree exactly as long as the calls are alike
-/

set_option autoImplicit false

namespace Velox

/-- What every implementation accepts, the durable one does. -/
theorem alike_of_portable {w : RunWrite} {row state : RunState} (happly : w.apply (some row) = .ok state)
    (h : w.Portable (some row)) : w.Alike row := by
  cases w with
  | releaseUnstartedClaim id expected reconciled =>
    obtain ⟨row', hrow, -, hclaim, -⟩ := releaseUnstartedClaim_eq_ok_iff.mp happly
    obtain rfl := Option.some.inj hrow
    exact h row rfl hclaim
  | recordPromotion now promotion => exact h
  | _ => trivial

/-! ### The durable implementation -/

section Role

variable [PyStd] [PyIsoformat] {t : RunsTable} {repository : InMemoryRunRepository}

/-- What a call makes of a table. -/
def tableCalled (call : RunCall) (t : RunsTable) : Except Raised call.Value × RunsTable :=
  (((SqliteRunRepository.implement call).run transact () t).1.1,
    ((SqliteRunRepository.implement call).run transact () t).2)

/-- The state that is read off the row of an action. -/
def RunsTable.state (t : RunsTable) (id : UUID) : Option RunState :=
  match (tableCalled (.get id) t).1 with
  | .ok state => state
  | .error _ => none

theorem tableCalled_of_run {call : RunCall} {reply : Except Raised call.Value} {t' : RunsTable}
    (h : (SqliteRunRepository.implement call).run transact () t = ((reply, ()), t')) :
    tableCalled call t = (reply, t') := by
  rw [tableCalled, h]

theorem tableCalled_get (h : t.Persists repository) (id : UUID) :
    tableCalled (.get id) t = (.ok (repository.states.get id), t) :=
  tableCalled_of_run (SqliteRunRepository.run_get h id)

theorem tableCalled_listPendingApproval (h : t.Persists repository) :
    tableCalled .listPendingApproval t =
      (.ok ((repository.states.values.filter RunState.PendingApproval).insertionSort
        fun a b => RunState.le a b), t) :=
  tableCalled_of_run (SqliteRunRepository.run_listPendingApproval h)

theorem tableCalled_claimApproved (h : t.Persists repository) (claimedAt : DateTime)
    (claimId id : UUID) :
    (claimApproved claimedAt claimId (repository.states.get id)).either
      (fun claimed => ∃ t', tableCalled (.claimApproved claimedAt claimId id) t =
        (.ok claimed.1, t') ∧ t'.Persists (repository.store claimed.2))
      fun e => tableCalled (.claimApproved claimedAt claimId id) t = (.error e, t) := by
  have hrun := SqliteRunRepository.run_claimApproved h claimedAt claimId id
  cases hclaim : claimApproved claimedAt claimId (repository.states.get id) with
  | error e =>
    rw [hclaim] at hrun
    exact tableCalled_of_run hrun
  | ok claimed =>
    rw [hclaim] at hrun
    obtain ⟨t', hrun, hstored⟩ := hrun
    exact ⟨t', tableCalled_of_run hrun, hstored⟩

theorem tableCalled_write (h : t.Persists repository) (w : RunWrite) :
    SqliteRunRepository.Outcome t repository w (tableCalled (.write w) t).1
      (tableCalled (.write w) t).2 := SqliteRunRepository.run_write h w

theorem RunsTable.Persists.state (h : t.Persists repository) : t.state = repository.states.get := by
  funext id
  rw [RunsTable.state, tableCalled_get h]

/-- A table goes on persisting a repository. -/
theorem exists_persists_tableCalled (h : ∃ repository, t.Persists repository) (call : RunCall) :
    ∃ repository, (tableCalled call t).2.Persists repository := by
  obtain ⟨repository, h⟩ := h
  cases call with
  | get id =>
    rw [tableCalled_get h]
    exact ⟨repository, h⟩
  | listPendingApproval =>
    rw [tableCalled_listPendingApproval h]
    exact ⟨repository, h⟩
  | claimApproved claimedAt claimId id =>
    have hcalled := tableCalled_claimApproved h claimedAt claimId id
    cases hclaim : claimApproved claimedAt claimId (repository.states.get id) with
    | error e =>
      rw [hclaim, Except.either_error] at hcalled
      rw [hcalled]
      exact ⟨repository, h⟩
    | ok claimed =>
      rw [hclaim] at hcalled
      obtain ⟨t', hcalled, hstored⟩ := hcalled
      rw [hcalled]
      exact ⟨_, hstored⟩
  | write w =>
    have houtcome := tableCalled_write h w
    generalize tableCalled (.write w) t = called at houtcome
    obtain ⟨reply, t'⟩ := called
    cases houtcome with
    | written _ _ hstored => exact ⟨_, hstored⟩
    | refused => exact ⟨repository, h⟩
    | apart => exact ⟨repository, h⟩

end Role

/-- The durable implementation of the Role: tables that persist a repository. -/
def sqliteRunRepository [PyStd] [PyIsoformat] : RunRepository where
  State := { t : RunsTable // ∃ repository, t.Persists repository }
  initial := ⟨emptyRuns, .empty, RunsTable.persists_empty⟩
  handle call s := ((tableCalled call s.1).1, ⟨(tableCalled call s.1).2,
    exists_persists_tableCalled s.2 call⟩)
  row s := s.1.state
  row_initial id := congrFun RunsTable.persists_empty.state id
  actionId_of_row := by
    rintro ⟨t, repository, h⟩ id state hstate
    rw [h.state] at hstate
    exact repository.identified hstate
  handle_get := by
    rintro id ⟨t, repository, h⟩
    simp only [tableCalled_get h, h.state]
  handle_list := by
    rintro ⟨t, repository, h⟩
    simp only [tableCalled_listPendingApproval h, h.state]
    refine ⟨trivial, _, rfl, fun state hstate => ?_⟩
    obtain ⟨hmem, hpending⟩ := List.mem_filter.mp ((List.mem_insertionSort _).mp hstate)
    obtain ⟨id, hid⟩ := OrderedDict.mem_values_iff.mp hmem
    exact ⟨by simpa using hpending, by rw [repository.identified hid]; exact hid⟩
  handle_claim_ok := by
    rintro claimedAt claimId id ⟨t, repository, h⟩ claim hreply
    have hcalled := tableCalled_claimApproved h claimedAt claimId id
    simp only [h.state] at hreply ⊢
    cases hclaim : claimApproved claimedAt claimId (repository.states.get id) with
    | error e =>
      rw [hclaim, Except.either_error] at hcalled
      rw [hcalled] at hreply
      cases hreply
    | ok claimed =>
      rw [hclaim] at hcalled
      obtain ⟨t', hcalled, hstored⟩ := hcalled
      rw [hcalled] at hreply ⊢
      obtain rfl := Except.ok.inj hreply
      obtain ⟨row, _, hrow, -, -, -, -, -, -, hstate⟩ :=
        claimApproved_eq_ok_iff.mp hclaim
      have hid : claimed.2.actionId = id := by
        rw [hstate]
        exact (repository.identified hrow : row.actionId = id)
      exact ⟨claimed.2, rfl, by rw [hstored.state, InMemoryRunRepository.get_store, hid]⟩
  handle_claim_error := by
    rintro claimedAt claimId id ⟨t, repository, h⟩ e hreply
    have hcalled := tableCalled_claimApproved h claimedAt claimId id
    simp only [h.state] at hreply ⊢
    cases hclaim : claimApproved claimedAt claimId (repository.states.get id) with
    | error e' =>
      rw [hclaim, Except.either_error] at hcalled
      rw [hcalled] at hreply ⊢
      obtain rfl := Except.error.inj hreply
      exact ⟨h.state, claimApproved_raisesOnly _ _ _ _ hclaim, _, rfl⟩
    | ok claimed =>
      rw [hclaim] at hcalled
      obtain ⟨t', hcalled, -⟩ := hcalled
      rw [hcalled] at hreply
      cases hreply
  handle_write_ok := by
    rintro w ⟨t, repository, h⟩ state hreply
    have houtcome := tableCalled_write h w
    simp only [h.state] at hreply ⊢
    generalize tableCalled (.write w) t = called at houtcome hreply
    obtain ⟨reply, t'⟩ := called
    cases houtcome with
    | written happly _ hstored =>
      obtain rfl := Except.ok.inj hreply
      have hid := w.actionId_of_apply (fun _ => repository.identified) happly
      exact ⟨happly, by rw [hstored.state, InMemoryRunRepository.get_store, hid]⟩
    | refused => cases hreply
    | apart => cases hreply
  handle_write_error := by
    rintro w ⟨t, repository, h⟩ e hreply
    have houtcome := tableCalled_write h w
    simp only [h.state] at hreply ⊢
    generalize tableCalled (.write w) t = called at houtcome hreply
    obtain ⟨reply, t'⟩ := called
    cases houtcome with
    | written => cases hreply
    | refused happly hkind =>
      obtain rfl := Except.error.inj hreply
      exact ⟨h.state, by simp [Raised.isException, hkind], Or.inr ⟨hkind, _, happly⟩⟩
    | apart hrow happly hunlike hexception =>
      obtain rfl := Except.error.inj hreply
      refine ⟨h.state, hexception, Or.inl fun hportable => hunlike ?_⟩
      exact alike_of_portable happly (hrow ▸ hportable)

/-! ### Arrival -/

/-- The time a call registers an action at. -/
def RunCall.registeredAt : RunCall → Option DateTime
  | .write (.registerAction now _) => some now
  | _ => none

namespace InMemoryRunRepository

variable {repository : InMemoryRunRepository} {state row : RunState} {times future : List DateTime}

/-- The actions arrived one after the other, and before the times of the future. -/
def ArrivedBefore (repository : InMemoryRunRepository) (future : List DateTime) : Prop :=
  ∃ times : List DateTime, repository.states.values.map RunState.createdAt = times.map some ∧
    (times ++ future).Pairwise (· < ·)

theorem arrivedBefore_empty (h : future.Pairwise (· < ·)) : ArrivedBefore .empty future :=
  ⟨[], rfl, h⟩

theorem ArrivedBefore.sublist {future' : List DateTime} (h : repository.ArrivedBefore future)
    (hsub : future'.Sublist future) : repository.ArrivedBefore future' := by
  obtain ⟨times, htimes, hsorted⟩ := h
  exact ⟨times, htimes, hsorted.sublist (hsub.append_left times)⟩

/-- A new action arrives. -/
theorem ArrivedBefore.store_new {now : DateTime} (h : repository.ArrivedBefore (now :: future))
    (hnone : repository.states.get state.actionId = none) (hcreated : state.createdAt = some now) :
    (repository.store state).ArrivedBefore future := by
  obtain ⟨times, htimes, hsorted⟩ := h
  refine ⟨times ++ [now], ?_, by rwa [List.append_assoc]⟩
  rw [values_store_of_none hnone, List.map_append, htimes, List.map_append]
  simp [hcreated]

/-- A row that is written again stays where it is. -/
theorem ArrivedBefore.store_old (h : repository.ArrivedBefore future)
    (hrow : repository.states.get state.actionId = some row)
    (hcreated : state.createdAt = row.createdAt) : (repository.store state).ArrivedBefore future := by
  obtain ⟨times, htimes, hsorted⟩ := h
  refine ⟨times, ?_, hsorted⟩
  rw [← htimes]
  show (repository.states.set state.actionId state).values.map _ = _
  rw [OrderedDict.values_set_of_get_eq_some hrow, OrderedDict.values, List.map_map, List.map_map]
  refine List.map_congr_left fun e he => ?_
  rw [Function.comp_apply, Function.comp_apply]
  by_cases hid : e.1 = state.actionId
  · have hget := OrderedDict.get_of_mem_entries he
    rw [hid, hrow] at hget
    rw [if_pos hid, hcreated, Option.some.inj hget]
  · rw [if_neg hid]

/-- Actions that arrived one after the other are listed in that order. -/
theorem ArrivedBefore.insertionSort_eq (h : repository.ArrivedBefore future)
    {p : RunState → Bool} :
    (repository.states.values.filter p).insertionSort (fun a b => RunState.le a b = true) =
      repository.states.values.filter p := by
  obtain ⟨times, htimes, hsorted⟩ := h
  apply List.Pairwise.insertionSort_eq
  apply List.Pairwise.filter
  have hpairs : (repository.states.values.map RunState.createdAt).Pairwise fun a b =>
      ∃ t u, a = some t ∧ b = some u ∧ t < u := by
    rw [htimes, List.pairwise_map]
    exact (List.pairwise_append.mp hsorted).1.imp fun hlt => ⟨_, _, rfl, rfl, hlt⟩
  refine (List.pairwise_map.mp hpairs).imp ?_
  rintro a b ⟨t, u, ha, hb, hlt⟩
  have htext := DateTime.isoformat_lt_isoformat hlt
  have hne : t.isoformat ≠ u.isoformat := String.ne_of_lt htext
  have hle : t.isoformat ≤ u.isoformat := String.lt_asymm htext
  simp [RunState.le, ha, hb, SqlValue.ofOption, SqlValue.ofDateTime, SqlValue.le, hne, hle]

end InMemoryRunRepository

/-! ### Agreement -/

/-- The same result, or an error of the repository on both sides. -/
def RepliesAgree {α : Type} : Except Raised α → Except Raised α → Prop
  | .ok a, .ok b => a = b
  | .error e, .error e' => IsRunStateError e ∧ IsRunStateError e'
  | _, _ => False

/-- The two repositories do not part on a call: what the process-local repository accepts,
the durable one accepts too. -/
def RunCall.Alike (repository : InMemoryRunRepository) : RunCall → Prop
  | .write w => ∀ row state, repository.states.get w.actionId = some row →
      w.apply (some row) = .ok state → w.Alike row
  | _ => True

theorem arrivedBefore_of_apply {repository : InMemoryRunRepository} {w : RunWrite} {state : RunState} {future : List DateTime}
    (h : repository.ArrivedBefore ((RunCall.write w).registeredAt.toList ++ future))
    (happly : w.apply (repository.states.get w.actionId) = .ok state) :
    (repository.store state).ArrivedBefore future := by
  have hid : state.actionId = w.actionId :=
    w.actionId_of_apply (fun _ => repository.identified) happly
  rcases RunWrite.written_of_apply happly with ⟨row, hrow, rfl⟩ |
    ⟨now, registration, rfl, hrow, rfl⟩
  · exact (h.sublist (List.sublist_append_right _ _)).store_old (by rw [hid, hrow])
      RunWrite.createdAt_written
  · exact InMemoryRunRepository.ArrivedBefore.store_new h hrow rfl

section Agreement

variable [PyStd] [PyIsoformat] {t : RunsTable} {repository : InMemoryRunRepository}

/-- A call, made of the process-local repository and of the durable one. -/
def bothCalled (repositories : InMemoryRunRepository × RunsTable) (call : RunCall) :
    InMemoryRunRepository × RunsTable :=
  ((InMemoryRunRepository.handle call repositories.1).2, (tableCalled call repositories.2).2)

/-- The two answers to a call agree. -/
def AnswersAgree (repositories : InMemoryRunRepository × RunsTable) (call : RunCall) : Prop :=
  RepliesAgree (InMemoryRunRepository.handle call repositories.1).1
    (tableCalled call repositories.2).1

/-- As long as the calls are alike, the answers agree, and the table goes on persisting
what the process-local repository holds. -/
theorem answersAgree_of_alike {call : RunCall} {future : List DateTime} (h : t.Persists repository)
    (harrived : repository.ArrivedBefore (call.registeredAt.toList ++ future))
    (halike : call.Alike repository) :
    AnswersAgree (repository, t) call ∧
      (bothCalled (repository, t) call).2.Persists (bothCalled (repository, t) call).1 ∧
      (bothCalled (repository, t) call).1.ArrivedBefore future := by
  have hfuture := harrived.sublist (List.sublist_append_right _ _)
  cases call with
  | get id =>
    rw [AnswersAgree, bothCalled, tableCalled_get h]
    exact ⟨rfl, h, hfuture⟩
  | listPendingApproval =>
    rw [AnswersAgree, bothCalled, tableCalled_listPendingApproval h, hfuture.insertionSort_eq]
    exact ⟨rfl, h, hfuture⟩
  | claimApproved claimedAt claimId id =>
    have hcalled := tableCalled_claimApproved h claimedAt claimId id
    simp only [AnswersAgree, bothCalled, InMemoryRunRepository.handle]
    cases hclaim : Velox.claimApproved claimedAt claimId (repository.states.get id) with
    | error e =>
      rw [hclaim, Except.either_error] at hcalled
      have hkind : IsRunStateError e := claimApproved_raisesOnly _ _ _ _ hclaim
      rw [hcalled]
      exact ⟨⟨hkind, hkind⟩, h, hfuture⟩
    | ok claimed =>
      rw [hclaim] at hcalled
      obtain ⟨t', hcalled, hstored⟩ := hcalled
      rw [hcalled]
      obtain ⟨row, _, hrow, -, -, -, -, -, -, hstate⟩ :=
        claimApproved_eq_ok_iff.mp hclaim
      have hid : claimed.2.actionId = row.actionId := by rw [hstate]; rfl
      have hcreated : claimed.2.createdAt = row.createdAt := by rw [hstate]; rfl
      exact ⟨rfl, hstored, hfuture.store_old (by rw [hid, repository.identified hrow, hrow]) hcreated⟩
  | write w =>
    have houtcome := tableCalled_write h w
    simp only [AnswersAgree, bothCalled, InMemoryRunRepository.handle]
    generalize tableCalled (.write w) t = called at houtcome ⊢
    obtain ⟨reply, t'⟩ := called
    cases houtcome with
    | written happly _ hstored =>
      rw [happly]
      exact ⟨rfl, hstored, arrivedBefore_of_apply harrived happly⟩
    | refused happly hkind =>
      rw [happly]
      exact ⟨⟨w.apply_raisesOnly _ _ happly, hkind⟩, h, hfuture⟩
    | apart hrow happly hunlike _ => exact absurd (halike _ _ hrow happly) hunlike

/-- Answers that agree are those of a call that is alike. -/
theorem alike_of_answersAgree {call : RunCall} (h : t.Persists repository)
    (hagree : AnswersAgree (repository, t) call) : call.Alike repository := by
  cases call with
  | write w =>
    intro row state hrow happly
    have houtcome := tableCalled_write h w
    simp only [AnswersAgree, InMemoryRunRepository.handle, hrow, happly] at hagree
    generalize tableCalled (.write w) t = called at houtcome hagree
    obtain ⟨reply, t'⟩ := called
    cases houtcome with
    | written _ halike _ => exact halike row hrow
    | refused happly' _ =>
      rw [hrow, happly] at happly'
      cases happly'
    | apart => exact hagree.elim
  | _ => trivial

/-- From stores that hold the same states, the answers agree call by call exactly if every
call is alike. -/
theorem answersAgree_along_iff {calls : List RunCall} (h : t.Persists repository)
    (harrived : repository.ArrivedBefore (calls.filterMap RunCall.registeredAt)) :
    Run.Along bothCalled AnswersAgree (repository, t) calls ↔
      Run.Along (fun repository call => (InMemoryRunRepository.handle call repository).2)
        (fun repository call => call.Alike repository) repository calls := by
  induction calls generalizing repository t with
  | nil => exact Iff.rfl
  | cons call calls ih =>
    have hsplit : (call :: calls).filterMap RunCall.registeredAt =
        call.registeredAt.toList ++ calls.filterMap RunCall.registeredAt := by
      rw [List.filterMap_cons]
      cases call.registeredAt <;> rfl
    rw [hsplit] at harrived
    rw [Run.along_cons, Run.along_cons]
    have hiff : AnswersAgree (repository, t) call ↔ call.Alike repository :=
      ⟨alike_of_answersAgree h, fun halike => (answersAgree_of_alike h harrived halike).1⟩
    rw [hiff]
    refine and_congr_right fun halike => ?_
    obtain ⟨-, hpersists, hnext⟩ := answersAgree_of_alike h harrived halike
    exact ih hpersists hnext

/-- From empty stores and with a clock that advances between registrations, the two
repositories give the same answers exactly as long as claims are released on approved rows
and pull request numbers that are recorded fit into 64 bits. -/
theorem repositories_agree_iff {calls : List RunCall}
    (hclock : (calls.filterMap RunCall.registeredAt).Pairwise (· < ·)) :
    Run.Along bothCalled AnswersAgree (.empty, emptyRuns) calls ↔
      Run.Along (fun repository call => (InMemoryRunRepository.handle call repository).2)
        (fun repository call => call.Alike repository) .empty calls :=
  answersAgree_along_iff RunsTable.persists_empty
    (InMemoryRunRepository.arrivedBefore_empty hclock)

end Agreement

/-- Two actions, registered one after the other. -/
def twoRegistrations : List RunCall :=
  let later : DateTime := ⟨1, 1, 1, 0, 0, 0, 1, by decide⟩
  let registration (actionId : UUID) : Registration :=
    { actionId, target := "t", executorRole := "r", capability := "c", objective := some "o",
      approvalStatus := some .awaitingApproval }
  [.write (.registerAction DateTime.min (registration 0)),
    .write (.registerAction later (registration 1)),
    .listPendingApproval,
    .write (.recordApproval later 0 "o" later),
    .claimApproved later 2 0]

theorem repositories_agree_twoRegistrations :
    letI := PyStd.ascii
    letI := PyIsoformat.plain
    Run.Along bothCalled AnswersAgree (.empty, emptyRuns) twoRegistrations := by
  let := PyStd.ascii
  let := PyIsoformat.plain
  have hclock : (twoRegistrations.filterMap RunCall.registeredAt).Pairwise (· < ·) := by
    refine List.pairwise_pair.mpr ?_
    show DateTime.fields _ < DateTime.fields _
    decide
  refine (repositories_agree_iff hclock).mpr (Run.along_of_forall ?_ _)
  simp [twoRegistrations, RunCall.Alike, RunWrite.Alike, RunWrite.Fits]

end Velox
