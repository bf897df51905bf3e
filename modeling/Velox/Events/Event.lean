import Velox.Core.Action
import Velox.Lib.Guard

/-!
# Events, their inbox and their lifecycle

An accepted event is stored for good, waits in the inbox until it is processed,
and moves along a fixed set of lifecycle transitions.

Fields of events and classifications that nothing downstream reads are left out.

## Main definitions

* `UniversalEvent`, `ProcessedEvent` — an event, and one that went through the pipeline
* `EventStores` — the event store, the inbox and the lifecycle map
* `EventLifecycleManager.transition`

## Main results

* `EventLifecycleManager.transition_eq_ok_iff` — what a transition can do
* `EventInbox.markProcessed_eq_filter` — marking an event processed takes it out
-/

set_option autoImplicit false

namespace Velox

/-- Canonical representation of an event. -/
structure UniversalEvent where
  id : UUID
  source : String
  type : String
  payload : Dict := ∅

/-- Classification result for an event. -/
structure EventClassification where
  category : String
  labels : List String := []

/-- Context attached to a classified event. -/
structure ResolvedContext where
  context : Dict := ∅
  sources : List String := []

/-- Explicit vendor-neutral provider and account routing input. -/
structure IntegrationRouteContext where
  provider : String
  principal : Option String := none
  accountIdentifier : String

/-- Result of processing an event through the pipeline. -/
structure ProcessedEvent where
  event : UniversalEvent
  classification : EventClassification
  context : ResolvedContext
  integrationRoute : Option IntegrationRouteContext := none

/-! ### The event lifecycle -/

/-- The lifecycle statuses of an event. -/
inductive EventStatus
  | accepted
  | pending
  | processing
  | processed
  | failed
  deriving DecidableEq

/-- The text of a status. -/
def EventStatus.value : EventStatus → String
  | .accepted => "accepted"
  | .pending => "pending"
  | .processing => "processing"
  | .processed => "processed"
  | .failed => "failed"

/-- The lifecycle state of an event. -/
structure EventLifecycleState where
  eventId : UUID
  status : EventStatus
  reason : Option String := none

namespace EventLifecycleManager

/-- The transitions an event may make. -/
def validTransitions : List (EventStatus × EventStatus) :=
  [(.accepted, .pending), (.pending, .processing), (.processing, .processed),
    (.processing, .failed),
    -- a failed event may be processed again
    (.failed, .processing)]

/-- The lifecycle state after a valid transition. -/
def transition (state : EventLifecycleState) (status : EventStatus)
    (reason : Option String := none) : Except Raised EventLifecycleState :=
  if (state.status, status) ∉ validTransitions then
    throw ⟨.valueError,
      "invalid lifecycle transition: " ++ state.status.value ++ " -> " ++ status.value⟩
  else if reason.isSome ∧ status ≠ .failed then
    throw ⟨.valueError, "reason may only be supplied when moving to failed"⟩
  else
    return { eventId := state.eventId, status, reason := normalizeBlankReason reason }

variable {state state' : EventLifecycleState} {status : EventStatus} {reason : Option String}

/-- A transition succeeds exactly along the valid ones. -/
theorem transition_eq_ok_iff :
    transition state status reason = .ok state' ↔
      (state.status, status) ∈ validTransitions ∧ (reason.isSome → status = .failed) ∧
        state' = { eventId := state.eventId, status, reason := normalizeBlankReason reason } := by
  unfold transition
  by_cases hvalid : (state.status, status) ∈ validTransitions
  · by_cases hreason : reason.isSome ∧ status ≠ .failed
    · simp only [hvalid, not_true_eq_false, hreason.1, hreason.2, ne_eq, not_false_eq_true,
        and_self, if_true, if_false, true_and, forall_const, false_and, iff_false]
      exact fun h => nomatch h
    · simp only [hvalid, hreason, not_true_eq_false, if_false, true_and]
      refine ⟨fun h => ⟨?_, (Except.ok.inj h).symm⟩, fun h => congrArg Except.ok h.2.symm⟩
      simpa using hreason
  · simp only [hvalid, not_false_eq_true, if_true, false_and, iff_false]
    exact fun h => nomatch h

theorem transition_eq_ok (hvalid : (state.status, status) ∈ validTransitions)
    (hreason : reason.isSome → status = .failed) :
    transition state status reason =
      .ok { eventId := state.eventId, status, reason := normalizeBlankReason reason } :=
  transition_eq_ok_iff.mpr ⟨hvalid, hreason, rfl⟩

theorem transition_error_of_notMem (hvalid : (state.status, status) ∉ validTransitions) :
    ∃ e : Raised, transition state status reason = .error e ∧ e.kind = .valueError := by
  simp [transition, hvalid]

end EventLifecycleManager

/-! ### The event store and the inbox -/

/-- The event store: stored events in append order. -/
abbrev EventStore := List UniversalEvent

/-- The event with the given id, if it is stored. -/
def EventStore.getEvent (store : EventStore) (id : UUID) : Option UniversalEvent :=
  store.find? fun event => event.id = id

/-- The pending inbox in enqueue order. -/
abbrev EventInbox := List UniversalEvent

/-- Remove a pending event by id. -/
def EventInbox.markProcessed (inbox : EventInbox) (id : UUID) : EventInbox :=
  inbox.eraseP fun event => event.id = id

/-- The process-local state of the event workflow. -/
structure EventStores where
  repository : EventStore := []
  inbox : EventInbox := []
  lifecycleStates : OrderedDict UUID EventLifecycleState := ∅

variable {events : List UniversalEvent} {event : UniversalEvent} {id : UUID}

theorem EventStore.getEvent_eq_some (h : EventStore.getEvent events id = some event) :
    event ∈ events ∧ event.id = id :=
  ⟨List.mem_of_find?_eq_some h, by simpa using List.find?_some h⟩

theorem EventStore.getEvent_eq_none_iff :
    EventStore.getEvent events id = none ↔ ∀ event ∈ events, event.id ≠ id := by
  simp [EventStore.getEvent]

/-- With distinct ids, marking an event processed keeps exactly the others. -/
theorem EventInbox.markProcessed_eq_filter (h : (events.map (·.id)).Nodup) :
    EventInbox.markProcessed events id = events.filter fun event => event.id ≠ id := by
  induction events with
  | nil => rfl
  | cons event events ih =>
    simp only [List.map_cons, List.nodup_cons] at h
    by_cases hid : event.id = id
    · have hrest : ∀ event' ∈ events, event'.id ≠ id := fun event' hmem heq =>
        h.1 (by rw [hid, ← heq]; exact List.mem_map_of_mem hmem)
      simp only [EventInbox.markProcessed, hid, decide_true, List.eraseP_cons_of_pos, ne_eq,
        not_true_eq_false, decide_false, Bool.false_eq_true, not_false_eq_true,
        List.filter_cons_of_neg]
      exact (List.filter_eq_self.mpr fun event' hmem => by simpa using hrest event' hmem).symm
    · have := ih h.2
      simp only [EventInbox.markProcessed, ne_eq] at this
      simp [EventInbox.markProcessed, hid, this]

end Velox
