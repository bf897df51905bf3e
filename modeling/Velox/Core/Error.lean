import Velox.Python.Value

/-!
# Exceptions

The exceptions the modelled services raise and tell apart. An `except` clause of
the source is a test of the kind of an exception.

## Main definitions

* `ErrorKind` — the exception classes that some caller tells apart
* `Raised` — an exception with its message
* `intOfText` — `int(text)`
-/

set_option autoImplicit false

namespace Velox

/-- The class of an exception. -/
inductive ErrorKind
  | softwareEngineeringRunStateError
  | softwareEngineeringRecoveryError
  | softwareEngineeringRecoveryNotFoundError
  | softwareEngineeringContinuationNotFoundError
  | softwareEngineeringContinuationStateError
  | softwareEngineeringContinuationRouteError
  | softwareEngineeringRunControlNotFoundError
  | softwareEngineeringRunControlStateError
  | softwareEngineeringDispositionNotFoundError
  | softwareEngineeringDispositionStateError
  | softwareEngineeringDispositionRouteError
  | softwareEngineeringPromotionNotFoundError
  | softwareEngineeringPromotionStateError
  | softwareEngineeringPromotionExternalError
  | workProductIdentityError
  | pendingActionNotFoundError
  | taskDelegationRequestError
  | duplicateEventError
  | eventNotFoundError
  | eventLifecycleConflictError
  | eventProcessingError
  | valueError
  | typeError
  | overflowError
  | pydanticSerializationError
  /-- Any other subclass of `Exception`. -/
  | exception (name : String)
  /-- A `BaseException` that is not an `Exception`, such as `KeyboardInterrupt`. -/
  | baseException (name : String)
  deriving DecidableEq

/-- The name of the class. -/
def ErrorKind.name : ErrorKind → String
  | .softwareEngineeringRunStateError => "SoftwareEngineeringRunStateError"
  | .softwareEngineeringRecoveryError => "SoftwareEngineeringRecoveryError"
  | .softwareEngineeringRecoveryNotFoundError => "SoftwareEngineeringRecoveryNotFoundError"
  | .softwareEngineeringContinuationNotFoundError => "SoftwareEngineeringContinuationNotFoundError"
  | .softwareEngineeringContinuationStateError => "SoftwareEngineeringContinuationStateError"
  | .softwareEngineeringContinuationRouteError => "SoftwareEngineeringContinuationRouteError"
  | .softwareEngineeringRunControlNotFoundError => "SoftwareEngineeringRunControlNotFoundError"
  | .softwareEngineeringRunControlStateError => "SoftwareEngineeringRunControlStateError"
  | .softwareEngineeringDispositionNotFoundError => "SoftwareEngineeringDispositionNotFoundError"
  | .softwareEngineeringDispositionStateError => "SoftwareEngineeringDispositionStateError"
  | .softwareEngineeringDispositionRouteError => "SoftwareEngineeringDispositionRouteError"
  | .softwareEngineeringPromotionNotFoundError => "SoftwareEngineeringPromotionNotFoundError"
  | .softwareEngineeringPromotionStateError => "SoftwareEngineeringPromotionStateError"
  | .softwareEngineeringPromotionExternalError => "SoftwareEngineeringPromotionExternalError"
  | .workProductIdentityError => "WorkProductIdentityError"
  | .pendingActionNotFoundError => "PendingActionNotFoundError"
  | .taskDelegationRequestError => "TaskDelegationRequestError"
  | .duplicateEventError => "DuplicateEventError"
  | .eventNotFoundError => "EventNotFoundError"
  | .eventLifecycleConflictError => "EventLifecycleConflictError"
  | .eventProcessingError => "EventProcessingError"
  | .valueError => "ValueError"
  | .typeError => "TypeError"
  | .overflowError => "OverflowError"
  | .pydanticSerializationError => "PydanticSerializationError"
  | .exception name => name
  | .baseException name => name

/-- A raised exception. -/
structure Raised where
  kind : ErrorKind
  message : String
  deriving DecidableEq

/-- Whether `except Exception` catches it. -/
def Raised.isException (e : Raised) : Bool :=
  match e.kind with
  | .baseException _ => false
  | _ => true

/-- `int(text)`. -/
def intOfText [PyStd] (text : String) : Except Raised ℤ :=
  match PyStd.parseInt text with
  | some n => return n
  | none => throw ⟨.valueError, "invalid literal for int() with base 10"⟩

end Velox
