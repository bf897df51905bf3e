import Mathlib.Data.List.Infix
import Velox.Events.Workflow

/-!
# The rule-based classifier

The collaborators of the pipeline that a process is composed with: events are classified
by the name of their source, and no context is added.

`str.lower` is a parameter; on ASCII text it is what the letters say.

## Main definitions

* `PyLower`, `PyLower.ascii` — `str.lower`
* `RuleBasedEventClassifier.classify`, `BaseContextResolver.resolve`
* `ruleBased` — the outside with these collaborators

## Main results

* `run_process_ruleBased` — what the pipeline returns
* `category_of_calendar` — the category of a Calendar event
-/

set_option autoImplicit false

/-- Lower case. -/
class PyLower where
  /-- `str.lower()`. -/
  lower : String → String
  lower_ascii (s : String) :
    (s.toList.all fun c => c.val < 128) → lower s = String.ofList (s.toList.map Char.toLower)

/-- Letters of ASCII in lower case, anything else as it is. -/
@[reducible] def PyLower.ascii : PyLower where
  lower s := String.ofList (s.toList.map Char.toLower)
  lower_ascii _ _ := rfl

namespace Velox

/-- `part in text`. -/
def Python.isIn (part text : String) : Prop := part.toList <:+: text.toList

instance (part text : String) : Decidable (Python.isIn part text) :=
  inferInstanceAs (Decidable (_ <:+: _))

/-- The category of a source, in lower case. -/
def RuleBasedEventClassifier.category (source : String) : String :=
  if Python.isIn "github" source ∨ Python.isIn "github.com" source then "github"
  else if Python.isIn "gmail" source ∨ Python.isIn "google-mail" source then "gmail"
  else if Python.isIn "calendar" source ∨ Python.isIn "google-calendar" source ∨
      Python.isIn "apple-calendar" source then "calendar"
  else "unknown"

/-- Classify an event using static source-name rules. -/
def RuleBasedEventClassifier.classify [PyLower] (event : UniversalEvent) : EventClassification where
  category := category (PyLower.lower event.source)
  labels := [event.source, event.type]

/-- A context with no additional external context. -/
def BaseContextResolver.resolve (_event : UniversalEvent) (_classification : EventClassification) :
    ResolvedContext where

variable [PyLower]

/-- The outside of a process whose pipeline has the default collaborators. -/
def ruleBased {W : Type} (h : Handler Outside W) : Handler Outside W
  | .classify event, w => (.ok (RuleBasedEventClassifier.classify event), w)
  | .resolveContext event classification, w =>
    (.ok (BaseContextResolver.resolve event classification), w)
  | call, w => h call w

/-- What the pipeline makes of an event. -/
def processedOf (event : UniversalEvent) (route : Option IntegrationRouteContext) : ProcessedEvent where
  event
  classification := RuleBasedEventClassifier.classify event
  context := BaseContextResolver.resolve event (RuleBasedEventClassifier.classify event)
  integrationRoute := route

variable {W : Type} {h : Handler Outside W} {w : W}

/-- The default pipeline cannot fail, and asks nobody. -/
theorem run_process_ruleBased (event : UniversalEvent) (route : Option IntegrationRouteContext) :
    (EventProcessingPipeline.process event route).run (ruleBased h) () w =
      ((.ok (processedOf event route), ()), w) := rfl

/-- An event of the source `calendar` is a Calendar event. -/
theorem category_of_calendar {event : UniversalEvent} (h : event.source = "calendar") :
    (RuleBasedEventClassifier.classify event).category = "calendar" := by
  have hlower : PyLower.lower event.source = "calendar" := by
    rw [h, PyLower.lower_ascii _ (by decide)]
    decide
  have hcategory : RuleBasedEventClassifier.category "calendar" = "calendar" := by decide
  rw [RuleBasedEventClassifier.classify, hlower, hcategory]

end Velox
