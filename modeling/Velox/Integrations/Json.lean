import Velox.Core.Error

/-!
# Reading JSON

`json.loads` is a parameter: it returns a value or raises. It raises
`JSONDecodeError` on text that is no JSON, and may raise others, such as a plain
`ValueError` on a numeral with too many digits or a `RecursionError` on nesting that
is too deep.

## Main definitions

* `PyJson` — `json.loads`
* `IsValueError` — the exceptions `except ValueError` catches
* `Value.field` — `value.get(key)` of a JSON object
-/

set_option autoImplicit false

namespace Velox

/-- Reading JSON text. -/
class PyJson where
  /-- `json.loads(text)`. -/
  loads : String → Except Raised Value

/-- `json.JSONDecodeError`. -/
abbrev jsonDecodeError : ErrorKind := .exception "JSONDecodeError"

/-- `RecursionError`. -/
abbrev recursionError : ErrorKind := .exception "RecursionError"

/-- `except ValueError` catches the exception. -/
def IsValueError (e : Raised) : Prop :=
  e.kind = .valueError ∨ e.kind = jsonDecodeError ∨ e.kind = .exception "UnicodeDecodeError"

instance (e : Raised) : Decidable (IsValueError e) := inferInstanceAs (Decidable (_ ∨ _))

end Velox

namespace Value

/-- `value.get(key)` of an object with the given entries. -/
def field (entries : List (String × Value)) (key : String) : Value :=
  ((entries.find? fun entry => entry.1 = key).map Prod.snd).getD .none

/-- The number an `int` instance stands for; `bool` is a subclass of `int`. -/
def int? : Value → Option Int
  | .int n => some n
  | .bool b => some (if b then 1 else 0)
  | _ => Option.none

end Value
