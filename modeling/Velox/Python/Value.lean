import Velox.Lib.OrderedDict
import Velox.Python.Text

/-!
# Python values

The dynamically typed values that payloads, metadata and lifecycle states carry
(`dict[str, Any]`). Anything that is not plain data is a `PyObject`, known only
by how it answers the questions the server asks.

## Main definitions

* `Value`, `Dict` — values and dictionaries of them
* `Value.truthy`, `Value.toInt` — `bool(value)` and `int(value)`
* `Value.toJson` — the value a pydantic model dumps with `mode="json"`
-/

set_option autoImplicit false

/-- An arbitrary object, as far as the server looks at it. -/
structure PyObject where
  /-- `bool(o)`. -/
  truthy : Bool
  /-- `int(o)`; `none` where it raises. -/
  toInt : Option Int
  /-- The text pydantic serializes it to; `none` where it raises. -/
  toJson : Option String
  deriving DecidableEq

/-- A Python value. -/
inductive Value
  | none
  | bool (b : Bool)
  | int (n : Int)
  | str (s : String)
  | list (xs : List Value)
  | tuple (xs : List Value)
  | dict (es : List (String × Value))
  | object (o : PyObject)

/-- `dict[str, Any]`. -/
abbrev Dict := OrderedDict String Value

namespace Value

mutual

/-- Equality of values is decided structurally. -/
def beq : Value → Value → Bool
  | .none, .none => true
  | .bool a, .bool b => a == b
  | .int m, .int n => m == n
  | .str s, .str t => s == t
  | .list xs, .list ys => beqList xs ys
  | .tuple xs, .tuple ys => beqList xs ys
  | .dict es, .dict fs => beqEntries es fs
  | .object o, .object p => o == p
  | _, _ => false

/-- Equality of lists of values. -/
def beqList : List Value → List Value → Bool
  | [], [] => true
  | x :: xs, y :: ys => beq x y && beqList xs ys
  | _, _ => false

/-- Equality of dictionary entries. -/
def beqEntries : List (String × Value) → List (String × Value) → Bool
  | [], [] => true
  | (k, x) :: es, (l, y) :: fs => k == l && beq x y && beqEntries es fs
  | _, _ => false

end

mutual

theorem beq_iff : ∀ x y : Value, x.beq y = true ↔ x = y
  | .none, y => by cases y <;> simp [beq]
  | .bool _, y => by cases y <;> simp [beq]
  | .int _, y => by cases y <;> simp [beq]
  | .str _, y => by cases y <;> simp [beq]
  | .list xs, y => by cases y <;> simp [beq, beqList_iff xs]
  | .tuple xs, y => by cases y <;> simp [beq, beqList_iff xs]
  | .dict es, y => by cases y <;> simp [beq, beqEntries_iff es]
  | .object _, y => by cases y <;> simp [beq]

theorem beqList_iff : ∀ xs ys : List Value, beqList xs ys = true ↔ xs = ys
  | [], ys => by cases ys <;> simp [beqList]
  | x :: xs, ys => by cases ys <;> simp [beqList, beq_iff x, beqList_iff xs]

theorem beqEntries_iff : ∀ es fs : List (String × Value), beqEntries es fs = true ↔ es = fs
  | [], fs => by cases fs <;> simp [beqEntries]
  | (k, x) :: es, fs => by
    rcases fs with _ | ⟨⟨l, y⟩, fs⟩ <;> simp [beqEntries, beq_iff x, beqEntries_iff es]

end

instance : DecidableEq Value := fun x y => decidable_of_iff _ (beq_iff x y)

/-- `bool(value)`. -/
def truthy : Value → Bool
  | .none => false
  | .bool b => b
  | .int n => n ≠ 0
  | .str s => s ≠ ""
  | .list xs => !xs.isEmpty
  | .tuple xs => !xs.isEmpty
  | .dict es => !es.isEmpty
  | .object o => o.truthy

/-- `int(value)`; `none` where it raises. -/
def toInt [PyStd] : Value → Option Int
  | .bool b => some (if b then 1 else 0)
  | .int n => some n
  | .str s => PyStd.parseInt s
  | .object o => o.toInt
  | .none | .list _ | .tuple _ | .dict _ => Option.none

mutual

/-- The value as `model_dump(mode="json")` returns it; `none` where pydantic
cannot serialize it. -/
def toJson : Value → Option Value
  | .list xs => (toJsonList xs).map .list
  | .tuple xs => (toJsonList xs).map .list
  | .dict es => (toJsonEntries es).map .dict
  | .object o => o.toJson.map .str
  | .none => some .none
  | .bool b => some (.bool b)
  | .int n => some (.int n)
  | .str s => some (.str s)

/-- The elements of a list, dumped. -/
def toJsonList : List Value → Option (List Value)
  | [] => some []
  | x :: xs => do return (← toJson x) :: (← toJsonList xs)

/-- The entries of a dictionary, dumped. -/
def toJsonEntries : List (String × Value) → Option (List (String × Value))
  | [] => some []
  | (k, x) :: es => do return (k, ← toJson x) :: (← toJsonEntries es)

end

end Value

/-- A dictionary as `model_dump(mode="json")` returns it; `none` where some
value cannot be serialized. -/
def Dict.toJson (d : Dict) : Option Value := (Value.toJsonEntries d.entries).map .dict
