import Velox.Lib.PercentEncoding
import Velox.Python.Parse

/-!
# Quoting path segments

`urllib.parse.quote(text, safe='')` and `unquote(text)`, pinned down: they are
percent-encoding and its lenient decoding.

## Main definitions

* `PyUrl` — reading and writing where quoting is percent-encoding

## Main results

* `PyUrl.unquote_quote` — `unquote` takes back `quote`
-/

set_option autoImplicit false

/-- What the server reads and writes when `quote` and `unquote` are known. -/
class PyUrl extends PyParse where
  quote_eq (s : String) : quote s = PercentEncoding.quote s
  unquote_eq (s : String) : unquote s = PercentEncoding.unquote s

/-- ASCII text as it is read, and percent-encoding. -/
@[reducible] def PyUrl.ascii : PyUrl where
  toPyParse := { PyParse.ascii with
    quote := PercentEncoding.quote
    unquote := PercentEncoding.unquote }
  quote_eq _ := rfl
  unquote_eq _ := rfl

/-- `unquote` takes back `quote`. -/
@[simp] theorem PyUrl.unquote_quote [PyUrl] (s : String) :
    PyParse.unquote (PyParse.quote s) = s := by
  rw [quote_eq, unquote_eq, PercentEncoding.unquote_quote]
