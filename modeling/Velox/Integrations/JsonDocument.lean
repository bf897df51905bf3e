import Velox.Integrations.Json
import Velox.Lib.Codec
import Velox.Lib.FixedWidth
import Mathlib.Data.String.Basic

/-!
# Writing JSON

`json.dumps` of a flat document, whose values are texts and lists of texts: without
spaces between tokens, with sorted keys, and with every character outside printable
ASCII escaped. That `json.loads` reads such a document back is documented, and the
reader given here does.

## Main definitions

* `JsonDocument.text`, `JsonDocument.document` — the codecs of texts and documents
* `JsonDocument.dumps` — `json.dumps(document, separators=(",", ":"), sort_keys=True)`
* `PyJsonDumps` — a `json.loads` that reads documents back
* `PyJsonDumps.plain` — the one that reads nothing else

## Main results

* `JsonDocument.readChar_printChar` — an escaped character reads back
* `PyJsonDumps.loads_dumps` — reading back a document with sorted keys
-/

set_option autoImplicit false

namespace JsonDocument

/-! ### Characters -/

/-- A UTF-16 code unit, escaped. -/
def escapeUnit (n : ℕ) : List Char := '\\' :: 'u' :: FixedWidth.encode 16 4 n

/-- Whether a character is written as it is. -/
def isPlain (c : Char) : Bool := 0x20 ≤ c.toNat && c.toNat ≤ 0x7E

/-- A character within a text. -/
def printChar : Char → List Char
  | '"' => ['\\', '"']
  | '\\' => ['\\', '\\']
  | '\n' => ['\\', 'n']
  | '\r' => ['\\', 'r']
  | '\t' => ['\\', 't']
  | '\u000c' => ['\\', 'f']
  | '\u0008' => ['\\', 'b']
  | c =>
    if isPlain c then [c]
    else if c.toNat < 0x10000 then escapeUnit c.toNat
    else escapeUnit (0xD800 + (c.toNat - 0x10000) / 0x400) ++
      escapeUnit (0xDC00 + (c.toNat - 0x10000) % 0x400)

/-- The character with a code point. -/
def charOf (n : ℕ) : Option Char := if n.isValidChar then some (Char.ofNat n) else none

/-- The character a letter behind a backslash stands for. -/
def readEscape : Char → Option Char
  | '"' => some '"'
  | '\\' => some '\\'
  | '/' => some '/'
  | 'n' => some '\n'
  | 'r' => some '\r'
  | 't' => some '\t'
  | 'f' => some '\u000c'
  | 'b' => some '\u0008'
  | _ => none

/-- The second half of a surrogate pair. -/
def readLow (high : ℕ) : List Char → Option (Char × List Char)
  | '\\' :: 'u' :: cs =>
    (FixedWidth.read 16 4 cs).bind fun r =>
      if 0xDC00 ≤ r.1 ∧ r.1 < 0xE000 then
        (charOf (0x10000 + (high - 0xD800) * 0x400 + (r.1 - 0xDC00))).map fun c => (c, r.2)
      else none
  | _ => none

/-- Read a character within a text. -/
def readChar : List Char → Option (Char × List Char)
  | '\\' :: 'u' :: cs =>
    (FixedWidth.read 16 4 cs).bind fun r =>
      if 0xD800 ≤ r.1 ∧ r.1 < 0xDC00 then readLow r.1 r.2
      else (charOf r.1).map fun c => (c, r.2)
  | '\\' :: c :: cs => (readEscape c).map fun d => (d, cs)
  | ['\\'] => none
  | c :: cs => if c.toNat < 0x20 then none else some (c, cs)
  | [] => none

theorem charOf_toNat (c : Char) : charOf c.toNat = some c := by
  have hvalid : c.toNat.isValidChar := c.valid
  rw [charOf, if_pos hvalid, Char.ofNat_toNat]

theorem readChar_plain {c : Char} (hplain : isPlain c) (hbackslash : c ≠ '\\') (rest : List Char) :
    readChar (c :: rest) = some (c, rest) := by
  have hlow : ¬c.toNat < 0x20 := by
    simp only [isPlain, Bool.and_eq_true, decide_eq_true_eq] at hplain
    omega
  rw [readChar, if_neg hlow]
  all_goals
    intros
    contradiction

theorem readChar_escapeUnit {n : ℕ} (hn : n < 16 ^ 4) (rest : List Char) :
    readChar (escapeUnit n ++ rest) =
      if 0xD800 ≤ n ∧ n < 0xDC00 then readLow n rest
      else (charOf n).map fun c => (c, rest) := by
  rw [escapeUnit, List.cons_append, List.cons_append, readChar,
    FixedWidth.read_encode_append (by decide) hn, Option.bind_some]

/-- An escaped character reads back. -/
theorem readChar_printChar (c : Char) (rest : List Char) :
    readChar (printChar c ++ rest) = some (c, rest) := by
  have hvalid : c.toNat < 0xD800 ∨ 0xDFFF < c.toNat ∧ c.toNat < 0x110000 := c.valid
  unfold printChar
  split
  -- the short escapes
  iterate 7 rfl
  next _ hbackslash _ _ _ _ _ =>
  split_ifs with hplain hbasic
  · exact readChar_plain hplain hbackslash rest
  · have hsurrogate : ¬(0xD800 ≤ c.toNat ∧ c.toNat < 0xDC00) := by omega
    rw [readChar_escapeUnit hbasic, if_neg hsurrogate, charOf_toNat, Option.map_some]
  · -- a surrogate pair
    have hhigh : 0xD800 + (c.toNat - 0x10000) / 0x400 < 16 ^ 4 := by omega
    have hlow : 0xDC00 + (c.toNat - 0x10000) % 0x400 < 16 ^ 4 := by omega
    have hcode : 0x10000 + (0xD800 + (c.toNat - 0x10000) / 0x400 - 0xD800) * 0x400 +
        (0xDC00 + (c.toNat - 0x10000) % 0x400 - 0xDC00) = c.toNat := by omega
    rw [List.append_assoc, readChar_escapeUnit hhigh, if_pos (by omega), escapeUnit,
      List.cons_append, List.cons_append, readLow,
      FixedWidth.read_encode_append (by decide) hlow, Option.bind_some, if_pos (by omega), hcode,
      charOf_toNat, Option.map_some]

/-! ### Documents -/

/-- The characters of a text. -/
def char : Codec Char Char := ⟨printChar, readChar, readChar_printChar⟩

theorem avoids_char : char.Avoids '"' := by
  intro c
  change ∃ d ds, printChar c = d :: ds ∧ d ≠ '"'
  unfold printChar
  split
  iterate 7 exact ⟨_, _, rfl, by decide⟩
  next hquote _ _ _ _ _ _ =>
  split_ifs
  · exact ⟨_, _, rfl, hquote⟩
  · exact ⟨_, _, rfl, by decide⟩
  · exact ⟨_, _, rfl, by decide⟩

/-- A text in quotes. -/
def text : Codec Char String :=
  (Codec.after '"' (char.terminated '"' avoids_char)).along String.toList
    (fun cs => some (String.ofList cs)) fun _ => congrArg some (String.ofList_toList ..)

theorem avoids_text {c : Char} (h : '"' ≠ c) : text.Avoids c := (Codec.avoids_after h _).along

/-- A list of texts. -/
def array : Codec Char (List String) :=
  Codec.after '[' (text.separated ',' ']' (avoids_text (by decide)) (by decide))

/-- The value of a key. -/
inductive Item
  | text (s : String)
  | texts (ss : List String)

/-- The value, as `json.loads` returns it. -/
def Item.toValue : Item → Value
  | .text s => .str s
  | .texts ss => .list (ss.map .str)

/-- The value of a key: a quote begins a text. -/
def item : Codec Char Item :=
  (text.either array '"' (fun _ => rfl) (Codec.avoids_after (by decide) _)).along
    (fun | .text s => .inl s | .texts ss => .inr ss) (fun x => some (x.elim .text .texts))
    fun x => by cases x <;> rfl

/-- A document without spaces between its tokens. -/
def document : Codec Char (List (String × Item)) :=
  Codec.after '{' ((text.pair (Codec.after ':' item)).separated ',' '}'
    ((avoids_text (by decide)).pair _) (by decide))

/-- The entries as the values they stand for. -/
def entries (es : List (String × Item)) : List (String × Value) :=
  es.map fun e => (e.1, e.2.toValue)

theorem keys_entries (es : List (String × Item)) :
    (entries es).map Prod.fst = es.map Prod.fst := by
  rw [entries, List.map_map]
  rfl

/-- `json.dumps(document, separators=(",", ":"), sort_keys=True)`. -/
def dumps (es : List (String × Item)) : String :=
  String.ofList (document.print (es.mergeSort fun e f => e.1 ≤ f.1))

theorem dumps_ne_empty (es : List (String × Item)) : dumps es ≠ "" := by
  intro h
  have hnil := congrArg String.toList h
  rw [dumps, String.toList_ofList] at hnil
  exact List.cons_ne_nil _ _ hnil

end JsonDocument

open Velox

/-- A `json.loads` that reads back the documents `json.dumps` writes. -/
class PyJsonDumps extends PyJson where
  loads_print (es : List (String × JsonDocument.Item)) : (es.map Prod.fst).Nodup →
    loads (String.ofList (JsonDocument.document.print es)) = .ok (.dict (JsonDocument.entries es))

namespace PyJsonDumps

/-- Reading back a document whose keys are in order. -/
theorem loads_dumps [PyJsonDumps] {es : List (String × JsonDocument.Item)}
    (hsorted : es.Pairwise fun e f => e.1 < f.1) :
    PyJson.loads (JsonDocument.dumps es) = .ok (.dict (JsonDocument.entries es)) := by
  have hsort : es.mergeSort (fun e f => e.1 ≤ f.1) = es := by
    refine List.mergeSort_of_pairwise (hsorted.imp fun h => ?_)
    exact decide_eq_true (le_of_lt h)
  have hnodup : (es.map Prod.fst).Nodup := by
    rw [List.Nodup, List.pairwise_map]
    exact hsorted.imp fun h => ne_of_lt h
  rw [JsonDocument.dumps, hsort, loads_print es hnodup]

/-- The reader of flat documents without spaces. A repeated key keeps its last value. -/
@[reducible] def plain : PyJsonDumps where
  loads s :=
    match JsonDocument.document.readAll s.toList with
    | some es => .ok (.dict (OrderedDict.ofList (JsonDocument.entries es)).entries)
    | none => .error ⟨jsonDecodeError, "no document"⟩
  loads_print es hnodup := by
    have hentries : (OrderedDict.ofList (JsonDocument.entries es)).entries =
        JsonDocument.entries es :=
      OrderedDict.entries_ofList (by rwa [JsonDocument.keys_entries])
    rw [String.toList_ofList, Codec.readAll_print, ← hentries]

end PyJsonDumps
