import Mathlib.Algebra.Order.Ring.Nat
import Mathlib.Order.Basic

/-!
# Percent-encoding

A text becomes a text of unreserved ASCII characters: every other character is
written byte by byte, as UTF-8 has it, in hexadecimal. Reading is lenient: an escape
that is none stands for itself, and bytes that are no UTF-8 become replacement
characters.

## Main definitions

* `quote`, `unquote` — encoding and decoding a text
* `hasEscape` — whether a text contains an escape
* `IsSegment`, `IsLiteral` — a text that a path holds as one segment, and one that needs
  no encoding for it

## Main results

* `unquote_quote` — decoding takes back an encoding
* `unquote_eq_self_iff` — which texts decoding leaves alone
* `isSegment_quote_iff` — which encodings are path segments
-/

set_option autoImplicit false

namespace PercentEncoding

/-! ### Encoding -/

/-- The characters that stand for themselves. -/
def isUnreserved (c : Char) : Bool :=
  c.isAlphanum || c == '_' || c == '.' || c == '-' || c == '~'

/-- The upper-case hexadecimal digit of a number below sixteen. -/
def hexDigit (n : ℕ) : Char := Char.ofNat (if n < 10 then '0'.toNat + n else 'A'.toNat + (n - 10))

/-- A byte as an escape. -/
def encodeByte (b : UInt8) : List Char := ['%', hexDigit (b.toNat / 16), hexDigit (b.toNat % 16)]

/-- The encoding of one character. -/
def encodeChar (c : Char) : List Char :=
  if isUnreserved c then [c] else (String.utf8EncodeChar c).flatMap encodeByte

/-- The encoding of a text. -/
def quote (s : String) : String := String.ofList (s.toList.flatMap encodeChar)

/-! ### Decoding -/

/-- The value of a hexadecimal digit of either case. -/
def hexValue (c : Char) : Option ℕ :=
  if c.isDigit then some (c.toNat - '0'.toNat)
  else if 'a' ≤ c ∧ c ≤ 'f' then some (c.toNat - 'a'.toNat + 10)
  else if 'A' ≤ c ∧ c ≤ 'F' then some (c.toNat - 'A'.toNat + 10)
  else none

/-- The byte of an ASCII character. -/
def byteOf (c : Char) : UInt8 := UInt8.ofNat c.toNat

/-- The second bytes that may follow the first byte of a longer sequence. -/
def secondBytes (b : UInt8) : Option (ℕ × ℕ) :=
  if b = 0xE0 then some (0xA0, 0xBF)
  else if b = 0xED then some (0x80, 0x9F)
  else if b = 0xF0 then some (0x90, 0xBF)
  else if b = 0xF4 then some (0x80, 0x8F)
  else if 0xE1 ≤ b ∧ b ≤ 0xF3 then some (0x80, 0xBF)
  else none

/-- How many bytes at the beginning of ill-formed UTF-8 one replacement character
stands for: the longest beginning of a sequence that could have been well-formed. -/
def maximalSubpart : List UInt8 → ℕ
  | first :: second :: rest =>
    match secondBytes first with
    | none => 1
    | some (low, high) =>
      if low ≤ second.toNat ∧ second.toNat ≤ high then
        match rest with
        | third :: _ => if 0xF0 ≤ first ∧ 0x80 ≤ third ∧ third ≤ 0xBF then 3 else 2
        | [] => 2
      else 1
  | _ => 1

/-- The characters of UTF-8 text, after the first `skip` bytes. -/
def decodeUtf8 : (skip : ℕ) → List UInt8 → List Char
  | _, [] => []
  | skip + 1, _ :: bytes => decodeUtf8 skip bytes
  | 0, b :: bytes =>
    match (b :: bytes).toByteArray.utf8DecodeChar? 0 with
    | some c => c :: decodeUtf8 (c.utf8Size - 1) bytes
    | none => '\uFFFD' :: decodeUtf8 (maximalSubpart (b :: bytes) - 1) bytes

def isAscii (c : Char) : Bool := c.toNat < 128

/-- The text that is left, after bytes that were read but not decoded. A run of ASCII
characters stands for bytes, which are decoded at its end; any other character stands
for itself. -/
def unquoteFrom (pending : List UInt8) : List Char → List Char
  | [] => decodeUtf8 0 pending
  | '%' :: high :: low :: cs =>
    match hexValue high, hexValue low with
    | some h, some l => unquoteFrom (pending ++ [UInt8.ofNat (16 * h + l)]) cs
    | _, _ => unquoteFrom (pending ++ [byteOf '%']) (high :: low :: cs)
  | c :: cs =>
    if isAscii c then unquoteFrom (pending ++ [byteOf c]) cs
    else decodeUtf8 0 pending ++ c :: unquoteFrom [] cs

/-- The text an encoded text stands for. -/
def unquote (s : String) : String := String.ofList (unquoteFrom [] s.toList)

/-- Whether some percent sign is followed by two hexadecimal digits. -/
def hasEscape : List Char → Bool
  | '%' :: high :: low :: cs =>
    ((hexValue high).isSome && (hexValue low).isSome) || hasEscape (high :: low :: cs)
  | _ :: cs => hasEscape cs
  | [] => false

/-! ### Decoding an encoding -/

theorem hexValue_hexDigit : ∀ n < 16, hexValue (hexDigit n) = some n := by decide

theorem isAlphanum_hexDigit : ∀ n < 16, (hexDigit n).isAlphanum = true := by decide

theorem unquoteFrom_encodeByte (pending : List UInt8) (b : UInt8) (cs : List Char) :
    unquoteFrom pending (encodeByte b ++ cs) = unquoteFrom (pending ++ [b]) cs := by
  have hlt : b.toNat < 256 := b.toNat_lt
  have hhigh := hexValue_hexDigit (b.toNat / 16) (by omega)
  have hlow := hexValue_hexDigit (b.toNat % 16) (by omega)
  rw [encodeByte, List.cons_append, List.cons_append, List.cons_append, List.nil_append,
    unquoteFrom, hhigh, hlow]
  have hbyte : 16 * (b.toNat / 16) + b.toNat % 16 = b.toNat := Nat.div_add_mod ..
  simp only [hbyte, UInt8.ofNat_toNat]

theorem unquoteFrom_encodeBytes (pending bytes : List UInt8) (cs : List Char) :
    unquoteFrom pending (bytes.flatMap encodeByte ++ cs) = unquoteFrom (pending ++ bytes) cs := by
  induction bytes generalizing pending with
  | nil => rw [List.flatMap_nil, List.nil_append, List.append_nil]
  | cons b bytes ih =>
    rw [List.flatMap_cons, List.append_assoc, unquoteFrom_encodeByte, ih, List.append_assoc,
      List.singleton_append]

theorem toNat_of_isUnreserved {c : Char} (h : isUnreserved c) : c.toNat < 128 ∧ c ≠ '%' := by
  have hcode : c.toNat = c.val.toNat := rfl
  constructor
  · delta isUnreserved Char.isAlphanum Char.isAlpha Char.isUpper Char.isLower Char.isDigit at h
    simp only [Bool.or_eq_true, Bool.and_eq_true, decide_eq_true_eq, beq_iff_eq,
      UInt32.le_iff_toNat_le, ge_iff_le] at h
    rcases h with (((((⟨-, h⟩ | ⟨-, h⟩) | ⟨-, h⟩) | rfl) | rfl) | rfl) | rfl
    all_goals first | decide | exact lt_of_le_of_lt h (by decide)
  · rintro rfl
    exact absurd h (by decide)

theorem unquoteFrom_ascii {c : Char} (hascii : isAscii c) (hpercent : c ≠ '%')
    (pending : List UInt8) (cs : List Char) :
    unquoteFrom pending (c :: cs) = unquoteFrom (pending ++ [byteOf c]) cs := by
  rw [unquoteFrom, if_pos hascii]
  rintro - - - rfl
  exact absurd rfl hpercent

theorem utf8EncodeChar_ascii {c : Char} (h : isAscii c) : String.utf8EncodeChar c = [byteOf c] := by
  have hcode : c.val ≤ 127 := by
    rw [UInt32.le_iff_toNat_le]
    exact Nat.le_of_lt_succ (of_decide_eq_true h)
  have hsize : c.utf8Size = 1 := if_pos hcode
  rw [String.utf8EncodeChar_eq_singleton hsize]
  rfl

/-- The bytes of an encoding are the UTF-8 bytes of the text. -/
theorem unquoteFrom_encodeChars (pending : List UInt8) (cs : List Char) :
    unquoteFrom pending (cs.flatMap encodeChar) =
      decodeUtf8 0 (pending ++ cs.flatMap String.utf8EncodeChar) := by
  induction cs generalizing pending with
  | nil => rw [List.flatMap_nil, List.flatMap_nil, List.append_nil, unquoteFrom]
  | cons c cs ih =>
    rw [List.flatMap_cons, List.flatMap_cons, encodeChar, ← List.append_assoc]
    split_ifs with hc
    · obtain ⟨hascii, hpercent⟩ := toNat_of_isUnreserved hc
      rw [List.singleton_append, unquoteFrom_ascii (decide_eq_true hascii) hpercent, ih,
        utf8EncodeChar_ascii (decide_eq_true hascii)]
    · rw [unquoteFrom_encodeBytes, ih]

theorem decodeUtf8_skip (skipped bytes : List UInt8) :
    decodeUtf8 skipped.length (skipped ++ bytes) = decodeUtf8 0 bytes := by
  induction skipped with
  | nil => rfl
  | cons b skipped ih => exact ih

theorem decodeUtf8_utf8EncodeChar (c : Char) (bytes : List UInt8) :
    decodeUtf8 0 (String.utf8EncodeChar c ++ bytes) = c :: decodeUtf8 0 bytes := by
  have hdecode := ByteArray.utf8DecodeChar?_utf8EncodeChar_append (b := bytes.toByteArray) (c := c)
  have happend : (String.utf8EncodeChar c ++ bytes).toByteArray =
      (String.utf8EncodeChar c).toByteArray ++ bytes.toByteArray := List.toByteArray_append'
  rw [← happend] at hdecode
  have hlength := String.length_utf8EncodeChar c
  cases hbytes : String.utf8EncodeChar c with
  | nil =>
    rw [hbytes, List.length_nil] at hlength
    exact absurd hlength (Char.utf8Size_pos c).ne
  | cons b rest =>
    rw [hbytes, List.length_cons] at hlength
    rw [hbytes, List.cons_append] at hdecode
    rw [List.cons_append, decodeUtf8, hdecode]
    -- what is left of the character's bytes is skipped
    have hskip : c.utf8Size - 1 = rest.length := by omega
    simp only [hskip, decodeUtf8_skip]

theorem decodeUtf8_utf8Encode (cs : List Char) :
    decodeUtf8 0 (cs.flatMap String.utf8EncodeChar) = cs := by
  induction cs with
  | nil => rfl
  | cons c cs ih => rw [List.flatMap_cons, decodeUtf8_utf8EncodeChar, ih]

/-- Decoding takes back an encoding. -/
theorem unquote_quote (s : String) : unquote (quote s) = s := by
  rw [unquote, quote, String.toList_ofList, unquoteFrom_encodeChars, List.nil_append,
    decodeUtf8_utf8Encode, String.ofList_toList]

theorem quote_injective : Function.Injective quote :=
  Function.LeftInverse.injective unquote_quote

theorem quote_eq_empty_iff {s : String} : quote s = "" ↔ s = "" :=
  quote_injective.eq_iff' rfl

/-! ### Texts without escapes -/

theorem length_decodeUtf8_le (skip : ℕ) (bytes : List UInt8) :
    (decodeUtf8 skip bytes).length ≤ bytes.length := by
  induction bytes generalizing skip with
  | nil => simp [decodeUtf8]
  | cons b bytes ih =>
    cases skip with
    | succ skip => exact (ih skip).trans (Nat.le_succ _)
    | zero =>
      rw [decodeUtf8]
      split
      · exact Nat.succ_le_succ (ih _)
      · exact Nat.succ_le_succ (ih _)

theorem hasEscape_cons {c : Char} {cs : List Char}
    (h : ∀ high low rest, c = '%' → cs = high :: low :: rest → False) :
    hasEscape (c :: cs) = hasEscape cs := by
  rw [hasEscape]
  exact fun high low rest hc hcs => h high low rest hc hcs

/-- No text gets longer by decoding, and an escape makes it shorter. -/
theorem length_unquoteFrom (pending : List UInt8) (cs : List Char) :
    (unquoteFrom pending cs).length + (hasEscape cs).toNat ≤ pending.length + cs.length := by
  induction pending, cs using unquoteFrom.induct with
  | case1 pending =>
    rw [unquoteFrom]
    exact length_decodeUtf8_le 0 pending
  | case2 pending high low cs h l hlow hhigh ih =>
    have hbound := Bool.toNat_le (hasEscape ('%' :: high :: low :: cs))
    rw [unquoteFrom, hhigh, hlow]
    simp only [List.length_append, List.length_cons, List.length_nil] at ih ⊢
    omega
  | case3 pending high low cs hnot ih =>
    have hstep : unquoteFrom pending ('%' :: high :: low :: cs) =
        unquoteFrom (pending ++ [byteOf '%']) (high :: low :: cs) := by
      rw [unquoteFrom]
      split
      · next h l hhigh hlow => exact (hnot h l hhigh hlow).elim
      · rfl
    have hescape : hasEscape ('%' :: high :: low :: cs) = hasEscape (high :: low :: cs) := by
      rw [hasEscape]
      rcases hhigh : hexValue high with _ | h
      · simp
      · rcases hlow : hexValue low with _ | l
        · simp
        · exact (hnot h l hhigh hlow).elim
    rw [hstep, hescape]
    simp only [List.length_append, List.length_cons, List.length_nil] at ih ⊢
    omega
  | case4 pending c cs hother hascii ih =>
    rw [unquoteFrom, if_pos hascii, hasEscape_cons hother]
    · simp only [List.length_append, List.length_cons, List.length_nil] at ih ⊢
      omega
    · exact fun high low rest hc hcs => hother high low rest hc hcs
  | case5 pending c cs hother hascii ih =>
    have hpending := length_decodeUtf8_le 0 pending
    rw [unquoteFrom, if_neg hascii, hasEscape_cons hother]
    · simp only [List.length_append, List.length_cons, List.length_nil] at ih ⊢
      omega
    · exact fun high low rest hc hcs => hother high low rest hc hcs

theorem decodeUtf8_ascii {cs : List Char} (h : ∀ c ∈ cs, isAscii c) :
    decodeUtf8 0 (cs.map byteOf) = cs := by
  have hbytes : cs.map byteOf = cs.flatMap String.utf8EncodeChar := by
    induction cs with
    | nil => rfl
    | cons c cs ih =>
      rw [List.map_cons, List.flatMap_cons, utf8EncodeChar_ascii (h c List.mem_cons_self),
        ih fun d hd => h d (List.mem_cons_of_mem c hd), List.singleton_append]
  rw [hbytes, decodeUtf8_utf8Encode]

theorem not_hasEscape_cons {c : Char} {cs : List Char} (h : hasEscape (c :: cs) = false) :
    hasEscape cs = false ∧ ∀ high low rest, c = '%' → cs = high :: low :: rest →
      ((hexValue high).isSome && (hexValue low).isSome) = false := by
  by_cases hshape : ∃ high low rest, c = '%' ∧ cs = high :: low :: rest
  · obtain ⟨high, low, rest, rfl, rfl⟩ := hshape
    rw [hasEscape] at h
    obtain ⟨hhex, hrest⟩ := Bool.or_eq_false_iff.mp h
    refine ⟨hrest, fun high' low' rest' _ heq => ?_⟩
    simp only [List.cons.injEq] at heq
    obtain ⟨rfl, rfl, rfl⟩ := heq
    exact hhex
  · have hother : ∀ high low rest, c = '%' → cs = high :: low :: rest → False :=
      fun high low rest hc hcs => hshape ⟨high, low, rest, hc, hcs⟩
    rw [hasEscape_cons hother] at h
    exact ⟨h, fun high low rest hc hcs => (hother high low rest hc hcs).elim⟩

/-- Without escapes the bytes read are those of ASCII characters. -/
theorem unquoteFrom_of_not_hasEscape {cs : List Char} (h : hasEscape cs = false) {read : List Char}
    (hread : ∀ c ∈ read, isAscii c) : unquoteFrom (read.map byteOf) cs = read ++ cs := by
  induction cs generalizing read with
  | nil => rw [unquoteFrom, decodeUtf8_ascii hread, List.append_nil]
  | cons c cs ih =>
    obtain ⟨hrest, hhex⟩ := not_hasEscape_cons h
    by_cases hascii : isAscii c
    · have hread' : ∀ d ∈ read ++ [c], isAscii d := by
        intro d hd
        rcases List.mem_append.mp hd with hd | hd
        · exact hread d hd
        · rwa [List.mem_singleton.mp hd]
      have hstep : unquoteFrom (read.map byteOf) (c :: cs) =
          unquoteFrom ((read ++ [c]).map byteOf) cs := by
        rw [List.map_append, List.map_singleton, unquoteFrom.eq_def]
        split
        · next heq => cases heq
        · next high low rest heq =>
          obtain ⟨rfl, rfl⟩ := List.cons.inj heq
          split
          · next h l hhigh hlow =>
            have hnone := hhex high low rest rfl rfl
            rw [hhigh, hlow] at hnone
            cases hnone
          · rfl
        · next heq =>
          obtain ⟨rfl, rfl⟩ := List.cons.inj heq
          rw [if_pos hascii]
      rw [hstep, ih hrest hread', List.append_assoc, List.singleton_append]
    · have hother : c ≠ '%' := by
        rintro rfl
        exact hascii (by decide)
      have hempty : unquoteFrom [] cs = cs := ih hrest (List.forall_mem_nil _)
      rw [unquoteFrom, if_neg hascii, decodeUtf8_ascii hread, hempty]
      exact fun high low rest hc => (hother hc).elim

/-- Decoding leaves exactly the texts without escapes alone. -/
theorem unquote_eq_self_iff {s : String} : unquote s = s ↔ hasEscape s.toList = false := by
  constructor
  · intro h
    have hlength := length_unquoteFrom [] s.toList
    have hsame : (unquoteFrom [] s.toList).length = s.toList.length := by
      rw [← String.toList_inj, unquote, String.toList_ofList] at h
      rw [h]
    rw [hsame, List.length_nil, Nat.zero_add] at hlength
    cases hescape : hasEscape s.toList with
    | false => rfl
    | true =>
      rw [hescape, Bool.toNat_true] at hlength
      omega
  · intro h
    have hempty : unquoteFrom [] s.toList = s.toList :=
      unquoteFrom_of_not_hasEscape h (List.forall_mem_nil _)
    rw [unquote, hempty, String.ofList_toList]

/-! ### What an encoding consists of -/

theorem mem_encodeChar {c d : Char} (h : d ∈ encodeChar c) : isUnreserved d ∨ d = '%' := by
  rw [encodeChar] at h
  split_ifs at h with hc
  · obtain rfl := List.mem_singleton.mp h
    exact Or.inl hc
  · obtain ⟨b, -, hd⟩ := List.mem_flatMap.mp h
    have hlt : b.toNat < 256 := b.toNat_lt
    have hdigit : ∀ n < 16, isUnreserved (hexDigit n) = true := fun n hn => by
      simp only [isUnreserved, isAlphanum_hexDigit n hn, Bool.true_or]
    rcases List.mem_cons.mp hd with rfl | hd
    · exact Or.inr rfl
    · rcases List.mem_cons.mp hd with rfl | hd
      · exact Or.inl (hdigit _ (by omega))
      · obtain rfl := List.mem_singleton.mp hd
        exact Or.inl (hdigit _ (by omega))

theorem mem_quote {s : String} {d : Char} (h : d ∈ (quote s).toList) :
    isUnreserved d ∨ d = '%' := by
  rw [quote, String.toList_ofList] at h
  obtain ⟨c, -, hd⟩ := List.mem_flatMap.mp h
  exact mem_encodeChar hd

/-! ### Path segments -/

/-- A text that a path holds as one segment: it is not empty, it ends neither the
segment nor the path, and it does not stand for one of the dot segments, which a URL
does not keep. -/
structure IsSegment (s : String) : Prop where
  nonempty : s ≠ ""
  slash : '/' ∉ s.toList
  query : '?' ∉ s.toList
  fragment : '#' ∉ s.toList
  current : unquote s ≠ "."
  parent : unquote s ≠ ".."

theorem notMem_quote {d : Char} (hunreserved : isUnreserved d = false) (hpercent : d ≠ '%')
    (s : String) : d ∉ (quote s).toList := by
  intro hmem
  rcases mem_quote hmem with h | h
  · rw [hunreserved] at h
    exact Bool.false_ne_true h
  · exact hpercent h

/-- Encoding makes a segment of every text but the dot segments, which it keeps. -/
theorem isSegment_quote_iff {s : String} : IsSegment (quote s) ↔ s ≠ "" ∧ s ≠ "." ∧ s ≠ ".." := by
  constructor
  · intro h
    refine ⟨fun hs => h.nonempty (quote_eq_empty_iff.mpr hs), ?_, ?_⟩
    · rw [← unquote_quote s]
      exact h.current
    · rw [← unquote_quote s]
      exact h.parent
  · rintro ⟨hne, hcurrent, hparent⟩
    exact {
      nonempty := fun hq => hne (quote_eq_empty_iff.mp hq)
      slash := notMem_quote (by decide) (by decide) s
      query := notMem_quote (by decide) (by decide) s
      fragment := notMem_quote (by decide) (by decide) s
      current := by rwa [unquote_quote]
      parent := by rwa [unquote_quote] }

/-- A text without anything a URL takes for more or for less than itself. -/
structure IsLiteral (s : String) : Prop where
  slash : '/' ∉ s.toList
  query : '?' ∉ s.toList
  fragment : '#' ∉ s.toList
  current : s ≠ "."
  parent : s ≠ ".."
  escape : hasEscape s.toList = false

/-- The texts that are a segment as they are, and stand for themselves. -/
theorem isSegment_and_unquote_iff {s : String} (hne : s ≠ "") :
    IsSegment s ∧ unquote s = s ↔ IsLiteral s := by
  constructor
  · rintro ⟨hsegment, hself⟩
    have hcurrent := hsegment.current
    have hparent := hsegment.parent
    rw [hself] at hcurrent hparent
    exact ⟨hsegment.slash, hsegment.query, hsegment.fragment, hcurrent, hparent,
      unquote_eq_self_iff.mp hself⟩
  · intro h
    have hself := unquote_eq_self_iff.mpr h.escape
    refine ⟨⟨hne, h.slash, h.query, h.fragment, ?_, ?_⟩, hself⟩
    · rw [hself]
      exact h.current
    · rw [hself]
      exact h.parent

end PercentEncoding
