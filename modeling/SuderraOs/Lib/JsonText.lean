import SuderraOs.Lib.Digits
import SuderraOs.Lib.Hex
import SuderraOs.Lib.Json
import SuderraOs.Lib.Value

/-!
# The text of a document

A reader of JSON texts and a writer whose style says how a character is escaped and what stands between two members. The styles
are the two that the scripts give `json.dumps`, compact and with an indent; `serde_json::to_vec` writes what the compact one does
(`write_ofJson`). Reading what was written gives the document back (`read_write`), in every lawful style.

The readers of Python and Rust agree with this one but at the edges that no writer here reaches: it refuses a lone surrogate and
`NaN`, as Rust's does, and reads `-0` as an integer, as Python's does.
-/

namespace SuderraOs.JsonText

/-! ## Numbers -/

/-- A power of two with an exponent of either sign. -/
def twoPow (e : Int) : Rat := if 0 ≤ e then 2 ^ e.toNat else 1 / 2 ^ (-e).toNat

/-- The nearest integer, the even one of two at the same distance. -/
def roundEven (q : Rat) : Int :=
  let f := q.floor
  if q - f < 1 / 2 then f else if 1 / 2 < q - f then f + 1 else if f % 2 = 0 then f else f + 1

/-- The double nearest to a number. -/
def roundDouble (q : Rat) : Double :=
  if q = 0 then .finite 0
  else
    let a := if q < 0 then -q else q
    let e := (a.num.natAbs.log2 : Int) - a.den.log2 - 52
    let e := max (if a < twoPow (e + 52) then e - 1 else e) (-1074)
    let rounded := roundEven (a / twoPow e) * twoPow e
    if twoPow 1024 ≤ rounded then .infinite (q < 0) else .finite (if q < 0 then -rounded else rounded)

/-- What stands after a sign, with the digits at its front, of which there is at least one. -/
def takeDigits (cs : List Char) : Option (List Char × List Char) :=
  let digits := cs.takeWhile Char.isDigit
  if digits = [] then none else some (digits, cs.dropWhile Char.isDigit)

/-- The exponent of a number, where one follows. -/
def readExponent : List Char → Option (Option Int × List Char)
  | c :: cs =>
    if c = 'e' ∨ c = 'E' then
      match cs with
      | '-' :: cs => (takeDigits cs).map fun p => (some (-(Text.digitsValue p.1 : Int)), p.2)
      | '+' :: cs => (takeDigits cs).map fun p => (some (Text.digitsValue p.1 : Int), p.2)
      | cs => (takeDigits cs).map fun p => (some (Text.digitsValue p.1 : Int), p.2)
    else some (none, c :: cs)
  | [] => some (none, [])

/-- The fraction of a number, where one follows: its digits. -/
def readFraction : List Char → Option (Option (List Char) × List Char)
  | '.' :: cs => (takeDigits cs).map fun p => (some p.1, p.2)
  | cs => some (none, cs)

def powTen (e : Int) : Rat := if 0 ≤ e then 10 ^ e.toNat else 1 / 10 ^ (-e).toNat

/-- The number that digits, a fraction and an exponent stand for: an integer without the last two, else a double. -/
def numberValue (negative : Bool) (digits : List Char) (fraction : Option (List Char)) (exponent : Option Int) : Value :=
  if fraction = none ∧ exponent = none then
    .int (if negative then -(Text.digitsValue digits : Int) else Text.digitsValue digits)
  else
    let places := fraction.getD []
    let q : Rat := Text.digitsValue (digits ++ places) * powTen (exponent.getD 0 - places.length)
    .float (roundDouble (if negative then -q else q))

/-- A number after its sign. No digit may follow a leading zero. -/
def readUnsigned (negative : Bool) (cs : List Char) : Option (Value × List Char) := do
  let (digits, cs) ← takeDigits cs
  if digits.head? = some '0' ∧ digits ≠ ['0'] then none
  else
    let (fraction, cs) ← readFraction cs
    let (exponent, cs) ← readExponent cs
    some (numberValue negative digits fraction exponent, cs)

def readNumber : List Char → Option (Value × List Char)
  | '-' :: cs => readUnsigned true cs
  | cs => readUnsigned false cs

/-! ## Strings -/

/-- Four hexadecimal digits. -/
def readHex4 : List Char → Option (Nat × List Char)
  | a :: b :: c :: d :: cs => do
    let a ← Hex.digitValue a.toNat
    let b ← Hex.digitValue b.toNat
    let c ← Hex.digitValue c.toNat
    let d ← Hex.digitValue d.toNat
    some (0x1000 * a + 0x100 * b + 0x10 * c + d, cs)
  | _ => none

/-- What follows `\u`: a code unit, or a high surrogate and, after another `\u`, its low surrogate. -/
def readUnicode (cs : List Char) : Option (Char × List Char) := do
  let (high, cs) ← readHex4 cs
  if 0xD800 ≤ high ∧ high < 0xDC00 then
    match cs with
    | '\\' :: 'u' :: cs =>
      let (low, cs) ← readHex4 cs
      if 0xDC00 ≤ low ∧ low < 0xE000 then some (Char.ofNat (0x10000 + 0x400 * (high - 0xD800) + (low - 0xDC00)), cs) else none
    | _ => none
  else if 0xDC00 ≤ high ∧ high < 0xE000 then none
  else some (Char.ofNat high, cs)

/-- The character that a backslash and a letter stand for. -/
def unescape (c : Char) : Option Char :=
  if c = '"' ∨ c = '\\' ∨ c = '/' then some c
  else if c = 'b' then some '\x08'
  else if c = 'f' then some '\x0C'
  else if c = 'n' then some '\n'
  else if c = 'r' then some '\r'
  else if c = 't' then some '\t'
  else none

/-- One character of a string. -/
def readChar : List Char → Option (Char × List Char)
  | '\\' :: 'u' :: cs => readUnicode cs
  | '\\' :: c :: cs => (unescape c).map fun c => (c, cs)
  | c :: cs => if c.toNat < 0x20 ∨ c = '"' ∨ c = '\\' then none else some (c, cs)
  | [] => none

/-- The characters of a string up to the quote that ends it. -/
def readChars : Nat → List Char → Option (List Char × List Char)
  | 0, _ => none
  | _ + 1, '"' :: cs => some ([], cs)
  | n + 1, cs => do
    let (c, cs) ← readChar cs
    let (text, cs) ← readChars n cs
    some (c :: text, cs)

/-! ## Documents -/

/-- JSON's white space. -/
def isSpace (c : Char) : Bool := c = ' ' || c = '\t' || c = '\n' || c = '\r'

def skipSpace (cs : List Char) : List Char := cs.dropWhile isSpace

/-- A word that stands for a value. -/
def readWord (word : String) (value : Value) (cs : List Char) : Option (Value × List Char) :=
  (Text.stripPrefix word.toList cs).map fun rest => (value, rest)

mutual

/-- The value at the front of a text and what follows it. The fuel bounds the depth and the lengths. -/
def readValue : Nat → List Char → Option (Value × List Char)
  | 0, _ => none
  | n + 1, cs =>
    match skipSpace cs with
    | '"' :: cs => (readChars n cs).map fun p => (.str (String.ofList p.1), p.2)
    | '[' :: cs =>
      match skipSpace cs with
      | ']' :: cs => some (.list [], cs)
      | cs => (readItems n cs).map fun p => (.list p.1, p.2)
    | '\x7b' :: cs =>
      match skipSpace cs with
      | '\x7d' :: cs => some (.dict [], cs)
      | cs => (readFields n cs).map fun p => (.dict p.1, p.2)
    | 'n' :: cs => readWord "ull" .null cs
    | 't' :: cs => readWord "rue" (.bool true) cs
    | 'f' :: cs => readWord "alse" (.bool false) cs
    | cs => readNumber cs

/-- The items of an array up to its closing bracket. -/
def readItems : Nat → List Char → Option (List Value × List Char)
  | 0, _ => none
  | n + 1, cs => do
    let (item, cs) ← readValue n cs
    match skipSpace cs with
    | ',' :: cs => (readItems n cs).map fun p => (item :: p.1, p.2)
    | ']' :: cs => some ([item], cs)
    | _ => none

/-- The members of an object up to its closing brace. -/
def readFields : Nat → List Char → Option (List (String × Value) × List Char)
  | 0, _ => none
  | n + 1, cs =>
    match skipSpace cs with
    | '"' :: cs => do
      let (name, cs) ← readChars n cs
      match skipSpace cs with
      | ':' :: cs =>
        let (value, cs) ← readValue n cs
        match skipSpace cs with
        | ',' :: cs => (readFields n cs).map fun p => ((String.ofList name, value) :: p.1, p.2)
        | '\x7d' :: cs => some ([(String.ofList name, value)], cs)
        | _ => none
      | _ => none
    | _ => none

end

/-- The document a text holds, with nothing but white space around it. -/
def read (cs : List Char) : Option Value :=
  match readValue (2 * cs.length + 1) cs with
  | some (value, rest) => if skipSpace rest = [] then some value else none
  | none => none

/-! ## Writing -/

/-- How a document is written. -/
structure Style where
  /-- The text of a character inside a string. -/
  escape : Char → List Char
  /-- What stands before a member, or before a closing bracket, at this depth. -/
  newline : Nat → List Char
  /-- What stands after a colon. -/
  space : List Char
  /-- The text of a double. -/
  float : Double → List Char

def Style.string (st : Style) (s : String) : List Char := '"' :: (s.toList.flatMap st.escape ++ ['"'])

mutual

def write (st : Style) (level : Nat) : Value → List Char
  | .null => "null".toList
  | .bool b => if b then "true".toList else "false".toList
  | .int n => (toString n).toList
  | .float x => st.float x
  | .str s => st.string s
  | .list [] => ['[', ']']
  | .list (item :: items) => '[' :: (st.newline (level + 1) ++ (write st (level + 1) item ++ writeItems st level items))
  | .dict [] => ['\x7b', '\x7d']
  | .dict ((name, value) :: fields) =>
    '\x7b' :: (st.newline (level + 1) ++ (st.string name ++ ':' :: (st.space ++ (write st (level + 1) value ++
      writeFields st level fields))))

/-- The rest of an array after an item. -/
def writeItems (st : Style) (level : Nat) : List Value → List Char
  | [] => st.newline level ++ [']']
  | item :: items => ',' :: (st.newline (level + 1) ++ (write st (level + 1) item ++ writeItems st level items))

/-- The rest of an object after a member. -/
def writeFields (st : Style) (level : Nat) : List (String × Value) → List Char
  | [] => st.newline level ++ ['\x7d']
  | (name, value) :: fields =>
    ',' :: (st.newline (level + 1) ++ (st.string name ++ ':' :: (st.space ++ (write st (level + 1) value ++
      writeFields st level fields))))

end

/-- The four digits of `\u`, in lower case. -/
def hex4 (n : Nat) : List Char :=
  [Nat.digitChar (n / 0x1000 % 16), Nat.digitChar (n / 0x100 % 16), Nat.digitChar (n / 0x10 % 16), Nat.digitChar (n % 16)]

/-- `ESCAPE_DCT` of Python's encoder: the characters that have an escape of their own. -/
def escapeDct (c : Char) : Option Char :=
  if c = '\\' then some '\\'
  else if c = '"' then some '"'
  else if c = '\x08' then some 'b'
  else if c = '\x0C' then some 'f'
  else if c = '\n' then some 'n'
  else if c = '\r' then some 'r'
  else if c = '\t' then some 't'
  else none

/-- One character as Python writes it with `ensure_ascii=False`. -/
def escape (c : Char) : List Char :=
  match escapeDct c with
  | some d => ['\\', d]
  | none => if c.toNat < 0x20 then '\\' :: 'u' :: hex4 c.toNat else [c]

/-- One character as Python writes it with `ensure_ascii=True`: above the basic plane as two surrogates. -/
def escapeAscii (c : Char) : List Char :=
  match escapeDct c with
  | some d => ['\\', d]
  | none =>
    if 0x20 ≤ c.toNat ∧ c.toNat ≤ 0x7E then [c]
    else if c.toNat < 0x10000 then '\\' :: 'u' :: hex4 c.toNat
    else
      '\\' :: 'u' :: (hex4 (0xD800 + (c.toNat - 0x10000) / 0x400) ++
        '\\' :: 'u' :: hex4 (0xDC00 + (c.toNat - 0x10000) % 0x400))

/-- `json.dumps(..., separators=(",", ":"), ensure_ascii=False)`; `repr` is the text of a double. -/
def compact (repr : Double → List Char) : Style where
  escape := escape
  newline := fun _ => []
  space := []
  float := repr

/-- `json.dumps(..., separators=(",", ":"))`. -/
def compactAscii (repr : Double → List Char) : Style where
  escape := escapeAscii
  newline := fun _ => []
  space := []
  float := repr

/-- `json.dumps(..., indent=2)`. -/
def indented (repr : Double → List Char) : Style where
  escape := escapeAscii
  newline := fun level => '\n' :: List.replicate (2 * level) ' '
  space := [' ']
  float := repr

/-- `serde_json::to_string_pretty`. -/
def pretty (repr : Double → List Char) : Style where
  escape := Json.escapeChar
  newline := fun level => '\n' :: List.replicate (2 * level) ' '
  space := [' ']
  float := repr

/-! ## Reading what was written -/

/-- A text that does not go on a number. -/
def Stops (rest : List Char) : Prop := ∀ c ∈ rest.head?, c.isDigit = false ∧ c ≠ '.' ∧ c ≠ 'e' ∧ c ≠ 'E'

theorem takeDigits_append {digits rest : List Char} (hd : ∀ c ∈ digits, c.isDigit = true) (hne : digits ≠ [])
    (hr : Stops rest) : takeDigits (digits ++ rest) = some (digits, rest) := by
  have hhead : rest.takeWhile Char.isDigit = [] ∧ rest.dropWhile Char.isDigit = rest := by
    cases rest with
    | nil => simp
    | cons c cs =>
      have hc := (hr c (by simp)).1
      simp [hc]
  unfold takeDigits
  rw [List.takeWhile_append_of_pos hd, List.dropWhile_append_of_pos hd, hhead.1, hhead.2]
  simp [hne]

theorem readUnsigned_toDigits (negative : Bool) (n : Nat) {rest : List Char} (hr : Stops rest) :
    readUnsigned negative (Nat.toDigits 10 n ++ rest) = some (.int (if negative then -(n : Int) else n), rest) := by
  have hzero : ¬ ((Nat.toDigits 10 n).head? = some '0' ∧ Nat.toDigits 10 n ≠ ['0']) := by
    rintro ⟨h0, h1⟩
    rw [Text.toDigits_head_zero n h0] at h1
    exact h1 rfl
  have hfraction : readFraction rest = some (none, rest) := by
    cases rest with
    | nil => rfl
    | cons c cs =>
      have hc := (hr c (by simp)).2.1
      unfold readFraction
      split
      · simp_all
      · rfl
  have hexponent : readExponent rest = some (none, rest) := by
    cases rest with
    | nil => rfl
    | cons c cs =>
      have hc := (hr c (by simp)).2.2
      simp [readExponent, hc]
  unfold readUnsigned
  rw [takeDigits_append (Text.isDigit_toDigits n) Nat.toDigits_ne_nil hr]
  simp [hzero, hfraction, hexponent, numberValue, Text.digitsValue_toDigits]

/-- The text of an integer: a minus sign where it is negative, then digits. -/
theorem toString_toList (n : Int) :
    (toString n).toList = (if n < 0 then ['-'] else []) ++ Nat.toDigits 10 n.natAbs := by
  rw [Int.toString_eq_repr, Int.repr_eq_if]
  by_cases hn : 0 ≤ n
  · rw [if_pos hn, if_neg (by omega), Nat.toList_repr, show n.toNat = n.natAbs by omega]
    rfl
  · rw [if_neg hn, if_pos (by omega), String.toList_append, Nat.toList_repr, show (-n).toNat = n.natAbs by omega]
    rfl

theorem readNumber_toString (n : Int) {rest : List Char} (hr : Stops rest) :
    readNumber ((toString n).toList ++ rest) = some (.int n, rest) := by
  rw [toString_toList]
  by_cases hn : n < 0
  · simp only [hn, if_true, List.cons_append, List.nil_append, readNumber]
    rw [readUnsigned_toDigits true _ hr]
    simp only [if_true]
    congr 3
    omega
  · obtain ⟨d, ds, hds⟩ := List.exists_cons_of_ne_nil (Nat.toDigits_ne_nil (n := n.natAbs) (b := 10))
    have hd : d ≠ '-' := by
      rintro rfl
      have := Text.isDigit_toDigits n.natAbs '-' (by simp [hds])
      revert this
      decide
    have hread : readNumber (d :: (ds ++ rest)) = readUnsigned false (d :: (ds ++ rest)) := by
      unfold readNumber
      split
      · simp_all
      · rfl
    simp only [hn, if_false, List.nil_append]
    rw [hds, List.cons_append, hread, ← List.cons_append, ← hds, readUnsigned_toDigits false _ hr]
    simp only [Bool.false_eq_true, if_false]
    congr 3
    omega

/-- A character that an escape names is the one it is read as. -/
theorem unescape_escapeDct {c d : Char} (h : escapeDct c = some d) : unescape d = some c ∧ d ≠ 'u' := by
  unfold escapeDct at h
  split_ifs at h <;> · cases h; subst_vars; decide

theorem readHex4_hex4 {n : Nat} (hn : n < 0x10000) (rest : List Char) : readHex4 (hex4 n ++ rest) = some (n, rest) := by
  simp only [hex4, List.cons_append, List.nil_append, readHex4]
  rw [Hex.digitValue_digitChar _ (by omega), Hex.digitValue_digitChar _ (by omega), Hex.digitValue_digitChar _ (by omega),
    Hex.digitValue_digitChar _ (by omega)]
  simp only [Option.bind_eq_bind, Option.bind_some, Option.some.injEq, Prod.mk.injEq, and_true]
  omega

/-- A character is no surrogate. -/
theorem toNat_not_surrogate (c : Char) : c.toNat < 0xD800 ∨ 0xE000 ≤ c.toNat ∧ c.toNat < 0x110000 := by
  have h : Nat.isValidChar c.toNat := c.valid
  unfold Nat.isValidChar at h
  omega

theorem readUnicode_basic {c : Char} (hc : c.toNat < 0x10000) (rest : List Char) :
    readUnicode (hex4 c.toNat ++ rest) = some (c, rest) := by
  have := toNat_not_surrogate c
  unfold readUnicode
  rw [readHex4_hex4 hc]
  simp only [Option.bind_eq_bind, Option.bind_some]
  rw [if_neg (by omega), if_neg (by omega), Char.ofNat_toNat]

theorem readUnicode_pair {c : Char} (hc : 0x10000 ≤ c.toNat) (rest : List Char) :
    readUnicode (hex4 (0xD800 + (c.toNat - 0x10000) / 0x400) ++ '\\' :: 'u' ::
      (hex4 (0xDC00 + (c.toNat - 0x10000) % 0x400) ++ rest)) = some (c, rest) := by
  have hsurrogate := toNat_not_surrogate c
  obtain ⟨high, hhigh⟩ : ∃ high, (c.toNat - 0x10000) / 0x400 = high := ⟨_, rfl⟩
  obtain ⟨low, hlow⟩ : ∃ low, (c.toNat - 0x10000) % 0x400 = low := ⟨_, rfl⟩
  have hchar : Char.ofNat (0x10000 + 0x400 * high + low) = c := by
    have : 0x10000 + 0x400 * high + low = c.toNat := by omega
    rw [this, Char.ofNat_toNat]
  rw [hhigh, hlow]
  unfold readUnicode
  rw [readHex4_hex4 (by omega)]
  simp only [Option.bind_eq_bind, Option.bind_some]
  rw [if_pos (by omega), readHex4_hex4 (by omega)]
  simp only [Option.bind_some]
  rw [if_pos (by omega), Nat.add_sub_cancel_left, Nat.add_sub_cancel_left, hchar]

theorem readChar_plain {c : Char} (hd : escapeDct c = none) (hc : 0x20 ≤ c.toNat) (rest : List Char) :
    readChar (c :: rest) = some (c, rest) := by
  have hne : c ≠ '\\' ∧ c ≠ '"' := by
    constructor <;> (rintro rfl; exact absurd hd (by decide))
  unfold readChar
  split <;> simp_all

theorem readChar_unescape {c d : Char} (h : escapeDct c = some d) (rest : List Char) :
    readChar ('\\' :: d :: rest) = some (c, rest) := by
  obtain ⟨hc, hu⟩ := unescape_escapeDct h
  simp [readChar, hc]

theorem readChar_escape (c : Char) (rest : List Char) : readChar (escape c ++ rest) = some (c, rest) := by
  unfold escape
  cases hd : escapeDct c with
  | some d => exact readChar_unescape hd rest
  | none =>
    by_cases hc : c.toNat < 0x20
    · simp only [hc, if_true, List.cons_append, readChar]
      exact readUnicode_basic (by omega) rest
    · simp only [hc, if_false, List.cons_append, List.nil_append]
      exact readChar_plain hd (by omega) rest

theorem readChar_escapeAscii (c : Char) (rest : List Char) : readChar (escapeAscii c ++ rest) = some (c, rest) := by
  unfold escapeAscii
  cases hd : escapeDct c with
  | some d => exact readChar_unescape hd rest
  | none =>
    simp only
    split_ifs with hprint hbasic
    · exact readChar_plain hd hprint.1 rest
    · exact readUnicode_basic hbasic rest
    · simp only [List.cons_append, List.append_assoc, readChar]
      exact readUnicode_pair (by omega) rest

/-- A style whose escapes are read back and whose layout is white space. -/
structure Style.Lawful (st : Style) : Prop where
  readChar_escape : ∀ c rest, readChar (st.escape c ++ rest) = some (c, rest)
  newline_space : ∀ level, ∀ c ∈ st.newline level, isSpace c = true
  space_space : ∀ c ∈ st.space, isSpace c = true

theorem compact_lawful (repr : Double → List Char) : (compact repr).Lawful where
  readChar_escape := readChar_escape
  newline_space := by simp [compact]
  space_space := by simp [compact]

theorem indented_lawful (repr : Double → List Char) : (indented repr).Lawful where
  readChar_escape := readChar_escapeAscii
  newline_space := by simp [indented, isSpace]
  space_space := by simp [indented, isSpace]

theorem compactAscii_lawful (repr : Double → List Char) : (compactAscii repr).Lawful where
  readChar_escape := readChar_escapeAscii
  newline_space := by simp [compactAscii]
  space_space := by simp [compactAscii]

variable {st : Style}

/-- An escape is not empty and does not end the string. -/
theorem Style.Lawful.escape_cons (h : st.Lawful) (c : Char) : ∃ d ds, st.escape c = d :: ds ∧ d ≠ '"' := by
  have hread := h.readChar_escape c []
  cases he : st.escape c with
  | nil =>
    rw [he] at hread
    cases hread
  | cons d ds =>
    refine ⟨d, ds, rfl, ?_⟩
    rintro rfl
    rw [he] at hread
    simp [readChar] at hread

theorem readChars_string (h : st.Lawful) (text rest : List Char) (n : Nat) (hn : text.length < n) :
    readChars n (text.flatMap st.escape ++ '"' :: rest) = some (text, rest) := by
  induction text generalizing n with
  | nil =>
    obtain ⟨m, rfl⟩ : ∃ m, n = m + 1 := ⟨n - 1, by simp at hn; omega⟩
    rfl
  | cons c text ih =>
    obtain ⟨m, rfl⟩ : ∃ m, n = m + 1 := ⟨n - 1, by simp at hn; omega⟩
    obtain ⟨d, ds, hd, hquote⟩ := h.escape_cons c
    have hstep : ∀ cs, readChars (m + 1) (st.escape c ++ cs) =
        (readChar (st.escape c ++ cs)).bind fun p => (readChars m p.2).bind fun q => some (p.1 :: q.1, q.2) := by
      intro cs
      rw [hd, List.cons_append, readChars]
      · rfl
      · simp_all
    rw [List.flatMap_cons, List.append_assoc, hstep, h.readChar_escape]
    simp only [List.length_cons] at hn
    simp [ih m (by omega)]

theorem skipSpace_append {ws : List Char} (hws : ∀ c ∈ ws, isSpace c = true) (cs : List Char) :
    skipSpace (ws ++ cs) = skipSpace cs := List.dropWhile_append_of_pos hws

theorem skipSpace_cons {c : Char} (hc : isSpace c = false) (cs : List Char) : skipSpace (c :: cs) = c :: cs := by
  simp [skipSpace, hc]

theorem readValue_space {ws : List Char} (hws : ∀ c ∈ ws, isSpace c = true) (n : Nat) (cs : List Char) :
    readValue n (ws ++ cs) = readValue n cs := by
  cases n with
  | zero => rfl
  | succ n => simp only [readValue, skipSpace_append hws]

theorem readItems_space {ws : List Char} (hws : ∀ c ∈ ws, isSpace c = true) (n : Nat) (cs : List Char) :
    readItems n (ws ++ cs) = readItems n cs := by
  cases n with
  | zero => rfl
  | succ n => simp only [readItems, readValue_space hws]

theorem readFields_space {ws : List Char} (hws : ∀ c ∈ ws, isSpace c = true) (n : Nat) (cs : List Char) :
    readFields n (ws ++ cs) = readFields n cs := by
  cases n with
  | zero => rfl
  | succ n => simp only [readFields, skipSpace_append hws]

/-- A text that starts with a sign or a digit holds a number. -/
theorem readValue_number (n : Nat) {c : Char} (hc : c.isDigit = true ∨ c = '-') (cs : List Char) :
    readValue (n + 1) (c :: cs) = readNumber (c :: cs) := by
  have hne : ∀ d ∈ [' ', '\t', '\n', '\r', '"', '[', '\x7b', 'n', 't', 'f'], c ≠ d := by
    rintro d hd rfl
    simp at hd
    rcases hd with rfl | rfl | rfl | rfl | rfl | rfl | rfl | rfl | rfl | rfl <;> revert hc <;> decide
  have hspace : isSpace c = false := by simp_all [isSpace]
  rw [readValue, skipSpace_cons hspace]
  split <;> simp_all

/-! ### Fuel -/

mutual

/-- The fuel that reading a document back takes. -/
def size : Value → Nat
  | .str s => s.toList.length + 2
  | .list items => 1 + sizeItems items
  | .dict fields => 1 + sizeFields fields
  | _ => 1

def sizeItems : List Value → Nat
  | [] => 0
  | item :: items => 1 + size item + sizeItems items

def sizeFields : List (String × Value) → Nat
  | [] => 0
  | (name, value) :: fields => 2 + name.toList.length + size value + sizeFields fields

end

theorem length_le_flatMap (h : st.Lawful) (text : List Char) : text.length ≤ (text.flatMap st.escape).length := by
  induction text with
  | nil => simp
  | cons c text ih =>
    obtain ⟨d, ds, hd, _⟩ := h.escape_cons c
    simp only [List.flatMap_cons, List.length_append, List.length_cons, hd]
    omega

mutual

theorem size_le_length (h : st.Lawful) : ∀ (v : Value) (level : Nat), v.plain = true → size v ≤ (write st level v).length
  | .null, _, _ => by simp [size, write]
  | .bool b, _, _ => by cases b <;> simp [size, write]
  | .int n, _, _ => by
    have hne := Nat.toDigits_ne_nil (n := n.natAbs) (b := 10)
    have := List.length_pos_iff.2 hne
    simp only [size, write, toString_toList, List.length_append]
    omega
  | .float _, _, hp => by simp [Value.plain] at hp
  | .str s, _, _ => by
    have := length_le_flatMap h s.toList
    simp only [size, write, Style.string, List.length_cons, List.length_append, List.length_nil]
    omega
  | .list [], _, _ => by simp [size, sizeItems, write]
  | .list (item :: items), level, hp => by
    simp only [Value.plain, Value.plainItems, Bool.and_eq_true] at hp
    have hitem := size_le_length h item (level + 1) hp.1
    have hitems := sizeItems_le_length h items level hp.2
    simp only [size, sizeItems, write, List.length_cons, List.length_append]
    omega
  | .dict [], _, _ => by simp [size, sizeFields, write]
  | .dict ((name, value) :: fields), level, hp => by
    simp only [Value.plain, Value.plainFields, Bool.and_eq_true] at hp
    have hname := length_le_flatMap h name.toList
    have hvalue := size_le_length h value (level + 1) hp.1
    have hfields := sizeFields_le_length h fields level hp.2
    simp only [size, sizeFields, write, Style.string, List.length_cons, List.length_append, List.length_nil]
    omega

theorem sizeItems_le_length (h : st.Lawful) : ∀ (items : List Value) (level : Nat), Value.plainItems items = true →
    sizeItems items + 1 ≤ (writeItems st level items).length
  | [], _, _ => by simp [sizeItems, writeItems]
  | item :: items, level, hp => by
    simp only [Value.plainItems, Bool.and_eq_true] at hp
    have hitem := size_le_length h item (level + 1) hp.1
    have hitems := sizeItems_le_length h items level hp.2
    simp only [sizeItems, writeItems, List.length_cons, List.length_append]
    omega

theorem sizeFields_le_length (h : st.Lawful) : ∀ (fields : List (String × Value)) (level : Nat),
    Value.plainFields fields = true → sizeFields fields + 1 ≤ (writeFields st level fields).length
  | [], _, _ => by simp [sizeFields, writeFields]
  | (name, value) :: fields, level, hp => by
    simp only [Value.plainFields, Bool.and_eq_true] at hp
    have hname := length_le_flatMap h name.toList
    have hvalue := size_le_length h value (level + 1) hp.1
    have hfields := sizeFields_le_length h fields level hp.2
    simp only [sizeFields, writeFields, Style.string, List.length_cons, List.length_append, List.length_nil]
    omega

end

/-! ### Documents -/

theorem stops_cons {c : Char} (hc : c.isDigit = false ∧ c ≠ '.' ∧ c ≠ 'e' ∧ c ≠ 'E') (cs : List Char) : Stops (c :: cs) := by
  intro d hd
  simp only [List.head?_cons, Option.mem_def, Option.some.injEq] at hd
  subst hd
  exact hc

theorem stops_newline (h : st.Lawful) (level : Nat) {c : Char} (hc : c.isDigit = false ∧ c ≠ '.' ∧ c ≠ 'e' ∧ c ≠ 'E')
    (cs : List Char) : Stops (st.newline level ++ c :: cs) := by
  cases hn : st.newline level with
  | nil => exact stops_cons hc cs
  | cons d ds =>
    have hd := h.newline_space level d (by simp [hn])
    simp only [isSpace, Bool.or_eq_true, decide_eq_true_eq] at hd
    rw [List.cons_append]
    rcases hd with ((rfl | rfl) | rfl) | rfl <;> exact stops_cons (by decide) _

theorem stops_writeItems (h : st.Lawful) (level : Nat) (items : List Value) (rest : List Char) :
    Stops (writeItems st level items ++ rest) := by
  cases items with
  | nil =>
    rw [writeItems, List.append_assoc]
    exact stops_newline h level (by decide) _
  | cons item items => exact stops_cons (by decide) _

theorem stops_writeFields (h : st.Lawful) (level : Nat) (fields : List (String × Value)) (rest : List Char) :
    Stops (writeFields st level fields ++ rest) := by
  cases fields with
  | nil =>
    rw [writeFields, List.append_assoc]
    exact stops_newline h level (by decide) _
  | cons field fields => exact stops_cons (by decide) _

/-- No document without doubles starts with white space or a closing bracket. -/
theorem write_head (level : Nat) (v : Value) (hp : v.plain = true) :
    ∃ c cs, write st level v = c :: cs ∧ isSpace c = false ∧ c ≠ ']' := by
  match v with
  | .null => exact ⟨_, _, rfl, by decide, by decide⟩
  | .bool true => exact ⟨_, _, rfl, by decide, by decide⟩
  | .bool false => exact ⟨_, _, rfl, by decide, by decide⟩
  | .int n =>
    rw [write, toString_toList]
    by_cases hn : n < 0
    · rw [if_pos hn]
      exact ⟨_, _, rfl, by decide, by decide⟩
    · obtain ⟨d, ds, hds⟩ := List.exists_cons_of_ne_nil (Nat.toDigits_ne_nil (n := n.natAbs) (b := 10))
      have hd := Text.isDigit_toDigits n.natAbs d (by simp [hds])
      rw [if_neg hn, hds]
      refine ⟨d, ds, rfl, ?_, ?_⟩
      · by_contra hs
        simp only [isSpace, Bool.not_eq_false, Bool.or_eq_true, decide_eq_true_eq] at hs
        rcases hs with ((rfl | rfl) | rfl) | rfl <;> exact absurd hd (by decide)
      · rintro rfl
        exact absurd hd (by decide)
  | .float _ => simp [Value.plain] at hp
  | .str s => exact ⟨_, _, rfl, by decide, by decide⟩
  | .list [] => exact ⟨_, _, rfl, by decide, by decide⟩
  | .list (_ :: _) => exact ⟨_, _, rfl, by decide, by decide⟩
  | .dict [] => exact ⟨_, _, rfl, by decide, by decide⟩
  | .dict ((_, _) :: _) => exact ⟨_, _, rfl, by decide, by decide⟩

theorem readValue_list {n : Nat} {ws text rest : List Char} {items : List Value} (hws : ∀ c ∈ ws, isSpace c = true)
    (hhead : ∃ c cs, text = c :: cs ∧ isSpace c = false ∧ c ≠ ']') (h : readItems n text = some (items, rest)) :
    readValue (n + 1) ('[' :: (ws ++ text)) = some (.list items, rest) := by
  obtain ⟨c, cs, rfl, hspace, hclose⟩ := hhead
  rw [readValue, skipSpace_cons (by decide)]
  simp only [skipSpace_append hws, skipSpace_cons hspace]
  split
  · simp_all
  · simp [h]

theorem readValue_dict {n : Nat} {ws cs rest : List Char} {fields : List (String × Value)} (hws : ∀ c ∈ ws, isSpace c = true)
    (h : readFields n ('"' :: cs) = some (fields, rest)) :
    readValue (n + 1) ('\x7b' :: (ws ++ '"' :: cs)) = some (.dict fields, rest) := by
  rw [readValue, skipSpace_cons (by decide)]
  simp only [skipSpace_append hws, skipSpace_cons (show isSpace '"' = false by decide)]
  simp [h]

mutual

/-- Reading a document back from what was written of it, whatever follows. -/
theorem readValue_write (h : st.Lawful) : ∀ (v : Value) (level n : Nat) (rest : List Char),
    v.plain = true → size v ≤ n → Stops rest → readValue n (write st level v ++ rest) = some (v, rest)
  | .null, _, n + 1, rest, _, _, _ => by
    simp [write, readValue, skipSpace, isSpace, readWord, Text.stripPrefix]
  | .bool true, _, n + 1, rest, _, _, _ => by
    simp [write, readValue, skipSpace, isSpace, readWord, Text.stripPrefix]
  | .bool false, _, n + 1, rest, _, _, _ => by
    simp [write, readValue, skipSpace, isSpace, readWord, Text.stripPrefix]
  | .int i, level, n + 1, rest, hp, _, hr => by
    have hread := readNumber_toString i hr
    rw [write]
    rw [toString_toList] at hread ⊢
    by_cases hi : i < 0
    · rw [if_pos hi] at hread ⊢
      rw [List.cons_append, List.cons_append] at hread ⊢
      rw [readValue_number n (.inr rfl), hread]
    · obtain ⟨d, ds, hds⟩ := List.exists_cons_of_ne_nil (Nat.toDigits_ne_nil (n := i.natAbs) (b := 10))
      have hd := Text.isDigit_toDigits i.natAbs d (by simp [hds])
      rw [if_neg hi, hds, List.nil_append, List.cons_append] at hread ⊢
      rw [readValue_number n (.inl hd), hread]
  | .float _, _, _, _, hp, _, _ => by simp [Value.plain] at hp
  | .str s, level, n + 1, rest, _, hn, _ => by
    simp only [size] at hn
    simp only [write, Style.string, List.cons_append, List.append_assoc, List.nil_append]
    rw [readValue, skipSpace_cons (by decide)]
    simp only [readChars_string h s.toList rest n (by omega), Option.map_some, String.ofList_toList]
  | .list [], _, n + 1, rest, _, _, _ => by simp [write, readValue, skipSpace, isSpace]
  | .list (item :: items), level, n + 1, rest, hp, hn, _ => by
    simp only [size] at hn
    have hhead : ∃ c cs, write st (level + 1) item = c :: cs ∧ isSpace c = false ∧ c ≠ ']' :=
      write_head (level + 1) item (by simp_all [Value.plain, Value.plainItems])
    obtain ⟨c, cs, hc, hspace, hclose⟩ := hhead
    have hitems := readItems_write h item items level n rest (by simpa [Value.plain] using hp) (by omega)
    rw [write, List.cons_append, List.append_assoc, List.append_assoc]
    refine readValue_list (h.newline_space _) ⟨c, cs ++ (writeItems st level items ++ rest), ?_, hspace, hclose⟩ hitems
    rw [hc, List.cons_append]
  | .dict [], _, n + 1, rest, _, _, _ => by simp [write, readValue, skipSpace, isSpace]
  | .dict ((name, value) :: fields), level, n + 1, rest, hp, hn, _ => by
    simp only [size] at hn
    have hfields := readFields_write h name value fields level n rest (by simpa [Value.plain] using hp) (by omega)
    simp only [write, Style.string, List.cons_append, List.append_assoc] at hfields ⊢
    exact readValue_dict (h.newline_space _) hfields
  | .null, _, 0, _, _, hn, _ => by simp [size] at hn
  | .bool _, _, 0, _, _, hn, _ => by simp [size] at hn
  | .int _, _, 0, _, _, hn, _ => by simp [size] at hn
  | .str _, _, 0, _, _, hn, _ => by simp [size] at hn
  | .list _, _, 0, _, _, hn, _ => by simp [size] at hn
  | .dict _, _, 0, _, _, hn, _ => by simp [size] at hn

theorem readItems_write (h : st.Lawful) : ∀ (item : Value) (items : List Value) (level n : Nat) (rest : List Char),
    Value.plainItems (item :: items) = true → sizeItems (item :: items) ≤ n →
    readItems n (write st (level + 1) item ++ (writeItems st level items ++ rest)) = some (item :: items, rest)
  | item, [], level, n + 1, rest, hp, hn => by
    simp only [sizeItems] at hn
    have hitem := readValue_write h item (level + 1) n (writeItems st level [] ++ rest)
      (by simp_all [Value.plainItems]) (by omega) (stops_writeItems h level [] rest)
    rw [readItems, hitem]
    simp only [writeItems, List.append_assoc, Option.bind_eq_bind, Option.bind_some, skipSpace_append (h.newline_space level)]
    rw [List.cons_append, skipSpace_cons (by decide)]
    rfl
  | item, next :: items, level, n + 1, rest, hp, hn => by
    simp only [Value.plainItems, Bool.and_eq_true] at hp
    rw [sizeItems] at hn
    have hitem := readValue_write h item (level + 1) n (writeItems st level (next :: items) ++ rest)
      hp.1 (by omega) (stops_writeItems h level _ rest)
    have hitems := readItems_write h next items level n rest (by simp [Value.plainItems, hp.2]) (by omega)
    rw [readItems, hitem]
    simp only [writeItems, List.cons_append, List.append_assoc, Option.bind_eq_bind, Option.bind_some,
      skipSpace_cons (show isSpace ',' = false by decide), readItems_space (h.newline_space _)]
    rw [hitems]
    rfl
  | _, _, _, 0, _, _, hn => by simp [sizeItems] at hn

theorem readFields_write (h : st.Lawful) : ∀ (name : String) (value : Value) (fields : List (String × Value)) (level n : Nat)
    (rest : List Char), Value.plainFields ((name, value) :: fields) = true → sizeFields ((name, value) :: fields) ≤ n →
    readFields n (st.string name ++ ':' :: (st.space ++ (write st (level + 1) value ++ (writeFields st level fields ++ rest)))) =
      some ((name, value) :: fields, rest)
  | name, value, fields, level, n + 1, rest, hp, hn => by
    simp only [Value.plainFields, Bool.and_eq_true] at hp
    rw [sizeFields] at hn
    have hvalue := readValue_write h value (level + 1) n (writeFields st level fields ++ rest)
      hp.1 (by omega) (stops_writeFields h level fields rest)
    have hname := readChars_string h name.toList
      (':' :: (st.space ++ (write st (level + 1) value ++ (writeFields st level fields ++ rest)))) n (by omega)
    simp only [Style.string, List.cons_append, List.append_assoc, List.nil_append]
    rw [readFields, skipSpace_cons (by decide)]
    simp only [hname, Option.bind_eq_bind, Option.bind_some, skipSpace_cons (show isSpace ':' = false by decide),
      readValue_space h.space_space, hvalue, String.ofList_toList]
    cases fields with
    | nil =>
      simp only [writeFields, List.append_assoc, skipSpace_append (h.newline_space level), List.cons_append]
      rw [skipSpace_cons (by decide)]
      rfl
    | cons field fields =>
      obtain ⟨next, nextValue⟩ := field
      have hfields := readFields_write h next nextValue fields level n rest hp.2 (by omega)
      simp only [writeFields, List.cons_append, List.append_assoc, skipSpace_cons (show isSpace ',' = false by decide),
        readFields_space (h.newline_space _)]
      rw [hfields]
      rfl
  | _, _, _, _, 0, _, _, hn => by simp [sizeFields] at hn

end

/-- A document is read from its text with white space around it. -/
theorem read_around (h : st.Lawful) {v : Value} (hp : v.plain = true) {front tail : List Char} (hf : ∀ c ∈ front, isSpace c = true)
    (ht : ∀ c ∈ tail, isSpace c = true) : read (front ++ (write st 0 v ++ tail)) = some v := by
  have hsize := size_le_length h v 0 hp
  have hstops : Stops tail := by
    cases tail with
    | nil => intro c hc; simp at hc
    | cons d ds =>
      have hd := ht d (by simp)
      simp only [isSpace, Bool.or_eq_true, decide_eq_true_eq] at hd
      rcases hd with ((rfl | rfl) | rfl) | rfl <;> exact stops_cons (by decide) _
  have hread := readValue_write h v 0 (2 * (front ++ (write st 0 v ++ tail)).length + 1) tail hp
    (by simp only [List.length_append]; omega) hstops
  have hskip := skipSpace_append ht []
  rw [List.append_nil] at hskip
  unfold read
  rw [readValue_space hf, hread]
  simp only [hskip]
  rfl

theorem read_append (h : st.Lawful) {v : Value} (hp : v.plain = true) {tail : List Char} (ht : ∀ c ∈ tail, isSpace c = true) :
    read (write st 0 v ++ tail) = some v := by
  have hempty : ∀ c ∈ ([] : List Char), isSpace c = true := by simp
  exact read_around h hp hempty ht

/-- A document without doubles is read back from its text. -/
theorem read_write (h : st.Lawful) {v : Value} (hp : v.plain = true) : read (write st 0 v) = some v := by
  have hempty : ∀ c ∈ ([] : List Char), isSpace c = true := by simp
  simpa using read_append h hp hempty

/-! ### White space before a document -/

theorem readChars_succ {n : Nat} {cs : List Char} {p : List Char × List Char} (h : readChars n cs = some p) :
    readChars (n + 1) cs = some p := by
  fun_induction readChars n cs generalizing p with
  | case1 => cases h
  | case2 n cs => exact h
  | case3 n cs hquote ih =>
    rw [readChars.eq_3 _ _ hquote]
    simp only [Option.bind_eq_bind, Option.bind_eq_some_iff, Prod.exists] at h ⊢
    obtain ⟨c, rest, hc, text, rest', htext, hp⟩ := h
    exact ⟨c, rest, hc, text, rest', ih _ htext, hp⟩

/-- More fuel reads the same. -/
theorem read_succ (n : Nat) :
    (∀ {cs p}, readValue n cs = some p → readValue (n + 1) cs = some p) ∧
    (∀ {cs p}, readItems n cs = some p → readItems (n + 1) cs = some p) ∧
      ∀ {cs p}, readFields n cs = some p → readFields (n + 1) cs = some p := by
  induction n with
  | zero => exact ⟨(by cases ·), (by cases ·), (by cases ·)⟩
  | succ n ih =>
    obtain ⟨hvalue, hitems, hfields⟩ := ih
    refine ⟨fun {cs p} h => ?_, fun {cs p} h => ?_, fun {cs p} h => ?_⟩
    · rw [readValue] at h ⊢
      split at h
      · obtain ⟨q, hq, hp⟩ := Option.map_eq_some_iff.1 h
        rw [readChars_succ hq]
        exact congrArg some hp
      · split at h
        · exact h
        · obtain ⟨q, hq, hp⟩ := Option.map_eq_some_iff.1 h
          simp only [hitems hq]
          exact congrArg some hp
      · split at h
        · exact h
        · obtain ⟨q, hq, hp⟩ := Option.map_eq_some_iff.1 h
          simp only [hfields hq]
          exact congrArg some hp
      all_goals exact h
    · rw [readItems] at h ⊢
      simp only [Option.bind_eq_bind, Option.bind_eq_some_iff, Prod.exists] at h ⊢
      obtain ⟨item, rest, hitem, h⟩ := h
      refine ⟨item, rest, hvalue hitem, ?_⟩
      split at h
      · obtain ⟨q, hq, hp⟩ := Option.map_eq_some_iff.1 h
        simp only [hitems hq]
        exact congrArg some hp
      · exact h
      · cases h
    · rw [readFields] at h ⊢
      split at h
      · simp only [Option.bind_eq_bind, Option.bind_eq_some_iff, Prod.exists] at h ⊢
        obtain ⟨name, rest, hname, h⟩ := h
        refine ⟨name, rest, readChars_succ hname, ?_⟩
        split at h
        · simp only [Option.bind_eq_some_iff, Prod.exists] at h ⊢
          obtain ⟨value, rest', hval, h⟩ := h
          refine ⟨value, rest', hvalue hval, ?_⟩
          split at h
          · obtain ⟨q, hq, hp⟩ := Option.map_eq_some_iff.1 h
            simp only [hfields hq]
            exact congrArg some hp
          · exact h
          · cases h
        · cases h
      · cases h

/-- A space before a document says nothing. -/
theorem read_cons_space {cs : List Char} {v : Value} (h : read cs = some v) : read (' ' :: cs) = some v := by
  unfold read at h ⊢
  split at h
  · next value rest hread =>
    have hspace : readValue (2 * cs.length + 2 + 1) (' ' :: cs) = readValue (2 * cs.length + 2 + 1) cs := by
      rw [readValue, readValue]
      rfl
    rw [List.length_cons, show 2 * (cs.length + 1) + 1 = 2 * cs.length + 2 + 1 by omega, hspace,
      (read_succ _).1 ((read_succ _).1 hread)]
    exact h
  · cases h

/-! ### The characters of a text -/

/-- The characters that stand in a text besides those of its strings and its layout. -/
def syntaxChars : List Char := "\"[],:-nulltruefalse0123456789".toList ++ ['\x7b', '\x7d']

/-- Every character that a style writes is of a kind. -/
structure Style.Lays (st : Style) (P : Char → Prop) : Prop where
  escape : ∀ c, ∀ d ∈ st.escape c, P d
  newline : ∀ level, ∀ d ∈ st.newline level, P d
  space : ∀ d ∈ st.space, P d
  syntaxChars : ∀ d ∈ syntaxChars, P d

section Lays

variable {P : Char → Prop}

theorem Style.Lays.string (h : st.Lays P) (s : String) : ∀ d ∈ st.string s, P d := by
  have hquote : P '"' := h.syntaxChars _ (by decide)
  simp only [Style.string, List.forall_mem_cons, List.forall_mem_append, List.mem_flatMap]
  refine ⟨hquote, ?_, hquote, by simp⟩
  rintro d ⟨c, _, hd⟩
  exact h.escape c d hd

theorem Style.Lays.digits (h : st.Lays P) (n : Nat) : ∀ d ∈ Nat.toDigits 10 n, P d := by
  intro d hd
  have hdigit := Text.isDigit_toDigits n d hd
  have hmem : ∀ k : Fin 10, Char.ofNat (48 + k) ∈ JsonText.syntaxChars := by decide
  have hbounds := Text.digit_bounds hdigit
  have hd' : Char.ofNat (48 + (d.toNat - 48)) = d := by
    rw [show 48 + (d.toNat - 48) = d.toNat by have := hbounds.1; simp at this; omega, Char.ofNat_toNat]
  exact hd' ▸ h.syntaxChars _ (hmem ⟨d.toNat - 48, by have := hbounds.2; simp at this; omega⟩)

mutual

theorem Style.Lays.write (h : st.Lays P) : ∀ (v : Value) (level : Nat), v.plain = true → ∀ d ∈ JsonText.write st level v, P d
  | .null, _, _ => fun d hd => h.syntaxChars d (by revert hd; simp only [JsonText.write]; revert d; decide)
  | .bool b, _, _ => fun d hd => h.syntaxChars d (by revert hd; simp only [JsonText.write]; revert d; cases b <;> decide)
  | .int n, _, _ => by
    simp only [JsonText.write, toString_toList, List.forall_mem_append]
    refine ⟨fun d hd => h.syntaxChars d ?_, h.digits _⟩
    split_ifs at hd
    · exact List.mem_singleton.1 hd ▸ by decide
    · cases hd
  | .float _, _, hp => by simp [Value.plain] at hp
  | .str s, _, _ => by
    simp only [JsonText.write]
    exact h.string s
  | .list [], _, _ => fun d hd => h.syntaxChars d (by revert hd; simp only [JsonText.write]; revert d; decide)
  | .list (item :: items), level, hp => by
    simp only [Value.plain, Value.plainItems, Bool.and_eq_true] at hp
    simp only [JsonText.write, List.forall_mem_cons, List.forall_mem_append]
    exact ⟨h.syntaxChars _ (by decide), h.newline _, h.write item _ hp.1, h.writeItems items level hp.2⟩
  | .dict [], _, _ => fun d hd => h.syntaxChars d (by revert hd; simp only [JsonText.write]; revert d; decide)
  | .dict ((name, value) :: fields), level, hp => by
    simp only [Value.plain, Value.plainFields, Bool.and_eq_true] at hp
    simp only [JsonText.write, List.forall_mem_cons, List.forall_mem_append]
    exact ⟨h.syntaxChars _ (by decide), h.newline _, h.string name, h.syntaxChars _ (by decide), h.space, h.write value _ hp.1,
      h.writeFields fields level hp.2⟩

theorem Style.Lays.writeItems (h : st.Lays P) : ∀ (items : List Value) (level : Nat), Value.plainItems items = true →
    ∀ d ∈ JsonText.writeItems st level items, P d
  | [], level, _ => by
    simp only [JsonText.writeItems, List.forall_mem_append, List.forall_mem_cons]
    exact ⟨h.newline level, h.syntaxChars _ (by decide), by simp⟩
  | item :: items, level, hp => by
    simp only [Value.plainItems, Bool.and_eq_true] at hp
    simp only [JsonText.writeItems, List.forall_mem_cons, List.forall_mem_append]
    exact ⟨h.syntaxChars _ (by decide), h.newline _, h.write item _ hp.1, h.writeItems items level hp.2⟩

theorem Style.Lays.writeFields (h : st.Lays P) : ∀ (fields : List (String × Value)) (level : Nat), Value.plainFields fields = true →
    ∀ d ∈ JsonText.writeFields st level fields, P d
  | [], level, _ => by
    simp only [JsonText.writeFields, List.forall_mem_append, List.forall_mem_cons]
    exact ⟨h.newline level, h.syntaxChars _ (by decide), by simp⟩
  | (name, value) :: fields, level, hp => by
    simp only [Value.plainFields, Bool.and_eq_true] at hp
    simp only [JsonText.writeFields, List.forall_mem_cons, List.forall_mem_append]
    exact ⟨h.syntaxChars _ (by decide), h.newline _, h.string name, h.syntaxChars _ (by decide), h.space, h.write value _ hp.1,
      h.writeFields fields level hp.2⟩

end

end Lays

/-! ### Carriage returns -/

/-- A style that lays no carriage return and escapes those of a text. -/
structure Style.NoReturn (st : Style) : Prop where
  escape : ∀ c, '\r' ∉ st.escape c
  newline : ∀ level, '\r' ∉ st.newline level
  space : '\r' ∉ st.space

theorem return_not_mem_hex4 (n : Nat) : '\r' ∉ hex4 n := by
  have hdigit : ∀ d < 16, '\r' ≠ Nat.digitChar d := by decide
  simp only [hex4, List.mem_cons, List.not_mem_nil, or_false, not_or]
  exact ⟨hdigit _ (by omega), hdigit _ (by omega), hdigit _ (by omega), hdigit _ (by omega)⟩

/-- A character without an escape of its own is no carriage return, and no escape is one. -/
theorem return_not_mem_escapeDct {c : Char} : (∀ d, escapeDct c = some d → '\r' ≠ d) ∧ (escapeDct c = none → '\r' ≠ c) := by
  constructor
  · intro d h
    unfold escapeDct at h
    split_ifs at h <;> · cases h; decide
  · rintro h rfl
    exact absurd h (by decide)

theorem compact_noReturn (repr : Double → List Char) : (compact repr).NoReturn where
  escape c := by
    obtain ⟨hsome, hnone⟩ := return_not_mem_escapeDct (c := c)
    change '\r' ∉ escape c
    unfold escape
    cases hd : escapeDct c with
    | some d => simpa using hsome d hd
    | none =>
      simp only
      split_ifs
      · simpa using return_not_mem_hex4 _
      · simpa using hnone hd
  newline := by simp [compact]
  space := by simp [compact]

theorem indented_noReturn (repr : Double → List Char) : (indented repr).NoReturn where
  escape c := by
    obtain ⟨hsome, hnone⟩ := return_not_mem_escapeDct (c := c)
    change '\r' ∉ escapeAscii c
    unfold escapeAscii
    cases hd : escapeDct c with
    | some d => simpa using hsome d hd
    | none =>
      simp only
      split_ifs
      · simpa using hnone hd
      · simpa using return_not_mem_hex4 _
      · simpa using ⟨return_not_mem_hex4 _, return_not_mem_hex4 _⟩
  newline := by simp [indented]
  space := by simp [indented]

theorem compactAscii_noReturn (repr : Double → List Char) : (compactAscii repr).NoReturn where
  escape := (indented_noReturn repr).escape
  newline := by simp [compactAscii]
  space := by simp [compactAscii]

theorem Style.NoReturn.write (h : st.NoReturn) (v : Value) (level : Nat) (hp : v.plain = true) : '\r' ∉ JsonText.write st level v := by
  have hlays : st.Lays (· ≠ '\r') :=
    ⟨fun c d hd heq => h.escape c (heq ▸ hd), fun level d hd heq => h.newline level (heq ▸ hd), fun d hd heq => h.space (heq ▸ hd),
      by decide⟩
  exact fun hmem => hlays.write v level hp '\r' hmem rfl

/-! ## The text of `serde_json` -/

/-- Rust and Python escape a string in the same way. -/
theorem escape_eq_escapeChar (c : Char) : escape c = Json.escapeChar c := by
  have hb : c.toNat = 0x08 ↔ c = '\x08' := Char.toNat_inj (c := c) (d := '\x08')
  have hf : c.toNat = 0x0C ↔ c = '\x0C' := Char.toNat_inj (c := c) (d := '\x0C')
  unfold escape escapeDct Json.escapeChar
  simp only [hb, hf]
  split_ifs with _ _ _ _ _ _ _ hc <;> simp_all
  have h0 : c.toNat / 0x1000 % 16 = 0 := by omega
  have h1 : c.toNat / 0x100 % 16 = 0 := by omega
  have h2 : c.toNat / 0x10 % 16 = c.toNat / 16 := by omega
  rw [hex4, h0, h1, h2]
  rfl

mutual

/-- A document that was built, as one that was read. -/
def ofJson : Json → Value
  | .null => .null
  | .bool b => .bool b
  | .num n => .int n
  | .str s => .str s
  | .arr items => .list (ofJsonItems items)
  | .obj fields => .dict (ofJsonFields fields)

def ofJsonItems : List Json → List Value
  | [] => []
  | item :: items => ofJson item :: ofJsonItems items

def ofJsonFields : List (String × Json) → List (String × Value)
  | [] => []
  | (name, value) :: fields => (name, ofJson value) :: ofJsonFields fields

end

theorem pretty_lawful (repr : Double → List Char) : (pretty repr).Lawful where
  readChar_escape := fun c rest => by
    have : (pretty repr).escape c = escape c := (escape_eq_escapeChar c).symm
    rw [this, readChar_escape]
  newline_space := by simp [pretty, isSpace]
  space_space := by simp [pretty, isSpace]

theorem compact_string (repr : Double → List Char) (s : String) : (compact repr).string s = Json.renderString s := by
  have : (compact repr).escape = Json.escapeChar := funext escape_eq_escapeChar
  rw [Style.string, Json.renderString, this]

mutual

/-- Python's compact text of a document is the text that `serde_json` writes. -/
theorem write_ofJson (repr : Double → List Char) : ∀ (level : Nat) (j : Json),
    write (compact repr) level (ofJson j) = j.render
  | _, .null => rfl
  | _, .bool b => by cases b <;> rfl
  | _, .num n => rfl
  | _, .str s => compact_string repr s
  | _, .arr [] => rfl
  | level, .arr (item :: items) => by
    simp only [ofJson, ofJsonItems, write, Json.render]
    rw [write_ofJson repr _ item, writeItems_ofJson repr level items]
    rfl
  | _, .obj [] => rfl
  | level, .obj ((name, value) :: fields) => by
    simp only [ofJson, ofJsonFields, write, Json.render]
    rw [write_ofJson repr _ value, writeFields_ofJson repr level fields, compact_string]
    rfl

theorem writeItems_ofJson (repr : Double → List Char) : ∀ (level : Nat) (items : List Json),
    writeItems (compact repr) level (ofJsonItems items) = Json.renderItems items
  | _, [] => rfl
  | level, item :: items => by
    simp only [ofJsonItems, writeItems, Json.renderItems]
    rw [write_ofJson repr _ item, writeItems_ofJson repr level items]
    rfl

theorem writeFields_ofJson (repr : Double → List Char) : ∀ (level : Nat) (fields : List (String × Json)),
    writeFields (compact repr) level (ofJsonFields fields) = Json.renderFields fields
  | _, [] => rfl
  | level, (name, value) :: fields => by
    simp only [ofJsonFields, writeFields, Json.renderFields]
    rw [write_ofJson repr _ value, writeFields_ofJson repr level fields, compact_string]
    rfl

end

end SuderraOs.JsonText
