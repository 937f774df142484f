import SuderraOs.Lib.Hex

/-!
# Text as Python sees it

The methods of `str` and `bytes` that the scripts use, on the characters of a string.
-/

namespace SuderraOs.PyText

/-- `str.isspace` on one character: Unicode's white space and the four separators of ASCII. -/
def isSpace (c : Char) : Bool := Text.isWhitespace c || (0x1C ≤ c.toNat && c.toNat ≤ 0x1F)

/-- `str.strip`. -/
def strip (cs : List Char) : List Char := Text.trimMatches isSpace cs

/-- What Python's tables of Unicode say beyond ASCII: the value of a decimal digit and `str.upper`. -/
structure Unicode where
  decimal : Char → Option Nat
  upper : List Char → List Char

/-- The line ends that `str.splitlines` knows. -/
def isLineEnd (c : Char) : Bool :=
  (0x0A ≤ c.toNat && c.toNat ≤ 0x0D) || (0x1C ≤ c.toNat && c.toNat ≤ 0x1E) || c.toNat == 0x85 || c.toNat == 0x2028 ||
    c.toNat == 0x2029

/-- A text that is read in text mode: every line end is a newline. -/
def universalNewlines : List Char → List Char
  | '\r' :: '\n' :: cs => '\n' :: universalNewlines cs
  | '\r' :: cs => '\n' :: universalNewlines cs
  | c :: cs => c :: universalNewlines cs
  | [] => []

theorem universalNewlines_eq {cs : List Char} (h : '\r' ∉ cs) : universalNewlines cs = cs := by
  induction cs with
  | nil => rfl
  | cons c cs ih =>
    simp only [List.mem_cons, not_or] at h
    rw [universalNewlines, ih h.2]
    · intro _ hc _
      exact h.1 hc.symm
    · intro hc
      exact h.1 hc.symm

/-- `str.splitlines`, of a text without `\r\n`. -/
def splitlines (cs : List Char) : List (List Char) :=
  let pieces := cs.splitOnP isLineEnd
  if pieces.getLast? = some [] then pieces.dropLast else pieces

/-- `str.split` without an argument. -/
def splitSpace (cs : List Char) : List (List Char) := (cs.splitOnP isSpace).filter (· ≠ [])

def digitOf (U : Unicode) (c : Char) : Option Nat := if c.isDigit then some (c.toNat - '0'.toNat) else U.decimal c

/-- The digits after the first one; an underscore may stand before a digit. -/
def moreDigits (U : Unicode) : List Char → Option (List Nat)
  | [] => some []
  | '_' :: c :: cs => (digitOf U c).bind fun d => (moreDigits U cs).map (d :: ·)
  | c :: cs => (digitOf U c).bind fun d => (moreDigits U cs).map (d :: ·)

def intDigits (U : Unicode) : List Char → Option (List Nat)
  | [] => none
  | c :: cs => (digitOf U c).bind fun d => (moreDigits U cs).map (d :: ·)

/-- `int` of a string: a sign, then decimal digits, of which Python takes 4300 at most. -/
def parseInt (U : Unicode) (cs : List Char) : Option Int :=
  let unsigned (cs : List Char) : Option Nat :=
    ((intDigits U cs).filter fun digits => digits.length ≤ 4300).map fun digits => digits.foldl (fun n d => 10 * n + d) 0
  match strip cs with
  | '-' :: cs => (unsigned cs).map fun n => -(n : Int)
  | '+' :: cs => (unsigned cs).map fun n => (n : Int)
  | cs => (unsigned cs).map fun n => (n : Int)

/-- The white space that `bytes.fromhex` skips between two bytes. -/
def isHexSpace (c : Char) : Bool := c = ' ' || (0x09 ≤ c.toNat && c.toNat ≤ 0x0D)

/-- `bytes.fromhex`. -/
def fromHex : List Char → Option (List UInt8)
  | [] => some []
  | [c] => if isHexSpace c then some [] else none
  | c :: d :: cs =>
    if isHexSpace c then fromHex (d :: cs)
    else
      match Hex.digitValue c.toNat, Hex.digitValue d.toNat, fromHex cs with
      | some high, some low, some bytes => some (UInt8.ofNat (16 * high + low) :: bytes)
      | _, _, _ => none

/-! ## What is read back -/

theorem digit_toNat {c : Char} (h : c.isDigit = true) : 48 ≤ c.toNat ∧ c.toNat ≤ 57 := by
  simp only [Char.isDigit, Bool.and_eq_true, decide_eq_true_eq] at h
  exact ⟨h.1, h.2⟩

theorem isSpace_digit {c : Char} (h : c.isDigit = true) : isSpace c = false := by
  have := digit_toNat h
  simp [isSpace, Text.isWhitespace]
  omega

theorem trimMatches_eq {p : Char → Bool} {cs : List Char} (h : ∀ c ∈ cs, p c = false) : Text.trimMatches p cs = cs := by
  have hdrop : ∀ {cs : List Char}, (∀ c ∈ cs, p c = false) → cs.dropWhile p = cs := by
    intro cs h
    cases cs with
    | nil => rfl
    | cons c cs => simp [h c (by simp)]
  rw [Text.trimMatches, hdrop h, hdrop (by simpa using h), List.reverse_reverse]

/-- The digits of a text of ASCII digits. -/
theorem moreDigits_eq (U : Unicode) {cs : List Char} (h : ∀ c ∈ cs, c.isDigit = true) :
    moreDigits U cs = some (cs.map fun c => c.toNat - '0'.toNat) := by
  induction cs with
  | nil => rfl
  | cons c cs ih =>
    have hc : c.isDigit = true := h c (by simp)
    have hne : c ≠ '_' := by
      rintro rfl
      exact absurd hc (by decide)
    rw [moreDigits]
    · simp [digitOf, hc, ih (fun d hd => h d (by simp [hd]))]
    · simp_all

/-- `int` of a text of ASCII digits. -/
theorem parseInt_digits (U : Unicode) {cs : List Char} (hne : cs ≠ []) (h : ∀ c ∈ cs, c.isDigit = true) :
    parseInt U cs = if cs.length ≤ 4300 then some (Text.digitsValue cs : Int) else none := by
  have hstrip : strip cs = cs := trimMatches_eq fun c hc => isSpace_digit (h c hc)
  have hdigits : intDigits U cs = some (cs.map fun c => c.toNat - '0'.toNat) := by
    obtain ⟨c, cs, rfl⟩ := List.exists_cons_of_ne_nil hne
    have hc : c.isDigit = true := h c (by simp)
    have hrest : ∀ d ∈ cs, d.isDigit = true := fun d hd => h d (List.mem_cons_of_mem c hd)
    have htail := moreDigits_eq U hrest
    simp [intDigits, digitOf, hc, htail]
  have hvalue : (cs.map fun c => c.toNat - '0'.toNat).foldl (fun n d => 10 * n + d) 0 = Text.digitsValue cs := by
    rw [List.foldl_map, Text.digitsValue]
  have hsign : ∀ c ∈ cs.head?, c ≠ '-' ∧ c ≠ '+' := by
    intro c hc
    have := h c (List.mem_of_mem_head? hc)
    constructor <;> (rintro rfl; exact absurd this (by decide))
  unfold parseInt
  simp only [hstrip]
  split
  · simp_all
  · simp_all
  · rw [hdigits]
    split_ifs with hlen <;> simp [Option.filter, hlen, ← hvalue]

theorem isHexSpace_digitChar : ∀ d < 16, isHexSpace (Nat.digitChar d) = false := by decide

/-- The text that `bytes.hex` writes is read back. -/
theorem fromHex_encode (bytes : List UInt8) : fromHex (Hex.encode bytes) = some bytes := by
  induction bytes with
  | nil => rfl
  | cons b bytes ih =>
    have hb := b.toNat_lt
    have hbyte : UInt8.ofNat (16 * (b.toNat / 16) + b.toNat % 16) = b := by
      rw [Nat.div_add_mod, UInt8.ofNat_toNat]
    rw [Hex.encode, List.flatMap_cons, ← Hex.encode]
    simp only [List.cons_append, List.nil_append, fromHex]
    rw [isHexSpace_digitChar _ (by omega), Hex.digitValue_digitChar _ (by omega), Hex.digitValue_digitChar _ (by omega), ih]
    simp [hbyte]

end SuderraOs.PyText
