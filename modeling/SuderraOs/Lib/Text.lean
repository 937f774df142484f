import Mathlib.Data.List.Infix

/-!
# Text as a list of characters

The string functions of Rust's standard library that the programs use, on the characters of a string.
-/

namespace SuderraOs.Text

/-- A statement about the characters of a text is decided on the text, and not by going through all characters there are. -/
instance (priority := 2000) decidableForallMem (p : Char → Prop) [DecidablePred p] (cs : List Char) : Decidable (∀ c ∈ cs, p c) :=
  List.decidableBAll p cs

instance (priority := 2000) decidableForallMemOption (p : Char → Prop) [DecidablePred p] (o : Option Char) : Decidable (∀ c ∈ o, p c) :=
  Option.decidableForallMem o

instance (priority := 2000) lawfulBEqChars : LawfulBEq (List Char) := inferInstance

/-- The characters of Unicode's `White_Space` property, which `char::is_whitespace` tests. -/
def isWhitespace (c : Char) : Bool :=
  let n := c.toNat
  (0x09 ≤ n && n ≤ 0x0D) || n == 0x20 || n == 0x85 || n == 0xA0 || n == 0x1680 || (0x2000 ≤ n && n ≤ 0x200A) ||
    n == 0x2028 || n == 0x2029 || n == 0x202F || n == 0x205F || n == 0x3000

/-- Drop the characters that `p` accepts from both ends (`trim_matches`). -/
def trimMatches (p : Char → Bool) (cs : List Char) : List Char := ((cs.dropWhile p).reverse.dropWhile p).reverse

/-- `str::trim`. -/
def trimChars (cs : List Char) : List Char := trimMatches isWhitespace cs

/-- `str::trim` on a string. -/
def trim (s : String) : String := String.ofList (trimChars s.toList)

/-- `str::split_once` at a character: what stands before its first occurrence and what stands after it. -/
def splitOnce (c : Char) : List Char → Option (List Char × List Char)
  | [] => none
  | d :: cs => if d = c then some ([], cs) else (splitOnce c cs).map (fun p => (d :: p.1, p.2))

/-- Whether `word` occurs in a text, as the shell pattern `*word*` tests. -/
def contains (word cs : List Char) : Bool := cs.tails.any word.isPrefixOf

/-- Drop one carriage return from the end of a line. -/
def dropCr (cs : List Char) : List Char := if cs.getLast? = some '\r' then cs.dropLast else cs

/-- `str::lines`: the pieces between newlines, without a last empty piece and without the carriage return that ends a piece. -/
def lines (cs : List Char) : List (List Char) :=
  let pieces := cs.splitOn '\n'
  (if pieces.getLast? = some [] then pieces.dropLast else pieces).map dropCr

/-- `str::split_whitespace`: the maximal runs of characters that are not white space. -/
def splitWhitespace (cs : List Char) : List (List Char) := (cs.splitOnP isWhitespace).filter (· ≠ [])

/-- What stands before the first occurrence of a text and what stands after it. -/
def breakOn (sep : List Char) : List Char → Option (List Char × List Char)
  | [] => if sep = [] then some ([], []) else none
  | c :: cs =>
    if sep.isPrefixOf (c :: cs) then some ([], (c :: cs).drop sep.length) else (breakOn sep cs).map fun p => (c :: p.1, p.2)

/-- `str::strip_prefix` with a string. -/
def stripPrefix (pre cs : List Char) : Option (List Char) := if pre.isPrefixOf cs then some (cs.drop pre.length) else none

/-- `Path::join` with a file name: a separator is added unless the directory ends with one or is empty. -/
def joinPath (dir name : String) : String :=
  if dir.toList.getLast?.all (· = '/') then dir ++ name else dir ++ "/" ++ name

/-- `Path::file_name`: the last name of a path, unless the path ends in `..` or has none. -/
def fileName (path : String) : Option String :=
  match ((path.toList.splitOn '/').filter (fun name => name ≠ [] ∧ name ≠ ['.'])).getLast? with
  | some name => if name = ['.', '.'] then none else some (String.ofList name)
  | none => none

/-- `basename` of a path: its last name. -/
def baseName (path : List Char) : List Char :=
  let trimmed := (path.reverse.dropWhile (· = '/')).reverse
  if path ≠ [] ∧ trimmed = [] then ['/'] else (trimmed.reverse.takeWhile (· ≠ '/')).reverse

/-- What stands before the last place from which `here` accepts the rest of a text (`${text%pattern}`). -/
def cutLast (here : List Char → Bool) : List Char → Option (List Char)
  | [] => none
  | c :: cs =>
    match cutLast here cs with
    | some before => some (c :: before)
    | none => if here (c :: cs) then some [] else none

/-- The fields the shell splits a text into. -/
def fields (cs : List Char) : List (List Char) := (cs.splitOnP fun c => c = ' ' ∨ c = '\t' ∨ c = '\n').filter (· ≠ [])

/-- The value of a list of decimal digits. -/
def digitsValue (cs : List Char) : Nat := cs.foldl (fun n c => 10 * n + (c.toNat - '0'.toNat)) 0

/-- `str::parse::<u64>`: an optional plus sign, then at least one ASCII digit, within 64 bits. -/
def parseU64 (cs : List Char) : Option Nat :=
  let digits := match cs with
    | '+' :: rest => rest
    | cs => cs
  if digits ≠ [] ∧ digits.all Char.isDigit = true ∧ digitsValue digits < UInt64.size then some (digitsValue digits) else none

/-- Reading digits that no plus sign precedes. -/
theorem parseU64_some {cs : List Char} {n : Nat} (hsign : cs.head? ≠ some '+') (h : parseU64 cs = some n) :
    cs ≠ [] ∧ (∀ c ∈ cs, c.isDigit = true) ∧ n < UInt64.size ∧ n = digitsValue cs := by
  unfold parseU64 at h
  extract_lets digits at h
  have hdigits : digits = cs := by
    cases cs with
    | nil => rfl
    | cons c cs =>
      have hc : c ≠ '+' := by simpa using hsign
      simp only [digits]
      split
      · simp_all
      · rfl
  split_ifs at h with hcs
  rw [hdigits] at hcs h
  cases h
  exact ⟨hcs.1, List.all_eq_true.1 hcs.2.1, hcs.2.2, rfl⟩

/-- Digits within 64 bits are read. -/
theorem parseU64_digits {cs : List Char} (hne : cs ≠ []) (hd : ∀ c ∈ cs, c.isDigit = true) (hn : digitsValue cs < UInt64.size) :
    parseU64 cs = some (digitsValue cs) := by
  unfold parseU64
  extract_lets digits
  have hdigits : digits = cs := by
    simp only [digits]
    split
    · exact absurd (hd '+' List.mem_cons_self) (by decide)
    · rfl
  have hread : digits ≠ [] ∧ digits.all Char.isDigit = true ∧ digitsValue digits < UInt64.size := by
    rw [hdigits]
    exact ⟨hne, List.all_eq_true.2 hd, hn⟩
  rw [if_pos hread, hdigits]

/-- What `parse::<u64>` reads: digits, after a plus sign or not. -/
theorem parseU64_cases {cs : List Char} {n : Nat} (h : parseU64 cs = some n) :
    ∃ plus digits, cs = plus ++ digits ∧ (plus = [] ∨ plus = ['+']) ∧ digits ≠ [] ∧ (∀ c ∈ digits, c.isDigit = true) ∧
      digitsValue digits = n := by
  unfold parseU64 at h
  extract_lets digits at h
  have hplus : ∃ plus, cs = plus ++ digits ∧ (plus = [] ∨ plus = ['+']) := by
    simp only [digits]
    split
    · exact ⟨['+'], rfl, Or.inr rfl⟩
    · exact ⟨[], rfl, Or.inl rfl⟩
  obtain ⟨plus, hcs, hplus⟩ := hplus
  split_ifs at h with hd
  exact ⟨plus, digits, hcs, hplus, hd.1, List.all_eq_true.1 hd.2.1, Option.some.inj h⟩

/-! ## Cutting texts -/

theorem splitOnce_eq_some {c : Char} {cs a b : List Char} (h : splitOnce c cs = some (a, b)) : cs = a ++ c :: b ∧ c ∉ a := by
  induction cs generalizing a with
  | nil => simp [splitOnce] at h
  | cons d cs ih =>
    rw [splitOnce] at h
    split_ifs at h with hd
    · cases h
      simp [hd]
    · obtain ⟨⟨a', b'⟩, hsplit, heq⟩ := Option.map_eq_some_iff.1 h
      cases heq
      obtain ⟨rfl, hmem⟩ := ih hsplit
      exact ⟨rfl, by simp [hmem, Ne.symm hd]⟩

theorem splitOnce_eq_none {c : Char} {cs : List Char} (h : splitOnce c cs = none) : c ∉ cs := by
  induction cs with
  | nil => simp
  | cons d cs ih =>
    rw [splitOnce] at h
    split_ifs at h with hd
    have := ih (Option.map_eq_none_iff.1 h)
    simp [this, Ne.symm hd]

theorem splitOnce_append {c : Char} {a b : List Char} (h : c ∉ a) : splitOnce c (a ++ c :: b) = some (a, b) := by
  induction a with
  | nil => simp [splitOnce]
  | cons d a ih =>
    have hd : d ≠ c := fun hd => h (by simp [hd])
    have ha : c ∉ a := fun ha => h (List.mem_cons_of_mem _ ha)
    simp [splitOnce, hd, ih ha]

/-- A text contains a word exactly when the word stands between two parts of it. -/
theorem contains_iff {word cs : List Char} : contains word cs = true ↔ ∃ a b, cs = a ++ (word ++ b) := by
  rw [contains, List.any_eq_true]
  constructor
  · rintro ⟨tail, htail, hword⟩
    obtain ⟨a, rfl⟩ := (List.mem_tails _ _).1 htail
    obtain ⟨b, rfl⟩ := List.isPrefixOf_iff_prefix.1 hword
    exact ⟨a, b, rfl⟩
  · rintro ⟨a, b, rfl⟩
    exact ⟨word ++ b, (List.mem_tails _ _).2 ⟨a, rfl⟩, List.isPrefixOf_iff_prefix.2 ⟨b, rfl⟩⟩

theorem breakOn_eq_some {sep cs a b : List Char} (h : breakOn sep cs = some (a, b)) : cs = a ++ (sep ++ b) := by
  induction cs generalizing a with
  | nil =>
    rw [breakOn] at h
    split_ifs at h with hsep
    cases h
    simp [hsep]
  | cons c cs ih =>
    rw [breakOn] at h
    split_ifs at h with hsep
    · obtain ⟨rest, hrest⟩ := List.isPrefixOf_iff_prefix.1 hsep
      cases h
      rw [← hrest, List.drop_left, List.nil_append]
    · obtain ⟨⟨a', b'⟩, hcut, heq⟩ := Option.map_eq_some_iff.1 h
      cases heq
      rw [ih hcut, List.cons_append]

/-- A prefix that can be stripped is one. -/
theorem stripPrefix_eq_some {pre cs rest : List Char} : stripPrefix pre cs = some rest ↔ cs = pre ++ rest := by
  unfold stripPrefix
  constructor
  · intro h
    split_ifs at h with hpre
    obtain ⟨tail, rfl⟩ := List.isPrefixOf_iff_prefix.1 hpre
    rw [List.drop_left] at h
    rw [Option.some.inj h]
  · rintro rfl
    rw [if_pos (List.isPrefixOf_iff_prefix.2 (List.prefix_append pre rest)), List.drop_left]

theorem stripPrefix_append (pre cs : List Char) : stripPrefix pre (pre ++ cs) = some cs := stripPrefix_eq_some.2 rfl

/-- A text is cut at the first occurrence in one way only. -/
theorem cut_unique {c : Char} {a b x y : List Char} (ha : c ∉ a) (hb : c ∉ b) (h : a ++ c :: x = b ++ c :: y) : a = b ∧ x = y := by
  have := splitOnce_append (b := x) ha
  rw [h, splitOnce_append hb] at this
  simpa [eq_comm] using this

theorem takeWhile_append {p : Char → Bool} {a rest : List Char} (ha : ∀ c ∈ a, p c = true) (hrest : rest.head?.all (! p ·) = true) :
    (a ++ rest).takeWhile p = a := by
  rw [List.takeWhile_append_of_pos ha]
  cases rest with
  | nil => simp
  | cons c rest =>
    have hc : p c = false := by simpa using hrest
    simp [hc]

/-- Trimming drops a run of dropped characters at either end and nothing else. -/
theorem trimMatches_spec (p : Char → Bool) (cs : List Char) :
    ∃ l r, cs = l ++ (trimMatches p cs ++ r) ∧ (∀ c ∈ l, p c = true) ∧ ∀ c ∈ r, p c = true := by
  have hdrop (cs : List Char) : ∃ l, cs = l ++ cs.dropWhile p ∧ ∀ c ∈ l, p c = true :=
    ⟨cs.takeWhile p, List.takeWhile_append_dropWhile.symm, List.all_eq_true.1 List.all_takeWhile⟩
  obtain ⟨l, hl, hlp⟩ := hdrop cs
  obtain ⟨r, hr, hrp⟩ := hdrop (cs.dropWhile p).reverse
  refine ⟨l, r.reverse, ?_, hlp, fun c hc => hrp c (List.mem_reverse.1 hc)⟩
  conv_lhs => rw [hl]
  rw [trimMatches, ← List.reverse_append, ← hr, List.reverse_reverse]

/-- A text is a part that does not end in a dropped character, and a run of dropped ones. -/
theorem exists_trimEnd (p : Char → Bool) (cs : List Char) :
    ∃ a r, cs = a ++ r ∧ (∀ c ∈ r, p c = true) ∧ ∀ c ∈ a.getLast?, p c = false := by
  refine ⟨(cs.reverse.dropWhile p).reverse, (cs.reverse.takeWhile p).reverse, ?_, ?_, ?_⟩
  · rw [← List.reverse_append, List.takeWhile_append_dropWhile, List.reverse_reverse]
  · intro c hc
    exact List.all_eq_true.1 List.all_takeWhile c (List.mem_reverse.1 hc)
  · intro c hc
    have := List.head?_dropWhile_not p cs.reverse
    rw [List.getLast?_reverse] at hc
    simpa [Option.mem_def.1 hc] using this

/-- Trimming gives what stands between two runs of dropped characters. -/
theorem trimMatches_append {p : Char → Bool} {l mid r : List Char} (hl : ∀ c ∈ l, p c = true) (hr : ∀ c ∈ r, p c = true)
    (hhead : ∀ c ∈ mid.head?, p c = false) (hlast : ∀ c ∈ mid.getLast?, p c = false) (hne : mid ≠ []) :
    trimMatches p (l ++ (mid ++ r)) = mid := by
  have hdrop {x y : List Char} (hx : ∀ c ∈ x, p c = true) (hy : ∀ c ∈ y.head?, p c = false) : (x ++ y).dropWhile p = y := by
    rw [List.dropWhile_append_of_pos hx]
    cases y with
    | nil => rfl
    | cons c y => simp [hy c rfl]
  have hmid : ∀ c ∈ (mid ++ r).head?, p c = false := by
    cases mid with
    | nil => exact absurd rfl hne
    | cons c mid => exact hhead
  rw [trimMatches, hdrop hl hmid, List.reverse_append, hdrop (by simpa using hr) (by simpa [List.head?_reverse] using hlast),
    List.reverse_reverse]

theorem isDigit_of_isWhitespace {c : Char} (h : isWhitespace c = true) : c.isDigit = false := by
  by_contra hd
  have hd : '0'.toNat ≤ c.toNat ∧ c.toNat ≤ '9'.toNat := by
    simpa [Char.isDigit, UInt32.le_iff_toNat_le] using Bool.of_not_eq_false hd
  simp only [show '0'.toNat = 48 from rfl, show '9'.toNat = 57 from rfl] at hd
  simp only [isWhitespace, Bool.or_eq_true, Bool.and_eq_true, decide_eq_true_eq, beq_iff_eq] at h
  omega

end SuderraOs.Text
