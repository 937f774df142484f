import Mathlib.Data.Prod.Lex
import SuderraOs.Lib.Digits
import SuderraOs.Lib.Effect

/-!
# Edge versions

The two readings of an Edge version: `parse_version` and `compare_versions` of `suderra-installer`, over 64-bit numbers, and
`version_key` of `suderra-edge-install`, a text of three six-digit columns that `test` compares with `<`. `printf` reads a numeral
with a leading zero as octal, and what it makes of one it cannot read is left open. The two agree on plainly spelled versions
(`versionKey_lt_iff`).
-/

namespace SuderraOs.Install

open Text

/-! ## The verifier -/

structure ParsedVersion where
  major : Nat
  minor : Nat
  patch : Nat
  pre : Option (List Char)

def parseVersionPart (part : Option (List Char)) (value : List Char) : Except String Nat := do
  let part ← orError s!"version must use major.minor.patch form: {String.ofList value}" (part.filter (· ≠ []))
  orError s!"version contains a non-numeric component: {String.ofList value}" (parseU64 part)

def parseVersion (version : List Char) : Except String ParsedVersion := do
  let value := (trimChars version).dropWhile (· = 'v')
  let split := (splitOnce '-' value).getD (value, [])
  let parts := split.1.splitOn '.'
  let major ← parseVersionPart parts[0]? value
  let minor ← parseVersionPart parts[1]? value
  let patch ← parseVersionPart parts[2]? value
  guardError s!"version has too many numeric components: {String.ofList value}" parts[3]?.isNone
  .ok ⟨major, minor, patch, if split.2 = [] then none else some split.2⟩

/-- One pair of `compare_prerelease_segments`: numbers below texts. -/
def compareSegment (left right : List Char) : Ordering :=
  match parseU64 left, parseU64 right with
  | some left, some right => compare left right
  | some _, none => .lt
  | none, some _ => .gt
  | none, none => compare (String.ofList left) (String.ofList right)

def comparePrereleaseSegments : List (List Char) → List (List Char) → Ordering
  | [], [] => .eq
  | [], _ :: _ => .lt
  | _ :: _, [] => .gt
  | left :: lefts, right :: rights => (compareSegment left right).then (comparePrereleaseSegments lefts rights)

def comparePrerelease : Option (List Char) → Option (List Char) → Ordering
  | none, none => .eq
  | none, some _ => .gt
  | some _, none => .lt
  | some left, some right => comparePrereleaseSegments (left.splitOn '.') (right.splitOn '.')

/-- The numeric part of `compare_versions`. -/
def ParsedVersion.compareCore (left right : ParsedVersion) : Ordering :=
  ((compare left.major right.major).then (compare left.minor right.minor)).then (compare left.patch right.patch)

def compareVersions (left right : List Char) : Except String Ordering := do
  let left ← parseVersion left
  let right ← parseVersion right
  .ok ((left.compareCore right).then (comparePrerelease left.pre right.pre))

/-- The numeric core, in the order that compares major, minor and patch in turn. -/
def ParsedVersion.core (v : ParsedVersion) : Nat ×ₗ Nat ×ₗ Nat := toLex (v.major, toLex (v.minor, v.patch))

theorem ParsedVersion.core_lt_iff {v w : ParsedVersion} : v.core < w.core ↔
    v.major < w.major ∨ v.major = w.major ∧ (v.minor < w.minor ∨ v.minor = w.minor ∧ v.patch < w.patch) := by
  simp only [core, Prod.Lex.toLex_lt_toLex]

/-- The order of the cores is the one `compare_versions` decides first. -/
theorem ParsedVersion.compareCore_eq_lt {v w : ParsedVersion} : v.compareCore w = .lt ↔ v.core < w.core := by
  simp only [compareCore, core_lt_iff, Ordering.then_eq_lt, Ordering.then_eq_eq, Nat.compare_eq_lt, Nat.compare_eq_eq]
  tauto

/-! ## The script -/

/-- What follows the first dot (`${value#*.}`); a text without one stays. -/
def afterDot (value : List Char) : List Char := ((splitOnce '.' value).map (·.2)).getD value

/-- One leading `v` dropped (`${1#v}`). -/
def dropV (version : List Char) : List Char := (stripPrefix ['v'] version).getD version

/-- A component that is not a numeral counts as zero. -/
def numeral (component : List Char) : List Char := if component ≠ [] ∧ component.all Char.isDigit then component else ['0']

/-- The number `printf '%d'` makes of a numeral: a C constant within 64 bits, or else `invalid`. -/
def printfNumber (invalid : List Char → Nat) (digits : List Char) : Nat :=
  let base := if digits.head? = some '0' then 8 else 10
  if digits.all (fun c => c.toNat - '0'.toNat < base) ∧ Nat.ofDigitChars base digits 0 < 2 ^ 63 then
    Nat.ofDigitChars base digits 0
  else invalid digits

/-- `version_key`. -/
def versionKey (invalid : List Char → Nat) (version : List Char) : List Char :=
  let value := dropV version
  let major := value.takeWhile (· ≠ '.')
  let rest := afterDot value
  let minor := rest.takeWhile (· ≠ '.')
  let rest := afterDot rest
  let patch := rest.takeWhile fun c => c ≠ '-' ∧ c ≠ '+'
  padDigits 6 (printfNumber invalid (numeral major)) ++ '.' ::
    (padDigits 6 (printfNumber invalid (numeral minor)) ++ '.' :: padDigits 6 (printfNumber invalid (numeral patch)))

/-! ## Where they agree -/

/-- A numeral of `n` below a million that octal reads the same. -/
structure PlainNumeral (digits : List Char) (n : Nat) : Prop where
  allDigits : ∀ c ∈ digits, c.isDigit = true
  value : digitsValue digits = n
  small : n < 10 ^ 6
  decimal : digits.head? = some '0' → n < 8

/-- Every component that is not zero is spelled plainly: the major one at the start or after one `v`, the minor one between the
dots, and the patch one up to the end or a hyphen. -/
structure Plain (version : List Char) (v : ParsedVersion) : Prop where
  major : v.major ≠ 0 → ∃ lead digits rest, version = lead ++ (digits ++ '.' :: rest) ∧ (lead = [] ∨ lead = ['v']) ∧
    PlainNumeral digits v.major
  minor : v.minor ≠ 0 → ∃ before digits rest, version = before ++ '.' :: (digits ++ '.' :: rest) ∧ '.' ∉ before ∧
    PlainNumeral digits v.minor
  patch : v.patch ≠ 0 → ∃ first second digits tail, version = first ++ '.' :: (second ++ '.' :: (digits ++ tail)) ∧
    '.' ∉ first ∧ '.' ∉ second ∧ (tail = [] ∨ tail.head? = some '-') ∧ PlainNumeral digits v.patch

/-! ### What the parser read -/

theorem parseVersionPart_ok {part : Option (List Char)} {value : List Char} {n : Nat} (h : parseVersionPart part value = .ok n) :
    ∃ cs, part = some cs ∧ parseU64 cs = some n := by
  obtain ⟨cs, hcs, h⟩ := orError_bind_ok_iff.1 h
  exact ⟨cs, (Option.filter_eq_some_iff.1 hcs).1, orError_ok_iff.1 h⟩

/-- A version that parses is spelled so: three numerals between two dots, with white space and then `v`s before them, and with
white space or a hyphen after them. -/
def Spelled (version : List Char) (v : ParsedVersion) : Prop :=
  ∃ spaces vs major minor patch tail, version = spaces ++ (vs ++ (major ++ '.' :: (minor ++ '.' :: (patch ++ tail)))) ∧
    (∀ c ∈ spaces, isWhitespace c = true) ∧ (∀ c ∈ vs, c = 'v') ∧ ((∀ c ∈ tail, isWhitespace c = true) ∨ tail.head? = some '-') ∧
    parseU64 major = some v.major ∧ parseU64 minor = some v.minor ∧ parseU64 patch = some v.patch

theorem spelled_of_parseVersion {version : List Char} {v : ParsedVersion} (h : parseVersion version = .ok v) : Spelled version v := by
  unfold parseVersion at h
  extract_lets value split parts at h
  obtain ⟨_, hmajor, h⟩ := bind_ok_iff.1 h
  obtain ⟨_, hminor, h⟩ := bind_ok_iff.1 h
  obtain ⟨_, hpatch, h⟩ := bind_ok_iff.1 h
  obtain ⟨hmore, hv⟩ := guardError_bind_ok_iff.1 h
  obtain ⟨major, hpmajor, hmajor⟩ := parseVersionPart_ok hmajor
  obtain ⟨minor, hpminor, hminor⟩ := parseVersionPart_ok hminor
  obtain ⟨patch, hppatch, hpatch⟩ := parseVersionPart_ok hpatch
  cases hv
  have hparts : parts = [major, minor, patch] := by
    rcases hp : parts with _ | ⟨_, _ | ⟨_, _ | ⟨_, _ | _⟩⟩⟩ <;> simp_all
  have hcore : split.1 = major ++ '.' :: (minor ++ '.' :: patch) := by
    calc split.1 = ['.'].intercalate parts := (List.intercalate_splitOn '.').symm
      _ = _ := by simp [hparts, List.intercalate]
  -- what follows the core: the prerelease or nothing, and then the white space that is trimmed
  have hvalue : ∃ rest, value = split.1 ++ rest ∧ (rest = [] ∨ rest.head? = some '-') := by
    simp only [split]
    cases hs : splitOnce '-' value with
    | none => exact ⟨[], by simp, Or.inl rfl⟩
    | some p => exact ⟨'-' :: p.2, (splitOnce_eq_some hs).1, Or.inr rfl⟩
  obtain ⟨rest, hvalue, hrest⟩ := hvalue
  obtain ⟨l, r, htrim, hl, hr⟩ := trimMatches_spec isWhitespace version
  have htake : trimMatches isWhitespace version = (trimChars version).takeWhile (· = 'v') ++ value :=
    List.takeWhile_append_dropWhile.symm
  refine ⟨l, (trimChars version).takeWhile (· = 'v'), major, minor, patch, rest ++ r, ?_, hl, ?_, ?_, hmajor, hminor, hpatch⟩
  · rw [htake, hvalue, hcore] at htrim
    simpa using htrim
  · exact fun c hc => of_decide_eq_true (List.all_eq_true.1 List.all_takeWhile c hc)
  · rcases hrest with rfl | hrest
    · exact Or.inl (by simpa using hr)
    · cases rest with
      | nil => simp at hrest
      | cons c rest => exact Or.inr hrest

theorem not_mem_of_parseU64 {cs : List Char} {n : Nat} (h : parseU64 cs = some n) {c : Char} (hc : c.isDigit = false)
    (hplus : c ≠ '+') : c ∉ cs := by
  obtain ⟨plus, digits, rfl, hp, -, hd, -⟩ := parseU64_cases h
  intro hmem
  rcases List.mem_append.1 hmem with hmem | hmem
  · rcases hp with rfl | rfl <;> simp_all
  · simp [hd c hmem] at hc

theorem head_of_parseU64 {cs : List Char} {n : Nat} (h : parseU64 cs = some n) {c : Char} (hc : c ∈ cs.head?) :
    isWhitespace c = false ∧ c ≠ 'v' := by
  have hmem := List.mem_of_mem_head? hc
  constructor
  · by_contra hws
    have hws := Bool.of_not_eq_false hws
    refine not_mem_of_parseU64 h (isDigit_of_isWhitespace hws) ?_ hmem
    rintro rfl
    exact absurd hws (by decide)
  · rintro rfl
    exact not_mem_of_parseU64 h (by decide) (by decide) hmem

theorem ne_nil_of_parseU64 {cs : List Char} {n : Nat} (h : parseU64 cs = some n) : cs ≠ [] := by
  rintro rfl
  simp [parseU64] at h

theorem parseVersionPart_some {cs value : List Char} {n : Nat} (h : parseU64 cs = some n) :
    parseVersionPart (some cs) value = .ok n := by
  rw [parseVersionPart, Option.filter_some, if_pos (by simpa using ne_nil_of_parseU64 h), orError_some, ok_bind, h, orError_some]

/-- A text of a core and what follows it is read so. -/
theorem parseVersion_of_core {version major minor patch rest : List Char} {a b c : Nat}
    (htext : (trimChars version).dropWhile (· = 'v') = major ++ '.' :: (minor ++ '.' :: (patch ++ rest)))
    (hmajor : parseU64 major = some a) (hminor : parseU64 minor = some b) (hpatch : parseU64 patch = some c)
    (hrest : rest = [] ∨ rest.head? = some '-') :
    parseVersion version = .ok ⟨a, b, c, if rest.drop 1 = [] then none else some (rest.drop 1)⟩ := by
  obtain ⟨core, hcore⟩ : ∃ core, core = major ++ '.' :: (minor ++ '.' :: patch) := ⟨_, rfl⟩
  have htext : (trimChars version).dropWhile (· = 'v') = core ++ rest := by rw [htext, hcore]; simp
  have hhyphen : '-' ∉ core := by
    have hno {cs : List Char} {n : Nat} (h : parseU64 cs = some n) : '-' ∉ cs := not_mem_of_parseU64 h (by decide) (by decide)
    simp [hcore, hno hmajor, hno hminor, hno hpatch]
  have hsplit : (splitOnce '-' (core ++ rest)).getD (core ++ rest, []) = (core, rest.drop 1) := by
    rcases hrest with rfl | hrest
    · cases hs : splitOnce '-' (core ++ []) with
      | none => simp
      | some p =>
        have := (splitOnce_eq_some hs).1
        rw [List.append_nil] at this
        exact absurd (by simp [this]) hhyphen
    · cases rest with
      | nil => simp at hrest
      | cons c rest =>
        obtain rfl : c = '-' := by simpa using hrest
        rw [splitOnce_append hhyphen]
        rfl
  have hparts : core.splitOn '.' = [major, minor, patch] := by
    have hno {cs : List Char} {n : Nat} (h : parseU64 cs = some n) : '.' ∉ cs := not_mem_of_parseU64 h (by decide) (by decide)
    rw [hcore, List.splitOn_append_cons_self_of_not_mem (hno hmajor), List.splitOn_append_cons_self_of_not_mem (hno hminor),
      List.splitOn_eq_singleton (hno hpatch)]
  simp only [parseVersion, htext, hsplit, hparts, List.getElem?_cons_zero, List.getElem?_cons_succ,
    parseVersionPart_some hmajor, parseVersionPart_some hminor, parseVersionPart_some hpatch, ok_bind]
  rfl

/-- What follows the core ends in white space, which is trimmed, and before it a hyphen starts the rest. -/
theorem exists_trimmed_tail {tail : List Char} (h : (∀ c ∈ tail, isWhitespace c = true) ∨ tail.head? = some '-') :
    ∃ rest r, tail = rest ++ r ∧ (∀ c ∈ r, isWhitespace c = true) ∧ (∀ c ∈ rest.getLast?, isWhitespace c = false) ∧
      (rest = [] ∨ rest.head? = some '-') := by
  rcases h with h | h
  · exact ⟨[], tail, rfl, h, by simp, Or.inl rfl⟩
  · obtain ⟨a, r, rfl, hr, ha⟩ := exists_trimEnd isWhitespace tail
    refine ⟨a, r, rfl, hr, ha, Or.inr ?_⟩
    cases a with
    | nil => exact absurd (hr '-' (List.mem_of_mem_head? h)) (by decide)
    | cons c a => exact h

/-- A version spelled so parses, whatever its prerelease. -/
theorem Spelled.parseVersion {version : List Char} {v : ParsedVersion} (h : Spelled version v) :
    ∃ pre, parseVersion version = .ok { v with pre := pre } := by
  obtain ⟨spaces, vs, major, minor, patch, tail, rfl, hspaces, hvs, htail, hmajor, hminor, hpatch⟩ := h
  obtain ⟨rest, r, rfl, hr, hlast, hrest⟩ := exists_trimmed_tail htail
  obtain ⟨core, hcore⟩ : ∃ core, core = major ++ '.' :: (minor ++ '.' :: patch) := ⟨_, rfl⟩
  have hversion : spaces ++ (vs ++ (major ++ '.' :: (minor ++ '.' :: (patch ++ (rest ++ r))))) =
      spaces ++ ((vs ++ (core ++ rest)) ++ r) := by simp [hcore]
  have hhead : ∀ c ∈ (core ++ rest).head?, isWhitespace c = false ∧ c ≠ 'v' := by
    intro c hc
    obtain ⟨d, ds, hd⟩ := List.exists_cons_of_ne_nil (ne_nil_of_parseU64 hmajor)
    exact head_of_parseU64 hmajor (by simpa [hcore, hd] using hc)
  have hcoreLast : ∀ c ∈ core.getLast?, isWhitespace c = false := by
    intro c hc
    have hpatchLast : core.getLast? = patch.getLast? := by
      rw [show core = (major ++ '.' :: (minor ++ ['.'])) ++ patch by simp [hcore],
        List.getLast?_append_of_ne_nil _ (ne_nil_of_parseU64 hpatch)]
    have hmem : c ∈ patch := List.mem_of_mem_getLast? (hpatchLast ▸ hc)
    by_contra hws
    have hws := Bool.of_not_eq_false hws
    refine not_mem_of_parseU64 hpatch (isDigit_of_isWhitespace hws) ?_ hmem
    rintro rfl
    exact absurd hws (by decide)
  have htrim : trimChars (spaces ++ ((vs ++ (core ++ rest)) ++ r)) = vs ++ (core ++ rest) := by
    refine trimMatches_append hspaces hr ?_ ?_ (by simp [hcore])
    · intro c hc
      cases vs with
      | nil => exact (hhead c hc).1
      | cons d vs =>
        obtain rfl : d = c := by simpa using hc
        rw [hvs d List.mem_cons_self]
        decide
    · intro c hc
      rcases List.eq_nil_or_concat' rest with rfl | ⟨a, d, rfl⟩
      · refine hcoreLast c ?_
        rwa [List.append_nil, List.getLast?_append_of_ne_nil _ (by simp [hcore])] at hc
      · refine hlast c ?_
        simpa [List.getLast?_append] using hc
  have hvalue : (vs ++ (core ++ rest)).dropWhile (· = 'v') = core ++ rest := by
    rw [List.dropWhile_append_of_pos fun c hc => decide_eq_true (hvs c hc)]
    cases hcr : core ++ rest with
    | nil => rfl
    | cons c cs =>
      have hc := (hhead c (by rw [hcr]; rfl)).2
      simp [hc]
  refine ⟨if rest.drop 1 = [] then none else some (rest.drop 1), ?_⟩
  rw [hversion]
  refine parseVersion_of_core ?_ hmajor hminor hpatch hrest
  rw [htrim, hvalue, hcore]
  simp

/-! ### What the script reads -/

/-- Digits that decimal reads as a number below eight are read the same as octal. -/
theorem ofDigitChars_octal {digits : List Char} (hd : ∀ c ∈ digits, c.isDigit = true) (h : digitsValue digits < 8) :
    (∀ c ∈ digits, c.toNat - '0'.toNat < 8) ∧ Nat.ofDigitChars 8 digits 0 = digitsValue digits := by
  induction digits with
  | nil => simp [digitsValue]
  | cons c digits ih =>
    rw [digitsValue_cons] at h ⊢
    have ih := ih (fun d hd' => hd d (List.mem_cons_of_mem _ hd')) (by omega)
    rw [Nat.ofDigitChars_cons, Nat.mul_zero, Nat.zero_add]
    cases digits with
    | nil => simpa [digitsValue] using h
    | cons d digits =>
      -- a digit that others follow is zero
      have hpos : 0 < 10 ^ digits.length := Nat.pow_pos (by decide)
      have hzero : c.toNat - '0'.toNat = 0 := by
        rw [List.length_cons, Nat.pow_succ] at h
        by_contra hne
        have := Nat.mul_le_mul_right (10 ^ digits.length * 10) (Nat.one_le_iff_ne_zero.2 hne)
        omega
      rw [hzero, ih.2, Nat.zero_mul, Nat.zero_add]
      refine ⟨fun e he => ?_, rfl⟩
      rcases List.mem_cons.1 he with rfl | he
      · omega
      · exact ih.1 e he

theorem printfNumber_octal {invalid : List Char → Nat} {digits : List Char} (hd : ∀ c ∈ digits, c.isDigit = true)
    (hhead : digits.head? = some '0') (h : digitsValue digits < 8) : printfNumber invalid digits = digitsValue digits := by
  have hoctal := ofDigitChars_octal hd h
  have hall : digits.all (fun c => c.toNat - '0'.toNat < 8) = true := by simpa using hoctal.1
  simp only [printfNumber, hhead, if_true]
  rw [if_pos ⟨hall, by rw [hoctal.2]; omega⟩, hoctal.2]

theorem printfNumber_decimal {invalid : List Char → Nat} {digits : List Char} (hd : ∀ c ∈ digits, c.isDigit = true)
    (hhead : digits.head? ≠ some '0') (h : digitsValue digits < 2 ^ 63) : printfNumber invalid digits = digitsValue digits := by
  have hall : digits.all (fun c => c.toNat - '0'.toNat < 10) = true := by
    refine List.all_eq_true.2 fun c hc => decide_eq_true ?_
    have := digit_bounds (hd c hc)
    have : '9'.toNat = '0'.toNat + 9 := by decide
    omega
  have hvalue : Nat.ofDigitChars 10 digits 0 = digitsValue digits := Nat.ofDigitChars_eq_foldl
  simp only [printfNumber, hhead, if_false]
  rw [if_pos ⟨hall, by rw [hvalue]; exact h⟩, hvalue]

/-- A component that is not a numeral, or one of value zero, is zero. -/
theorem printfNumber_zero (invalid : List Char → Nat) {component : List Char}
    (h : component ≠ [] → component.all Char.isDigit = true → digitsValue component = 0) :
    printfNumber invalid (numeral component) = 0 := by
  by_cases hc : component ≠ [] ∧ component.all Char.isDigit = true
  · have hzero := h hc.1 hc.2
    have hd := List.all_eq_true.1 hc.2
    rw [numeral, if_pos hc]
    by_cases hhead : component.head? = some '0'
    · rw [printfNumber_octal hd hhead (by omega), hzero]
    · rw [printfNumber_decimal hd hhead (by omega), hzero]
  · rw [numeral, if_neg hc]
    exact printfNumber_octal (by decide) rfl (by decide)

/-- A plain numeral that is not zero is read as its number. -/
theorem PlainNumeral.printfNumber (invalid : List Char → Nat) {digits : List Char} {n : Nat} (h : PlainNumeral digits n)
    (hn : n ≠ 0) : printfNumber invalid (numeral digits) = n := by
  have hne : digits ≠ [] := by
    rintro rfl
    exact hn h.value.symm
  rw [numeral, if_pos ⟨hne, List.all_eq_true.2 h.allDigits⟩]
  by_cases hhead : digits.head? = some '0'
  · rw [printfNumber_octal h.allDigits hhead (by rw [h.value]; exact h.decimal hhead), h.value]
  · have := h.small
    rw [printfNumber_decimal h.allDigits hhead (by rw [h.value]; omega), h.value]

theorem dropV_cons (c : Char) (cs : List Char) : dropV (c :: cs) = if c = 'v' then cs else c :: cs := by
  by_cases hc : c = 'v'
  · subst hc
    simp [dropV, stripPrefix]
  · simp [dropV, stripPrefix, hc, Ne.symm hc]

theorem dropV_append {a : List Char} (h : '.' ∉ a) (b : List Char) : dropV (a ++ '.' :: b) = dropV a ++ '.' :: b := by
  cases a with
  | nil => rfl
  | cons c a => by_cases hc : c = 'v' <;> simp [dropV_cons, hc]

/-- What is dropped stands before the numeral. -/
theorem dropV_lead (lead : List Char) {rest : List Char} (h : rest.head? ≠ some 'v') :
    ∃ l, dropV (lead ++ rest) = l ++ rest ∧ ∀ c ∈ l, c ∈ lead := by
  cases lead with
  | nil =>
    refine ⟨[], ?_, by simp⟩
    cases rest with
    | nil => rfl
    | cons c rest =>
      have hc : c ≠ 'v' := by simpa using h
      simp [dropV_cons, hc]
  | cons c lead =>
    by_cases hc : c = 'v'
    · exact ⟨lead, by simp [dropV_cons, hc], fun d hd => List.mem_cons_of_mem _ hd⟩
    · exact ⟨c :: lead, by simp [dropV_cons, hc], fun d hd => hd⟩

theorem not_mem_dropV {a : List Char} (h : '.' ∉ a) : '.' ∉ dropV a := by
  obtain ⟨l, hl, hmem⟩ := dropV_lead a (show ([] : List Char).head? ≠ some 'v' by simp)
  rw [List.append_nil, List.append_nil] at hl
  rw [hl]
  exact fun hd => h (hmem _ hd)

theorem afterDot_append {a : List Char} (h : '.' ∉ a) (b : List Char) : afterDot (a ++ '.' :: b) = b := by
  rw [afterDot, splitOnce_append h]
  rfl

theorem takeWhile_dot {a : List Char} (h : '.' ∉ a) (b : List Char) : (a ++ '.' :: b).takeWhile (· ≠ '.') = a := by
  refine takeWhile_append (fun c hc => decide_eq_true ?_) (by simp)
  rintro rfl
  exact h hc

/-- The key of a text with two dots, from the texts between them. -/
theorem versionKey_append (invalid : List Char → Nat) {first second : List Char} (h₁ : '.' ∉ first) (h₂ : '.' ∉ second)
    (third : List Char) : versionKey invalid (first ++ '.' :: (second ++ '.' :: third)) =
      padDigits 6 (printfNumber invalid (numeral (dropV first))) ++ '.' ::
        (padDigits 6 (printfNumber invalid (numeral second)) ++ '.' ::
          padDigits 6 (printfNumber invalid (numeral (third.takeWhile fun c => c ≠ '-' ∧ c ≠ '+')))) := by
  simp only [versionKey]
  rw [dropV_append h₁, takeWhile_dot (not_mem_dropV h₁), afterDot_append (not_mem_dropV h₁), takeWhile_dot h₂, afterDot_append h₂]

/-- Before the first dot stand white space, `v`s and the major numeral. -/
theorem dot_not_mem_lead {spaces vs major : List Char} {n : Nat} (hspaces : ∀ c ∈ spaces, isWhitespace c = true)
    (hvs : ∀ c ∈ vs, c = 'v') (hmajor : parseU64 major = some n) : '.' ∉ (spaces ++ vs) ++ major := by
  intro hmem
  rcases List.mem_append.1 hmem with hmem | hmem
  · rcases List.mem_append.1 hmem with hmem | hmem
    · exact absurd (hspaces _ hmem) (by decide)
    · exact absurd (hvs _ hmem) (by decide)
  · exact not_mem_of_parseU64 hmajor (by decide) (by decide) hmem

theorem not_isDigit_lead {lead : List Char} (h : ∀ c ∈ lead, isWhitespace c = true ∨ c = 'v') : ∀ c ∈ lead, c.isDigit = false := by
  intro c hc
  rcases h c hc with hc | rfl
  · exact isDigit_of_isWhitespace hc
  · rfl

/-- A numeral that parses as zero has the value zero, or it has a plus sign. -/
theorem digitsValue_of_parseU64 {cs : List Char} {n : Nat} (h : parseU64 cs = some n) (hd : cs.all Char.isDigit = true) :
    digitsValue cs = n := by
  obtain ⟨plus, digits, rfl, rfl | rfl, -, -, hn⟩ := parseU64_cases h
  · exact hn
  · simp at hd

theorem dropV_digits {digits : List Char} (h : ∀ c ∈ digits, c.isDigit = true) : dropV digits = digits := by
  cases digits with
  | nil => rfl
  | cons c digits =>
    have hc : c ≠ 'v' := by
      rintro rfl
      exact absurd (h 'v' List.mem_cons_self) (by decide)
    simp [dropV_cons, hc]

/-- The first text is the major numeral, and what stands before it matters only if the number is not zero. -/
theorem printfNumber_major (invalid : List Char → Nat) {lead major : List Char} {n : Nat}
    (hlead : ∀ c ∈ lead, isWhitespace c = true ∨ c = 'v') (hmajor : parseU64 major = some n)
    (hplain : n ≠ 0 → ∃ lead' digits, lead ++ major = lead' ++ digits ∧ (lead' = [] ∨ lead' = ['v']) ∧ PlainNumeral digits n) :
    printfNumber invalid (numeral (dropV (lead ++ major))) = n := by
  by_cases hzero : n = 0
  · subst hzero
    refine printfNumber_zero invalid fun _ hall => ?_
    have hhead : major.head? ≠ some 'v' := fun hhead => (head_of_parseU64 hmajor hhead).2 rfl
    obtain ⟨l, hl, hmem⟩ := dropV_lead lead hhead
    rw [hl, List.all_append, Bool.and_eq_true] at hall
    have hnil : l = [] := List.eq_nil_iff_forall_not_mem.2 fun c hc => by
      simpa [List.all_eq_true.1 hall.1 c hc] using not_isDigit_lead hlead c (hmem c hc)
    rw [hl, hnil, List.nil_append, digitsValue_of_parseU64 hmajor hall.2]
  · obtain ⟨lead', digits, heq, hlead', hdigits⟩ := hplain hzero
    have hdrop : dropV (lead' ++ digits) = digits := by
      rcases hlead' with rfl | rfl
      · exact dropV_digits hdigits.allDigits
      · simp [dropV_cons]
    rw [heq, hdrop]
    exact hdigits.printfNumber invalid hzero

theorem printfNumber_minor (invalid : List Char → Nat) {minor : List Char} {n : Nat} (hminor : parseU64 minor = some n)
    (hplain : n ≠ 0 → PlainNumeral minor n) : printfNumber invalid (numeral minor) = n := by
  by_cases hzero : n = 0
  · subst hzero
    exact printfNumber_zero invalid fun _ hall => digitsValue_of_parseU64 hminor hall
  · exact (hplain hzero).printfNumber invalid hzero

theorem takeWhile_patch {digits tail : List Char} (hdigits : ∀ c ∈ digits, c.isDigit = true) :
    (digits ++ tail).takeWhile (fun c => c ≠ '-' ∧ c ≠ '+') = digits ++ tail.takeWhile fun c => c ≠ '-' ∧ c ≠ '+' := by
  refine List.takeWhile_append_of_pos fun c hc => decide_eq_true ⟨?_, ?_⟩
  · rintro rfl
    exact absurd (hdigits _ hc) (by decide)
  · rintro rfl
    exact absurd (hdigits _ hc) (by decide)

theorem takeWhile_hyphen {tail : List Char} (h : tail.head? = some '-') :
    (tail.takeWhile fun c => c ≠ '-' ∧ c ≠ '+') = [] := by
  cases tail with
  | nil => rfl
  | cons c tail =>
    obtain rfl : c = '-' := by simpa using h
    simp

/-- The third text is the patch numeral, and what stands after it matters only if the number is not zero. -/
theorem printfNumber_patch (invalid : List Char → Nat) {patch tail : List Char} {n : Nat}
    (htail : (∀ c ∈ tail, isWhitespace c = true) ∨ tail.head? = some '-') (hpatch : parseU64 patch = some n)
    (hplain : n ≠ 0 → ∃ digits tail', patch ++ tail = digits ++ tail' ∧ (tail' = [] ∨ tail'.head? = some '-') ∧
      PlainNumeral digits n) :
    printfNumber invalid (numeral ((patch ++ tail).takeWhile fun c => c ≠ '-' ∧ c ≠ '+')) = n := by
  by_cases hzero : n = 0
  · subst hzero
    refine printfNumber_zero invalid fun hne hall => ?_
    obtain ⟨plus, digits, rfl, rfl | rfl, -, hd, hn⟩ := parseU64_cases hpatch
    · rw [List.nil_append, takeWhile_patch hd] at hall ⊢
      rw [List.all_append, Bool.and_eq_true] at hall
      have hnil : (tail.takeWhile fun c => c ≠ '-' ∧ c ≠ '+') = [] := by
        rcases htail with htail | htail
        · refine List.eq_nil_iff_forall_not_mem.2 fun c hc => ?_
          have hws := isDigit_of_isWhitespace (htail c (List.takeWhile_subset _ hc))
          simp [List.all_eq_true.1 hall.2 c hc] at hws
        · exact takeWhile_hyphen htail
      rw [hnil, List.append_nil, hn]
    · simp at hne
  · obtain ⟨digits, tail', heq, htail', hdigits⟩ := hplain hzero
    have hnil : (tail'.takeWhile fun c => c ≠ '-' ∧ c ≠ '+') = [] := by
      rcases htail' with rfl | htail'
      · rfl
      · exact takeWhile_hyphen htail'
    rw [heq, takeWhile_patch hdigits.allDigits, hnil, List.append_nil]
    exact hdigits.printfNumber invalid hzero

variable {version : List Char} {v : ParsedVersion}

/-- The script reads a plain version as the verifier does. -/
theorem versionKey_eq (invalid : List Char → Nat) (hparse : parseVersion version = .ok v) (h : Plain version v) :
    versionKey invalid version = padDigits 6 v.major ++ '.' :: (padDigits 6 v.minor ++ '.' :: padDigits 6 v.patch) := by
  obtain ⟨spaces, vs, major, minor, patch, tail, heq, hspaces, hvs, htail, hmajor, hminor, hpatch⟩ := spelled_of_parseVersion hparse
  have hlead : ∀ c ∈ spaces ++ vs, isWhitespace c = true ∨ c = 'v' := by
    intro c hc
    rcases List.mem_append.1 hc with hc | hc
    · exact Or.inl (hspaces c hc)
    · exact Or.inr (hvs c hc)
  have heq : version = ((spaces ++ vs) ++ major) ++ '.' :: (minor ++ '.' :: (patch ++ tail)) := by
    rw [heq, List.append_assoc, List.append_assoc]
  have hdot₁ := dot_not_mem_lead hspaces hvs hmajor
  have hdot₂ : '.' ∉ minor := not_mem_of_parseU64 hminor (by decide) (by decide)
  have hdigits {digits : List Char} {n : Nat} (h : PlainNumeral digits n) : '.' ∉ digits :=
    fun hmem => absurd (h.allDigits _ hmem) (by decide)
  rw [heq, versionKey_append invalid hdot₁ hdot₂, printfNumber_major invalid hlead hmajor, printfNumber_minor invalid hminor,
    printfNumber_patch invalid htail hpatch]
  · intro hzero
    obtain ⟨first, second, digits, tail', heq', hdot, hdot', htail', hplain⟩ := h.patch hzero
    obtain ⟨-, hrest⟩ := cut_unique hdot₁ hdot (heq.symm.trans heq')
    exact ⟨digits, tail', (cut_unique hdot₂ hdot' hrest).2, htail', hplain⟩
  · intro hzero
    obtain ⟨before, digits, rest, heq', hdot, hplain⟩ := h.minor hzero
    obtain ⟨-, hrest⟩ := cut_unique hdot₁ hdot (heq.symm.trans heq')
    rwa [(cut_unique hdot₂ (hdigits hplain) hrest).1]
  · intro hzero
    obtain ⟨lead', digits, rest, heq', hlead', hplain⟩ := h.major hzero
    have hdot : '.' ∉ lead' ++ digits := by
      rcases hlead' with rfl | rfl <;> simp [hdigits hplain]
    rw [← List.append_assoc lead'] at heq'
    exact ⟨lead', digits, (cut_unique hdot₁ hdot (heq.symm.trans heq')).1, hlead', hplain⟩

theorem Plain.small (h : Plain version v) : v.major < 10 ^ 6 ∧ v.minor < 10 ^ 6 ∧ v.patch < 10 ^ 6 := by
  refine ⟨?_, ?_, ?_⟩
  · by_cases hzero : v.major = 0
    · omega
    · obtain ⟨_, _, _, _, _, hplain⟩ := h.major hzero
      exact hplain.small
  · by_cases hzero : v.minor = 0
    · omega
    · obtain ⟨_, _, _, _, _, hplain⟩ := h.minor hzero
      exact hplain.small
  · by_cases hzero : v.patch = 0
    · omega
    · obtain ⟨_, _, _, _, _, _, _, _, hplain⟩ := h.patch hzero
      exact hplain.small

/-- On plain versions the order of the keys is the order of the cores. -/
theorem versionKey_lt_iff (invalid : List Char → Nat) {a b : List Char} {va vb : ParsedVersion} (ha : parseVersion a = .ok va)
    (hb : parseVersion b = .ok vb) (hpa : Plain a va) (hpb : Plain b vb) :
    versionKey invalid a < versionKey invalid b ↔ va.core < vb.core := by
  obtain ⟨ha₁, ha₂, ha₃⟩ := hpa.small
  obtain ⟨hb₁, hb₂, hb₃⟩ := hpb.small
  rw [versionKey_eq invalid ha hpa, versionKey_eq invalid hb hpb, ParsedVersion.core_lt_iff,
    column_lt_iff (by decide) ha₁ hb₁, column_lt_iff (by decide) ha₂ hb₂, padDigits_lt_iff (by decide) ha₃ hb₃]

end SuderraOs.Install
