import Mathlib.Data.List.Forall2
import SuderraOs.Lib.Digits

/-!
# Semantic versions

The grammar and the precedence of Semantic Versioning 2.0.0, for versions without build metadata. A text is related to the version
it spells (`IsVersion`), and the core of the text is found in one way only (`core_unique`). Precedence is the relation of section 11
(`Version.Lower`); on lists of identifiers it is the lexicographic order (`preLower_iff_lex`).
-/

namespace SuderraOs.SemVer

open Text

/-- An identifier of a prerelease. -/
inductive Identifier where
  | numeric (n : Nat)
  | alphanumeric (s : String)
  deriving DecidableEq, Repr

/-- A version; one without prerelease identifiers is a release. -/
structure Version where
  major : Nat
  minor : Nat
  patch : Nat
  pre : List Identifier
  deriving DecidableEq, Repr

/-! ## The grammar -/

/-- A numeric identifier of value `n`: digits that start with zero only if they are zero alone. -/
structure IsNumeric (cs : List Char) (n : Nat) : Prop where
  ne_nil : cs ≠ []
  digits : ∀ c ∈ cs, c.isDigit = true
  leading : cs.head? = some '0' → cs = ['0']
  value : digitsValue cs = n

/-- The letters, the digits and the hyphen. -/
def isIdentifierChar (c : Char) : Bool := c.isAlphanum || c == '-'

/-- A prerelease identifier: numeric, or with a character that is not a digit. -/
inductive IsIdentifier : List Char → Identifier → Prop where
  | numeric {cs : List Char} {n : Nat} (h : IsNumeric cs n) : IsIdentifier cs (.numeric n)
  | alphanumeric {cs : List Char} (h : ∀ c ∈ cs, isIdentifierChar c = true) (hletter : ∃ c ∈ cs, c.isDigit = false) :
      IsIdentifier cs (.alphanumeric (String.ofList cs))

/-- What follows the core: nothing, or a hyphen and identifiers between dots. -/
inductive IsPrerelease : List Char → List Identifier → Prop where
  | release : IsPrerelease [] []
  | identifiers {parts : List (List Char)} {ids : List Identifier} (hne : ids ≠ []) (h : List.Forall₂ IsIdentifier parts ids) :
      IsPrerelease ('-' :: ['.'].intercalate parts) ids

/-- A text that spells a version: three numeric identifiers between dots, and the prerelease. -/
def IsVersion (cs : List Char) (v : Version) : Prop :=
  ∃ major minor patch pre, cs = major ++ '.' :: (minor ++ '.' :: (patch ++ pre)) ∧ IsNumeric major v.major ∧
    IsNumeric minor v.minor ∧ IsNumeric patch v.patch ∧ IsPrerelease pre v.pre

/-- A number is below the bound, if the identifier is one. -/
def Identifier.Fits (bound : Nat) : Identifier → Prop
  | .numeric n => n < bound
  | .alphanumeric _ => True

/-- Every number of a version is below the bound. -/
structure Version.Fits (bound : Nat) (v : Version) : Prop where
  major : v.major < bound
  minor : v.minor < bound
  patch : v.patch < bound
  pre : ∀ id ∈ v.pre, id.Fits bound

/-! ## Precedence -/

/-- Numbers are compared as numbers and are below texts, and texts are compared in the order of their characters. -/
inductive Identifier.Lower : Identifier → Identifier → Prop where
  | numeric {m n : Nat} (h : m < n) : Lower (.numeric m) (.numeric n)
  | mixed (n : Nat) (s : String) : Lower (.numeric n) (.alphanumeric s)
  | alphanumeric {s t : String} (h : s < t) : Lower (.alphanumeric s) (.alphanumeric t)

/-- Identifiers are compared from left to right until two differ; if none do, the longer list is above. -/
inductive PreLower : List Identifier → List Identifier → Prop where
  | differ (common : List Identifier) {x y : Identifier} (as bs : List Identifier) (h : x.Lower y) :
      PreLower (common ++ x :: as) (common ++ y :: bs)
  | longer (common : List Identifier) {more : List Identifier} (h : more ≠ []) : PreLower common (common ++ more)

/-- Major, minor and patch are compared in turn. -/
def Version.CoreLower (v w : Version) : Prop :=
  v.major < w.major ∨ v.major = w.major ∧ (v.minor < w.minor ∨ v.minor = w.minor ∧ v.patch < w.patch)

def Version.SameCore (v w : Version) : Prop := v.major = w.major ∧ v.minor = w.minor ∧ v.patch = w.patch

/-- Precedence: the core first; then a release is above its prereleases; then the identifiers of the prereleases. -/
inductive Version.Lower (v w : Version) : Prop where
  | core (h : v.CoreLower w) : Lower v w
  | release (h : v.SameCore w) (hv : v.pre ≠ []) (hw : w.pre = []) : Lower v w
  | prerelease (h : v.SameCore w) (hv : v.pre ≠ []) (hw : w.pre ≠ []) (hpre : PreLower v.pre w.pre) : Lower v w

theorem preLower_iff_lex {a b : List Identifier} : PreLower a b ↔ List.Lex Identifier.Lower a b := by
  constructor
  · rintro (⟨common, as, bs, h⟩ | ⟨_, h⟩)
    · induction common with
      | nil => exact .rel h
      | cons c common ih => exact .cons ih
    · induction a with
      | nil =>
        obtain ⟨x, more, rfl⟩ := List.exists_cons_of_ne_nil h
        exact .nil
      | cons c common ih => exact .cons ih
  · intro h
    induction h with
    | nil => exact .longer [] (by simp)
    | rel h => exact .differ [] _ _ h
    | @cons c _ _ _ ih =>
      rcases ih with ⟨common, as, bs, h⟩ | ⟨_, h⟩
      · exact .differ (c :: common) as bs h
      · exact .longer (c :: _) h

/-! ## Numeric identifiers in a text -/

section

variable {cs : List Char} {n : Nat}

theorem IsNumeric.not_mem (h : IsNumeric cs n) {c : Char} (hc : c.isDigit = false) : c ∉ cs := by
  intro hmem
  rw [h.digits c hmem] at hc
  exact absurd hc (by decide)

/-- Digits are zeros and a numeric identifier of the same value. -/
theorem exists_numeric (hne : cs ≠ []) (hd : ∀ c ∈ cs, c.isDigit = true) :
    ∃ zeros digits, cs = zeros ++ digits ∧ (∀ c ∈ zeros, c = '0') ∧ IsNumeric digits (digitsValue cs) := by
  induction cs with
  | nil => exact absurd rfl hne
  | cons c cs ih =>
    by_cases hzero : c = '0' ∧ cs ≠ []
    · obtain ⟨rfl, hcs⟩ := hzero
      obtain ⟨zeros, digits, heq, hzeros, hnum⟩ := ih hcs fun d hmem => hd d (List.mem_cons_of_mem _ hmem)
      refine ⟨'0' :: zeros, digits, by rw [heq, List.cons_append], ?_, ?_⟩
      · intro d hmem
        rcases List.mem_cons.1 hmem with rfl | hmem
        · rfl
        · exact hzeros d hmem
      · rw [digitsValue_cons, Nat.sub_self, Nat.zero_mul, Nat.zero_add]
        exact hnum
    · refine ⟨[], c :: cs, rfl, by simp, ⟨hne, hd, fun hhead => ?_, rfl⟩⟩
      obtain rfl : c = '0' := by simpa using hhead
      rw [not_and, not_not] at hzero
      rw [hzero rfl]

/-- Zeros in front of a numeric identifier do not change its value. -/
theorem digitsValue_zeros {zeros : List Char} (h : ∀ c ∈ zeros, c = '0') (cs : List Char) :
    digitsValue (zeros ++ cs) = digitsValue cs := by
  induction zeros with
  | nil => rfl
  | cons c zeros ih =>
    obtain rfl := h c List.mem_cons_self
    rw [List.cons_append, digitsValue_cons, Nat.sub_self, Nat.zero_mul, Nat.zero_add]
    exact ih fun d hd => h d (List.mem_cons_of_mem _ hd)

end

/-! ## Identifiers in a text -/

theorem isIdentifierChar_of_isDigit {c : Char} (h : c.isDigit = true) : isIdentifierChar c = true := by
  simp [isIdentifierChar, Char.isAlphanum, h]

theorem isWhitespace_of_isIdentifierChar {c : Char} (h : isIdentifierChar c = true) : isWhitespace c = false := by
  by_contra hws
  have hws := Bool.of_not_eq_false hws
  simp only [isWhitespace, Bool.or_eq_true, Bool.and_eq_true, decide_eq_true_eq, beq_iff_eq] at hws
  simp only [isIdentifierChar, Char.isAlphanum, Bool.or_eq_true, beq_iff_eq] at h
  rcases h with (h | h) | rfl
  · have hletter : 65 ≤ c.toNat ∧ c.toNat ≤ 122 := by
      have hcases : (c.isUpper || c.isLower) = true := h
      rcases Bool.or_eq_true_iff.1 hcases with h | h
      · have hupper : decide ('A'.val ≤ c.val ∧ c.val ≤ 'Z'.val) = true := h
        have hbounds : 'A'.toNat ≤ c.toNat ∧ c.toNat ≤ 'Z'.toNat := by simpa [UInt32.le_iff_toNat_le] using hupper
        simp only [show 'A'.toNat = 65 from rfl, show 'Z'.toNat = 90 from rfl] at hbounds
        omega
      · have hlower : (decide ('a'.val ≤ c.val) && decide (c.val ≤ 'z'.val)) = true := h
        have hbounds : 'a'.toNat ≤ c.toNat ∧ c.toNat ≤ 'z'.toNat := by simpa [UInt32.le_iff_toNat_le] using hlower
        simp only [show 'a'.toNat = 97 from rfl, show 'z'.toNat = 122 from rfl] at hbounds
        omega
    omega
  · have hbounds := digit_bounds h
    simp only [show '0'.toNat = 48 from rfl, show '9'.toNat = 57 from rfl] at hbounds
    omega
  · exact absurd hws (by decide)

section

variable {cs : List Char} {id : Identifier}

theorem IsIdentifier.chars (h : IsIdentifier cs id) : ∀ c ∈ cs, isIdentifierChar c = true := by
  cases h with
  | numeric h => exact fun c hc => isIdentifierChar_of_isDigit (h.digits c hc)
  | alphanumeric h _ => exact h

theorem IsIdentifier.ne_nil (h : IsIdentifier cs id) : cs ≠ [] := by
  cases h with
  | numeric h => exact h.ne_nil
  | alphanumeric _ hletter =>
    obtain ⟨c, hc, -⟩ := hletter
    exact List.ne_nil_of_mem hc

/-- Identifiers stand between the dots of a text. -/
theorem IsIdentifier.dot_not_mem (h : IsIdentifier cs id) : '.' ∉ cs :=
  fun hmem => absurd (h.chars '.' hmem) (by decide)

end

theorem IsPrerelease.head {pre : List Char} {ids : List Identifier} (h : IsPrerelease pre ids) : pre = [] ∨ pre.head? = some '-' := by
  cases h with
  | release => exact Or.inl rfl
  | identifiers _ _ => exact Or.inr rfl

/-- The core of a text is found in one way only. -/
theorem core_unique {major minor patch pre major' minor' patch' pre' : List Char} (hmajor : '.' ∉ major) (hmajor' : '.' ∉ major')
    (hminor : '.' ∉ minor) (hminor' : '.' ∉ minor') (hpatch : '-' ∉ patch) (hpatch' : '-' ∉ patch')
    (hpre : pre = [] ∨ pre.head? = some '-') (hpre' : pre' = [] ∨ pre'.head? = some '-')
    (h : major ++ '.' :: (minor ++ '.' :: (patch ++ pre)) = major' ++ '.' :: (minor' ++ '.' :: (patch' ++ pre'))) :
    major = major' ∧ minor = minor' ∧ patch = patch' ∧ pre = pre' := by
  obtain ⟨hmaj, hrest⟩ := cut_unique hmajor hmajor' h
  obtain ⟨hmin, hlast⟩ := cut_unique hminor hminor' hrest
  have htake {a b : List Char} (ha : '-' ∉ a) (hb : b = [] ∨ b.head? = some '-') : (a ++ b).takeWhile (· ≠ '-') = a := by
    refine takeWhile_append (fun c hc => decide_eq_true ?_) ?_
    · rintro rfl
      exact ha hc
    · rcases hb with rfl | hb
      · rfl
      · simp [hb]
  have hpat : patch = patch' := by rw [← htake hpatch hpre, hlast, htake hpatch' hpre']
  rw [hpat] at hlast
  exact ⟨hmaj, hmin, hpat, List.append_cancel_left hlast⟩

end SuderraOs.SemVer
