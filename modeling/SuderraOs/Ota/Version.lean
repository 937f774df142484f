import SuderraOs.Lib.Text

/-!
# Versions

`ParsedVersion` of `suderra-ota`: the parser of a SemVer string and the order `compare_versions` decides. The order is a
lexicographic one over numbers, an optional prerelease that sorts below no prerelease, and prerelease identifiers compared
one by one; `ParsedVersion.cmp` is shown to be such a composition, and its transitivity is the composition's.
-/

namespace SuderraOs.Ota

open Text

/-- The message of an error, as `err.to_string()` gives it: the outermost context. -/
abbrev Error := String

inductive PrereleaseIdentifier where
  | numeric (n : Nat)
  | text (s : String)
  deriving DecidableEq, Repr

/-- A parsed version; every number fits in 64 bits because `parseU64` made it. -/
structure ParsedVersion where
  major : Nat
  minor : Nat
  patch : Nat
  pre : Option (List PrereleaseIdentifier)
  deriving DecidableEq, Repr

/-! ## Parsing -/

/-- One part of the numeric core. -/
def parseVersionPart (part : Option (List Char)) (original : List Char) : Except Error Nat :=
  match part.bind parseU64 with
  | some n => .ok n
  | none => .error s!"unsupported SemVer version: {String.ofList original}"

/-- One identifier of a prerelease; `value` is the whole prerelease, for the message. -/
def parseIdentifier (value part : List Char) : Except Error PrereleaseIdentifier :=
  if part = [] then .error s!"unsupported SemVer prerelease: {String.ofList value}"
  else if part.all Char.isDigit then
    if 1 < part.length ∧ part.head? = some '0' then
      .error "numeric SemVer prerelease identifiers must not contain leading zeroes"
    else
      match parseU64 part with
      | some n => .ok (.numeric n)
      | none => .error "number too large to fit in target type"
  else if part.all (fun c => c.isAlphanum || c == '-') then .ok (.text (String.ofList part))
  else .error s!"unsupported SemVer prerelease: {String.ofList value}"

def parsePrerelease (value : List Char) : Except Error (List PrereleaseIdentifier) :=
  if trimChars value = [] then .error s!"unsupported SemVer prerelease: {String.ofList value}"
  else (value.splitOn '.').mapM (parseIdentifier value)

/-- The text a version is parsed from: trimmed, and one leading `v` removed. -/
def versionText (value : String) : List Char :=
  let cs := trimChars value.toList
  (stripPrefix ['v'] cs).getD cs

def ParsedVersion.parse (value : String) : Except Error ParsedVersion := do
  let value := versionText value
  let (numbers, pre) := match splitOnce '-' value with
    | some (left, right) => (left, some right)
    | none => (value, none)
  let parts := numbers.splitOn '.'
  let major ← parseVersionPart parts[0]? value
  let minor ← parseVersionPart parts[1]? value
  let patch ← parseVersionPart parts[2]? value
  if parts[3]?.isSome then
    .error s!"unsupported SemVer version: {String.ofList value}"
  else
    match pre with
    | none => .ok ⟨major, minor, patch, none⟩
    | some pre => (parsePrerelease pre).map fun ids => ⟨major, minor, patch, some ids⟩

/-! ## The order -/

def PrereleaseIdentifier.cmp : PrereleaseIdentifier → PrereleaseIdentifier → Ordering
  | .numeric left, .numeric right => compare left right
  | .numeric _, .text _ => .lt
  | .text _, .numeric _ => .gt
  | .text left, .text right => compare left right

/-- The loop of `compare_prerelease` over the zipped identifiers: the first pair that differs decides. -/
def firstDifference : List (PrereleaseIdentifier × PrereleaseIdentifier) → Option Ordering
  | [] => none
  | (left, right) :: rest => if left.cmp right ≠ .eq then some (left.cmp right) else firstDifference rest

def comparePrerelease (left right : List PrereleaseIdentifier) : Ordering :=
  (firstDifference (left.zip right)).getD (compare left.length right.length)

/-- The order of the optional prereleases: a version without one is above every version that has one. -/
def comparePre : Option (List PrereleaseIdentifier) → Option (List PrereleaseIdentifier) → Ordering
  | none, none => .eq
  | none, some _ => .gt
  | some _, none => .lt
  | some left, some right => comparePrerelease left right

def ParsedVersion.cmp (a b : ParsedVersion) : Ordering :=
  (compareLex (compareOn (·.major)) (compareLex (compareOn (·.minor)) (compareOn (·.patch))) a b).then
    (comparePre a.pre b.pre)

def compareVersions (a b : String) : Except Error Ordering := do
  let a ← ParsedVersion.parse a
  let b ← ParsedVersion.parse b
  .ok (a.cmp b)

/-! ## The order is transitive -/

instance : Std.TransCmp PrereleaseIdentifier.cmp where
  eq_swap {a b} := by
    cases a <;> cases b <;> first | rfl | exact Std.OrientedOrd.eq_swap
  isLE_trans {a b c} hab hbc := by
    cases a <;> cases b <;> cases c <;> first
      | rfl
      | exact Std.TransOrd.isLE_trans hab hbc
      | exact absurd hab Bool.false_ne_true
      | exact absurd hbc Bool.false_ne_true

/-- The zip loop with its length tie-break is the lexicographic order of the two lists. -/
theorem comparePrerelease_eq (left right : List PrereleaseIdentifier) :
    comparePrerelease left right = List.compareLex PrereleaseIdentifier.cmp left right := by
  induction left generalizing right with
  | nil =>
    cases right with
    | nil => rfl
    | cons r right => exact Nat.compare_eq_lt.2 (Nat.succ_pos _)
  | cons l left ih =>
    cases right with
    | nil => exact Nat.compare_eq_gt.2 (Nat.succ_pos _)
    | cons r right =>
      have ih := ih right
      simp only [comparePrerelease, List.zip_cons_cons, firstDifference, List.length_cons] at ih ⊢
      rw [List.compareLex_cons_cons, ← ih]
      have hlen : compare (left.length + 1) (right.length + 1) = compare left.length right.length := by
        simp only [Nat.compare_eq_ite_lt, Nat.add_lt_add_iff_right]
      cases h : l.cmp r <;> simp [hlen]

instance : Std.TransCmp comparePrerelease := by
  rw [show comparePrerelease = List.compareLex PrereleaseIdentifier.cmp from
    funext fun l => funext fun r => comparePrerelease_eq l r]
  infer_instance

instance : Std.TransCmp comparePre where
  eq_swap {a b} := by
    cases a <;> cases b <;> first | rfl | exact (inferInstance : Std.OrientedCmp comparePrerelease).eq_swap
  isLE_trans {a b c} hab hbc := by
    cases a <;> cases b <;> cases c <;> first
      | rfl
      | exact (inferInstance : Std.TransCmp comparePrerelease).isLE_trans hab hbc
      | exact absurd hab Bool.false_ne_true
      | exact absurd hbc Bool.false_ne_true

instance : Std.TransCmp (fun a b : ParsedVersion => comparePre a.pre b.pre) where
  eq_swap := (inferInstance : Std.OrientedCmp comparePre).eq_swap
  isLE_trans := (inferInstance : Std.TransCmp comparePre).isLE_trans

instance : Std.TransCmp ParsedVersion.cmp :=
  inferInstanceAs (Std.TransCmp (compareLex
    (compareLex (compareOn (·.major)) (compareLex (compareOn (·.minor)) (compareOn (·.patch))))
    (fun a b : ParsedVersion => comparePre a.pre b.pre)))

/-! ## Versions as strings -/

/-- `a` is at most `b`: both parse, and the order puts `a` at or below `b`. -/
def VersionLe (a b : String) : Prop :=
  ∃ va vb, ParsedVersion.parse a = .ok va ∧ ParsedVersion.parse b = .ok vb ∧ (va.cmp vb).isLE = true

theorem VersionLe.trans {a b c : String} (hab : VersionLe a b) (hbc : VersionLe b c) : VersionLe a c := by
  obtain ⟨va, vb, ha, hb, hle⟩ := hab
  obtain ⟨vb', vc, hb', hc, hle'⟩ := hbc
  obtain rfl : vb = vb' := Except.ok.inj (hb.symm.trans hb')
  exact ⟨va, vc, ha, hc, Std.TransCmp.isLE_trans hle hle'⟩

/-- A version that parses is at most itself. -/
theorem VersionLe.refl_of_parse {a : String} {v : ParsedVersion} (h : ParsedVersion.parse a = .ok v) : VersionLe a a :=
  ⟨v, v, h, h, Std.ReflCmp.isLE_rfl⟩

/-- The upper version of a comparison parses. -/
theorem VersionLe.right_parses {a b : String} (h : VersionLe a b) : ∃ v, ParsedVersion.parse b = .ok v := by
  obtain ⟨_, vb, _, hb, _⟩ := h
  exact ⟨vb, hb⟩

/-- A comparison that succeeds parsed both versions. -/
theorem compareVersions_ok {a b : String} {o : Ordering} (h : compareVersions a b = .ok o) :
    ∃ va vb, ParsedVersion.parse a = .ok va ∧ ParsedVersion.parse b = .ok vb ∧ va.cmp vb = o := by
  cases ha : ParsedVersion.parse a with
  | error e => simp [compareVersions, ha, bind, Except.bind] at h
  | ok va =>
    cases hb : ParsedVersion.parse b with
    | error e => simp [compareVersions, ha, hb, bind, Except.bind] at h
    | ok vb =>
      simp only [compareVersions, ha, hb, bind, Except.bind, Except.ok.injEq] at h
      exact ⟨va, vb, rfl, rfl, h⟩

/-- A version that is not below another is at least it. -/
theorem versionLe_of_not_lt {a b : String} {o : Ordering} (h : compareVersions a b = .ok o) (ho : o ≠ .lt) :
    VersionLe b a := by
  obtain ⟨va, vb, ha, hb, rfl⟩ := compareVersions_ok h
  refine ⟨vb, va, hb, ha, ?_⟩
  rw [show vb.cmp va = (va.cmp vb).swap from Std.OrientedCmp.eq_swap]
  cases hc : va.cmp vb <;> simp_all

/-- A version that is not above another is at most it. -/
theorem versionLe_of_not_gt {a b : String} {o : Ordering} (h : compareVersions a b = .ok o) (ho : o ≠ .gt) :
    VersionLe a b := by
  obtain ⟨va, vb, ha, hb, rfl⟩ := compareVersions_ok h
  refine ⟨va, vb, ha, hb, ?_⟩
  cases hc : va.cmp vb <;> simp_all

/-- At least is the outcome of a comparison: equal or greater. -/
theorem compareVersions_of_le {a b : String} (h : VersionLe b a) :
    ∃ o, compareVersions a b = .ok o ∧ o ≠ .lt := by
  obtain ⟨vb, va, hb, ha, hle⟩ := h
  refine ⟨va.cmp vb, by simp [compareVersions, ha, hb, bind, Except.bind], fun hlt => ?_⟩
  rw [show vb.cmp va = (va.cmp vb).swap from Std.OrientedCmp.eq_swap, hlt] at hle
  exact absurd hle Bool.false_ne_true

end SuderraOs.Ota
