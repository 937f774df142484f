import SuderraOs.Install.EdgeVersion
import SuderraOs.Ota.SemVer

/-!
# The two orders of versions

`compare_versions` of `suderra-installer` keeps the prerelease as text and reads its segments again at each comparison;
`compare_versions` of `suderra-ota` compares identifiers it has read once. On what `suderra-ota` reads the two agree.
-/

namespace SuderraOs.Install

open Text SemVer

/-- What is read of a segment is the identifier: a number of the grammar, or no number at all. -/
theorem parseU64_of_identifier {value part : List Char} {id : Ota.PrereleaseIdentifier}
    (h : Ota.parseIdentifier value part = .ok id) :
    (∃ n, id = .numeric n ∧ parseU64 part = some n) ∨ (id = .text (String.ofList part) ∧ parseU64 part = none) := by
  obtain ⟨hid, hfits⟩ := Ota.parseIdentifier_ok_iff.1 h
  cases id with
  | numeric n =>
    cases hid with
    | numeric hnum => exact Or.inl ⟨n, rfl, Ota.parseU64_iff.2 ⟨hfits, [], part, rfl, Ota.isPadding_nil, hnum⟩⟩
  | text s =>
    cases hid with
    | alphanumeric hchars hletter =>
      refine Or.inr ⟨rfl, ?_⟩
      obtain ⟨c, hc, hdigit⟩ := hletter
      cases hread : parseU64 part with
      | none => rfl
      | some n =>
        refine absurd hc (not_mem_of_parseU64 hread hdigit ?_)
        rintro rfl
        exact absurd (hchars '+' hc) (by decide)

/-- Segments compare as the identifiers read of them. -/
theorem compareSegment_eq {left right l r : List Char} {x y : Ota.PrereleaseIdentifier}
    (hx : Ota.parseIdentifier left l = .ok x) (hy : Ota.parseIdentifier right r = .ok y) : compareSegment l r = x.cmp y := by
  unfold compareSegment
  rcases parseU64_of_identifier hx with ⟨m, rfl, hl⟩ | ⟨rfl, hl⟩ <;>
    rcases parseU64_of_identifier hy with ⟨n, rfl, hr⟩ | ⟨rfl, hr⟩ <;> rw [hl, hr] <;> rfl

theorem comparePrereleaseSegments_eq {left right : List Char} {ls rs : List (List Char)} {xs ys : List Ota.PrereleaseIdentifier}
    (hx : List.Forall₂ (fun l x => Ota.parseIdentifier left l = .ok x) ls xs)
    (hy : List.Forall₂ (fun r y => Ota.parseIdentifier right r = .ok y) rs ys) :
    comparePrereleaseSegments ls rs = Ota.comparePrerelease xs ys := by
  rw [Ota.comparePrerelease_eq]
  induction hx generalizing rs ys with
  | nil => cases hy <;> rfl
  | cons h _ ih =>
    cases hy with
    | nil => rfl
    | cons h' hy => rw [comparePrereleaseSegments, compareSegment_eq h h', ih hy, List.compareLex_cons_cons]

/-- The prerelease the installer keeps is the one `suderra-ota` read. -/
def SamePre (pre : Option (List Char)) (ids : Option (List Ota.PrereleaseIdentifier)) : Prop :=
  pre = none ∧ ids = none ∨ ∃ value read, pre = some value ∧ ids = some read ∧ Ota.parsePrerelease value = .ok read

theorem comparePrerelease_eq {left right : Option (List Char)} {ls rs : Option (List Ota.PrereleaseIdentifier)}
    (hl : SamePre left ls) (hr : SamePre right rs) : comparePrerelease left right = Ota.comparePre ls rs := by
  have hids {value : List Char} {read : List Ota.PrereleaseIdentifier} (h : Ota.parsePrerelease value = .ok read) :
      List.Forall₂ (fun part id => Ota.parseIdentifier value part = .ok id) (value.splitOn '.') read := by
    unfold Ota.parsePrerelease at h
    split_ifs at h
    exact mapM_ok_iff.1 h
  rcases hl with ⟨rfl, rfl⟩ | ⟨l, xs, rfl, rfl, hxs⟩ <;> rcases hr with ⟨rfl, rfl⟩ | ⟨r, ys, rfl, rfl, hys⟩
  · rfl
  · rfl
  · rfl
  · exact comparePrereleaseSegments_eq (hids hxs) (hids hys)

/-- After the first `v` no other stands in front of a core. -/
theorem dropWhile_v {version : String} {c : Char} {rest : List Char} (h : Ota.versionText version = c :: rest) (hc : c ≠ 'v') :
    (trimChars version.toList).dropWhile (· = 'v') = c :: rest := by
  unfold Ota.versionText at h
  extract_lets cs at h
  cases hstrip : stripPrefix ['v'] cs with
  | none =>
    rw [hstrip, Option.getD_none] at h
    show cs.dropWhile (· = 'v') = c :: rest
    rw [h]
    simp [hc]
  | some text =>
    rw [hstrip, Option.getD_some] at h
    have hcs := stripPrefix_eq_some.1 hstrip
    show cs.dropWhile (· = 'v') = c :: rest
    rw [hcs, h]
    simp [hc]

/-- What `suderra-ota` reads the installer reads, with the same core and the same prerelease. -/
theorem parseVersion_of_parse {version : String} {v : Ota.ParsedVersion} (h : Ota.ParsedVersion.parse version = .ok v) :
    ∃ pre, parseVersion version.toList = .ok ⟨v.major, v.minor, v.patch, pre⟩ ∧ SamePre pre v.pre := by
  obtain ⟨rest, ⟨major, minor, patch, htext, hmajor, hminor, hpatch⟩, hrest⟩ := Ota.parse_ok_iff.1 h
  obtain ⟨c, cs, rfl⟩ := List.exists_cons_of_ne_nil (ne_nil_of_parseU64 hmajor)
  rw [List.cons_append] at htext
  have hdrop := dropWhile_v htext (head_of_parseU64 hmajor rfl).2
  rcases hrest with ⟨rfl, hnone⟩ | ⟨value, ids, rfl, hids, hparse⟩
  · exact ⟨none, parseVersion_of_core hdrop hmajor hminor hpatch (Or.inl rfl), Or.inl ⟨rfl, hnone⟩⟩
  · have hvalue : value ≠ [] := by
      rintro rfl
      simp [Ota.parsePrerelease, trimChars, trimMatches] at hparse
    refine ⟨some value, ?_, Or.inr ⟨value, ids, rfl, hids, hparse⟩⟩
    have hread := parseVersion_of_core hdrop hmajor hminor hpatch (Or.inr rfl)
    rwa [List.drop_succ_cons, List.drop_zero, if_neg hvalue] at hread

/-- On every two versions that `suderra-ota` reads, both comparisons succeed and return the same order. -/
theorem compareVersions_agree {a b : String} {v w : Ota.ParsedVersion} (ha : Ota.ParsedVersion.parse a = .ok v)
    (hb : Ota.ParsedVersion.parse b = .ok w) :
    ∃ o, Ota.compareVersions a b = .ok o ∧ compareVersions a.toList b.toList = .ok o := by
  obtain ⟨pre, hleft, hpre⟩ := parseVersion_of_parse ha
  obtain ⟨pre', hright, hpre'⟩ := parseVersion_of_parse hb
  refine ⟨v.cmp w, ?_, ?_⟩
  · rw [Ota.compareVersions, ha, ok_bind, hb, ok_bind]
  · rw [compareVersions, hleft, ok_bind, hright, ok_bind, comparePrerelease_eq hpre hpre']
    simp only [ParsedVersion.compareCore, Ota.ParsedVersion.cmp, compareLex, compareOn, Ordering.then_assoc]

theorem compareVersions_agree_sample :
    ∃ o, Ota.compareVersions "v1.0.0-alpha.2" "v1.0.0-alpha.beta" = .ok o ∧
      compareVersions "v1.0.0-alpha.2".toList "v1.0.0-alpha.beta".toList = .ok o := by
  have ha : Ota.ParsedVersion.parse "v1.0.0-alpha.2" = .ok ⟨1, 0, 0, some [.text "alpha", .numeric 2]⟩ := by decide +kernel
  have hb : Ota.ParsedVersion.parse "v1.0.0-alpha.beta" = .ok ⟨1, 0, 0, some [.text "alpha", .text "beta"]⟩ := by decide +kernel
  exact compareVersions_agree ha hb

/-! ## The order of the installer -/

/-- The identifier that a segment compares as. -/
def segmentIdentifier (segment : List Char) : Ota.PrereleaseIdentifier :=
  match parseU64 segment with
  | some n => .numeric n
  | none => .text (String.ofList segment)

theorem compareSegment_eq_cmp (left right : List Char) :
    compareSegment left right = (segmentIdentifier left).cmp (segmentIdentifier right) := by
  unfold compareSegment segmentIdentifier
  cases parseU64 left <;> cases parseU64 right <;> rfl

theorem comparePrereleaseSegments_eq_map : ∀ lefts rights : List (List Char),
    comparePrereleaseSegments lefts rights = Ota.comparePrerelease (lefts.map segmentIdentifier) (rights.map segmentIdentifier) := by
  intro lefts rights
  rw [Ota.comparePrerelease_eq]
  induction lefts generalizing rights with
  | nil => cases rights <;> rfl
  | cons left lefts ih =>
    cases rights with
    | nil => rfl
    | cons right rights =>
      rw [comparePrereleaseSegments, compareSegment_eq_cmp, ih, List.map_cons, List.map_cons, List.compareLex_cons_cons]

/-- A version with its segments read. -/
def ParsedVersion.identified (v : ParsedVersion) : Ota.ParsedVersion :=
  ⟨v.major, v.minor, v.patch, v.pre.map fun pre => (pre.splitOn '.').map segmentIdentifier⟩

theorem compareVersions_ok_iff {left right : List Char} {order : Ordering} : compareVersions left right = .ok order ↔
    ∃ v w, parseVersion left = .ok v ∧ parseVersion right = .ok w ∧ v.identified.cmp w.identified = order := by
  have hcmp : ∀ v w : ParsedVersion, (v.compareCore w).then (comparePrerelease v.pre w.pre) = v.identified.cmp w.identified := by
    intro v w
    have hpre : comparePrerelease v.pre w.pre = Ota.comparePre v.identified.pre w.identified.pre := by
      cases hv : v.pre <;> cases hw : w.pre <;>
        simp [comparePrerelease, ParsedVersion.identified, Ota.comparePre, hv, hw, comparePrereleaseSegments_eq_map]
    rw [hpre]
    simp only [ParsedVersion.compareCore, ParsedVersion.identified, Ota.ParsedVersion.cmp, compareLex, compareOn, Ordering.then_assoc]
  simp only [compareVersions, bind_ok_iff, hcmp, Except.ok.injEq]
  constructor
  · rintro ⟨v, hv, w, hw, h⟩
    exact ⟨v, w, hv, hw, h⟩
  · rintro ⟨v, w, hv, hw, h⟩
    exact ⟨v, hv, w, hw, h⟩

/-- A version compares with a floor and is not below it. -/
def AtLeast (version floor : List Char) : Prop := ∃ order, compareVersions version floor = .ok order ∧ order ≠ .lt

theorem AtLeast.trans {a b c : List Char} (hab : AtLeast a b) (hbc : AtLeast b c) : AtLeast a c := by
  obtain ⟨_, hcmp, hge⟩ := hab
  obtain ⟨_, hcmp', hge'⟩ := hbc
  obtain ⟨u, v, hu, hv, rfl⟩ := compareVersions_ok_iff.1 hcmp
  obtain ⟨v', w, hv', hw, rfl⟩ := compareVersions_ok_iff.1 hcmp'
  obtain rfl : v = v' := Except.ok.inj (hv.symm.trans hv')
  refine ⟨_, compareVersions_ok_iff.2 ⟨u, w, hu, hw, rfl⟩, ?_⟩
  have hgeTrans := Std.TransCmp.isGE_trans (Ordering.isGE_iff_ne_lt.2 hge) (Ordering.isGE_iff_ne_lt.2 hge')
  exact Ordering.isGE_iff_ne_lt.1 hgeTrans

end SuderraOs.Install
