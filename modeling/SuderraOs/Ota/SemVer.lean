import SuderraOs.Lib.Effect
import SuderraOs.Lib.SemVer
import SuderraOs.Ota.Version

/-!
# Versions of `suderra-ota` and semantic versions

What `ParsedVersion.parse` accepts, against the grammar: the prerelease is the grammar's (`parsePrerelease_ok_iff`), and the core is
read by `parse::<u64>`, which takes a plus sign and zeros in front of a number (`parseU64_iff`). The order is the precedence of
semantic versions (`cmp_eq_lt_iff`).
-/

namespace SuderraOs.Ota

open Text SemVer

/-- The identifier in the words of the grammar. -/
def PrereleaseIdentifier.toSemVer : PrereleaseIdentifier → Identifier
  | .numeric n => .numeric n
  | .text s => .alphanumeric s

/-- The version in the words of the grammar. -/
def ParsedVersion.toSemVer (v : ParsedVersion) : Version := ⟨v.major, v.minor, v.patch, (v.pre.getD []).map (·.toSemVer)⟩

/-- What `parse::<u64>` takes in front of a number: a plus sign, and zeros. -/
def IsPadding (cs : List Char) : Prop := ∃ plus zeros, cs = plus ++ zeros ∧ (plus = [] ∨ plus = ['+']) ∧ ∀ c ∈ zeros, c = '0'

/-- A text that spells a version within 64 bits once the plus signs and zeros in front of its core numbers are dropped, where one
of them has some. -/
def PaddedCore (text : List Char) : Prop :=
  ∃ (v : Version) (p major q minor r patch pre : List Char),
    text = (p ++ major) ++ '.' :: ((q ++ minor) ++ '.' :: ((r ++ patch) ++ pre)) ∧ IsPadding p ∧ IsPadding q ∧ IsPadding r ∧
    ¬(p = [] ∧ q = [] ∧ r = []) ∧ IsNumeric major v.major ∧ IsNumeric minor v.minor ∧ IsNumeric patch v.patch ∧
    IsPrerelease pre v.pre ∧ v.Fits UInt64.size

/-! ## Numbers -/

/-- What `parse::<u64>` reads is a number within 64 bits behind padding. -/
theorem parseU64_iff {cs : List Char} {n : Nat} :
    parseU64 cs = some n ↔ n < UInt64.size ∧ ∃ p digits, cs = p ++ digits ∧ IsPadding p ∧ IsNumeric digits n := by
  constructor
  · intro h
    have hbound : n < UInt64.size := by
      unfold parseU64 at h
      extract_lets digits at h
      split_ifs at h with hd
      exact Option.some.inj h ▸ hd.2.2
    obtain ⟨plus, digits, rfl, hplus, hne, hd, rfl⟩ := parseU64_cases h
    obtain ⟨zeros, rest, rfl, hzeros, hnum⟩ := exists_numeric hne hd
    exact ⟨hbound, plus ++ zeros, rest, by rw [List.append_assoc], ⟨plus, zeros, rfl, hplus, hzeros⟩, hnum⟩
  · rintro ⟨hbound, p, digits, rfl, ⟨plus, zeros, rfl, hplus, hzeros⟩, hnum⟩
    have hvalue : digitsValue (zeros ++ digits) = n := by rw [digitsValue_zeros hzeros, hnum.value]
    have hd : ∀ c ∈ zeros ++ digits, c.isDigit = true := by
      intro c hc
      rcases List.mem_append.1 hc with hc | hc
      · rw [hzeros c hc]
        rfl
      · exact hnum.digits c hc
    have hread : parseU64 (zeros ++ digits) = some n := by
      rw [← hvalue]
      exact parseU64_digits (by simp [hnum.ne_nil]) hd (by rwa [hvalue])
    rcases hplus with rfl | rfl
    · exact hread
    · have hne : zeros ++ digits ≠ [] := by simp [hnum.ne_nil]
      have hall : (zeros ++ digits).all Char.isDigit = true := List.all_eq_true.2 hd
      rw [List.append_assoc, List.singleton_append, parseU64]
      rw [if_pos ⟨hne, hall, by rwa [hvalue]⟩, hvalue]

theorem IsPadding.not_mem {p : List Char} (h : IsPadding p) {c : Char} (hc : c ≠ '0') (hplus : c ≠ '+') : c ∉ p := by
  obtain ⟨plus, zeros, rfl, hp, hzeros⟩ := h
  intro hmem
  rcases List.mem_append.1 hmem with hmem | hmem
  · rcases hp with rfl | rfl
    · simp at hmem
    · exact hplus (by simpa using hmem)
  · exact hc (hzeros c hmem)

theorem isPadding_nil : IsPadding [] := ⟨[], [], rfl, Or.inl rfl, by simp⟩

/-- A number behind padding is a number of the grammar only if there is no padding. -/
theorem IsPadding.eq_nil {p digits : List Char} {m n : Nat} (h : IsPadding p) (hd : IsNumeric digits m)
    (hnum : IsNumeric (p ++ digits) n) : p = [] := by
  obtain ⟨plus, zeros, rfl, rfl | rfl, hzeros⟩ := h
  · cases zeros with
    | nil => rfl
    | cons c zeros =>
      obtain rfl := hzeros c List.mem_cons_self
      have hlead := hnum.leading rfl
      have : zeros = [] ∧ digits = [] := by simpa using hlead
      exact absurd this.2 hd.ne_nil
  · exact absurd (hnum.digits '+' (by simp)) (by decide)

/-! ## The prerelease -/

/-- An identifier is read exactly when the grammar has it. -/
theorem parseIdentifier_ok_iff {value part : List Char} {id : PrereleaseIdentifier} :
    parseIdentifier value part = .ok id ↔ IsIdentifier part id.toSemVer ∧ id.toSemVer.Fits UInt64.size := by
  unfold parseIdentifier
  constructor
  · intro h
    split_ifs at h with hne hdigits hzero hchars
    · have hd : ∀ c ∈ part, c.isDigit = true := List.all_eq_true.1 hdigits
      have hsign : part.head? ≠ some '+' := fun hhead => absurd (hd '+' (List.mem_of_mem_head? hhead)) (by decide)
      cases hread : parseU64 part with
      | none => simp [hread] at h
      | some n =>
        rw [hread] at h
        obtain rfl := Except.ok.inj h
        obtain ⟨-, -, hbound, hvalue⟩ := parseU64_some hsign hread
        refine ⟨.numeric ⟨hne, hd, fun hhead => ?_, hvalue.symm⟩, hbound⟩
        have hlen : ¬1 < part.length := fun hlen => hzero ⟨hlen, hhead⟩
        cases part with
        | nil => exact absurd rfl hne
        | cons c rest =>
          obtain rfl : c = '0' := by simpa using hhead
          rw [List.length_cons] at hlen
          rw [List.length_eq_zero_iff.1 (show rest.length = 0 by omega)]
    · obtain rfl := Except.ok.inj h
      refine ⟨.alphanumeric (List.all_eq_true.1 hchars) ?_, trivial⟩
      simpa using hdigits
  · rintro ⟨h, hfits⟩
    cases id with
    | numeric n =>
      cases h with
      | numeric h =>
        have hzero : ¬(1 < part.length ∧ part.head? = some '0') := by
          rintro ⟨hlen, hhead⟩
          rw [h.leading hhead] at hlen
          simp at hlen
        have hread : parseU64 part = some n := by
          rw [← h.value]
          exact parseU64_digits h.ne_nil h.digits (by rw [h.value]; exact hfits)
        rw [if_neg h.ne_nil, if_pos (List.all_eq_true.2 h.digits), if_neg hzero, hread]
    | text s =>
      cases h with
      | alphanumeric h hletter =>
        obtain ⟨c, hc, hdigit⟩ := hletter
        have hne : part ≠ [] := List.ne_nil_of_mem hc
        have hdigits : ¬part.all Char.isDigit = true := fun hall => by
          rw [List.all_eq_true.1 hall c hc] at hdigit
          exact absurd hdigit (by decide)
        have hchars : part.all (fun c => c.isAlphanum || c == '-') = true := List.all_eq_true.2 h
        rw [if_neg hne, if_neg hdigits, if_pos hchars]

theorem forall₂_and_right {α β : Type} {R : α → β → Prop} {p : β → Prop} {xs : List α} {ys : List β} :
    List.Forall₂ (fun x y => R x y ∧ p y) xs ys ↔ List.Forall₂ R xs ys ∧ ∀ y ∈ ys, p y := by
  induction xs generalizing ys with
  | nil =>
    cases ys <;> simp
  | cons x xs ih =>
    cases ys with
    | nil => simp
    | cons y ys =>
      simp only [List.forall₂_cons, ih, List.forall_mem_cons]
      tauto

theorem trimChars_eq_nil {cs : List Char} (h : trimChars cs = []) : ∀ c ∈ cs, isWhitespace c = true := by
  obtain ⟨l, r, hcs, hl, hr⟩ := trimMatches_spec isWhitespace cs
  rw [show trimMatches isWhitespace cs = [] from h, List.nil_append] at hcs
  intro c hc
  rw [hcs] at hc
  rcases List.mem_append.1 hc with hc | hc
  · exact hl c hc
  · exact hr c hc

/-- Identifiers are not blank. -/
theorem exists_char_of_identifiers {parts : List (List Char)} {ids : List Identifier} (h : List.Forall₂ IsIdentifier parts ids)
    (hne : ids ≠ []) : ∃ c ∈ ['.'].intercalate parts, isWhitespace c = false := by
  cases h with
  | nil => exact absurd rfl hne
  | @cons part _ rest _ hpart _ =>
    obtain ⟨c, cs, rfl⟩ := List.exists_cons_of_ne_nil hpart.ne_nil
    refine ⟨c, ?_, isWhitespace_of_isIdentifierChar (hpart.chars c List.mem_cons_self)⟩
    cases rest <;> simp [List.intercalate]

/-- The identifiers are read exactly when the grammar has them. -/
theorem mapM_parseIdentifier_ok_iff {value : List Char} {parts : List (List Char)} {ids : List PrereleaseIdentifier} :
    parts.mapM (parseIdentifier value) = .ok ids ↔ List.Forall₂ IsIdentifier parts (ids.map (·.toSemVer)) ∧
      ∀ id ∈ ids.map (·.toSemVer), id.Fits UInt64.size := by
  rw [mapM_ok_iff, ← forall₂_and_right, List.forall₂_map_right_iff]
  simp only [parseIdentifier_ok_iff]

/-- The prerelease is read exactly when the grammar has it. -/
theorem parsePrerelease_ok_iff {value : List Char} {ids : List PrereleaseIdentifier} :
    parsePrerelease value = .ok ids ↔
      IsPrerelease ('-' :: value) (ids.map (·.toSemVer)) ∧ ∀ id ∈ ids.map (·.toSemVer), id.Fits UInt64.size := by
  unfold parsePrerelease
  constructor
  · intro h
    split_ifs at h
    obtain ⟨hids, hfits⟩ := mapM_parseIdentifier_ok_iff.1 h
    have hne : ids.map (·.toSemVer) ≠ [] := by
      intro hnil
      rw [hnil, List.forall₂_nil_right_iff] at hids
      exact List.splitOn_ne_nil _ _ hids
    have hpre := IsPrerelease.identifiers hne hids
    rw [List.intercalate_splitOn] at hpre
    exact ⟨hpre, hfits⟩
  · rintro ⟨h, hfits⟩
    generalize hsem : ids.map (·.toSemVer) = sem at h hfits
    cases h with
    | @identifiers parts _ hne hids =>
      have hparts : parts ≠ [] := by
        rintro rfl
        exact hne (List.forall₂_nil_left_iff.1 hids)
      have hpart : ∀ part ∈ parts, '.' ∉ part := ((List.forall₂_and_left _ _).1 (hids.imp fun _ _ h => ⟨h.dot_not_mem, h⟩)).1
      have hsplit : (['.'].intercalate parts).splitOn '.' = parts := List.splitOn_intercalate '.' hpart hparts
      have hblank : trimChars (['.'].intercalate parts) ≠ [] := by
        intro hblank
        obtain ⟨c, hc, hchar⟩ := exists_char_of_identifiers hids hne
        rw [trimChars_eq_nil hblank c hc] at hchar
        exact absurd hchar (by decide)
      rw [if_neg hblank, hsplit]
      exact mapM_parseIdentifier_ok_iff.2 ⟨hsem ▸ hids, hsem ▸ hfits⟩

/-! ## The version -/

theorem parseVersionPart_ok_iff {part : Option (List Char)} {original : List Char} {n : Nat} :
    parseVersionPart part original = .ok n ↔ ∃ cs, part = some cs ∧ parseU64 cs = some n := by
  unfold parseVersionPart
  cases part with
  | none => simp
  | some cs => cases h : parseU64 cs <;> simp [h]

theorem not_mem_of_parseU64 {cs : List Char} {n : Nat} (h : parseU64 cs = some n) {c : Char} (hc : c.isDigit = false)
    (hplus : c ≠ '+') : c ∉ cs := by
  obtain ⟨-, p, digits, rfl, hp, hnum⟩ := parseU64_iff.1 h
  rw [List.mem_append, not_or]
  refine ⟨hp.not_mem ?_ hplus, hnum.not_mem hc⟩
  rintro rfl
  exact absurd hc (by decide)

/-- The core is read exactly when it is three numbers between two dots. -/
theorem core_ok_iff {numbers original : List Char} {message : Error} {f : Nat → Nat → Nat → Except Error ParsedVersion}
    {v : ParsedVersion} :
    (do
      let major ← parseVersionPart (numbers.splitOn '.')[0]? original
      let minor ← parseVersionPart (numbers.splitOn '.')[1]? original
      let patch ← parseVersionPart (numbers.splitOn '.')[2]? original
      if (numbers.splitOn '.')[3]?.isSome then .error message else f major minor patch) = .ok v ↔
    ∃ major minor patch, numbers = major ++ '.' :: (minor ++ '.' :: patch) ∧
      ∃ a b c, parseU64 major = some a ∧ parseU64 minor = some b ∧ parseU64 patch = some c ∧ f a b c = .ok v := by
  constructor
  · intro h
    obtain ⟨a, ha, h⟩ := bind_ok_iff.1 h
    obtain ⟨b, hb, h⟩ := bind_ok_iff.1 h
    obtain ⟨c, hc, h⟩ := bind_ok_iff.1 h
    obtain ⟨major, hmajor, ha⟩ := parseVersionPart_ok_iff.1 ha
    obtain ⟨minor, hminor, hb⟩ := parseVersionPart_ok_iff.1 hb
    obtain ⟨patch, hpatch, hc⟩ := parseVersionPart_ok_iff.1 hc
    split_ifs at h with hmore
    have hparts : numbers.splitOn '.' = [major, minor, patch] := by
      rcases hp : numbers.splitOn '.' with _ | ⟨_, _ | ⟨_, _ | ⟨_, _ | _⟩⟩⟩ <;> simp_all
    refine ⟨major, minor, patch, ?_, a, b, c, ha, hb, hc, h⟩
    calc numbers = ['.'].intercalate (numbers.splitOn '.') := (List.intercalate_splitOn '.').symm
      _ = major ++ '.' :: (minor ++ '.' :: patch) := by simp [hparts, List.intercalate]
  · rintro ⟨major, minor, patch, rfl, a, b, c, ha, hb, hc, h⟩
    have hno {cs : List Char} {n : Nat} (h : parseU64 cs = some n) : '.' ∉ cs := not_mem_of_parseU64 h (by decide) (by decide)
    rw [List.splitOn_append_cons_self_of_not_mem (hno ha), List.splitOn_append_cons_self_of_not_mem (hno hb),
      List.splitOn_eq_singleton (hno hc)]
    have hpart {cs original : List Char} {n : Nat} (h : parseU64 cs = some n) : parseVersionPart (some cs) original = .ok n :=
      parseVersionPart_ok_iff.2 ⟨cs, rfl, h⟩
    simp only [List.getElem?_cons_zero, List.getElem?_cons_succ, List.getElem?_nil, hpart ha, hpart hb, hpart hc, ok_bind, h,
      Option.isSome_none, Bool.false_eq_true, if_false]

/-- The text a version was read from: the numbers of its core as `parse::<u64>` reads them, and what follows. -/
def CoreText (s : String) (v : ParsedVersion) (pre : List Char) : Prop :=
  ∃ major minor patch, versionText s = major ++ '.' :: (minor ++ '.' :: (patch ++ pre)) ∧ parseU64 major = some v.major ∧
    parseU64 minor = some v.minor ∧ parseU64 patch = some v.patch

/-- A version is read exactly when its core is three numbers as `parse::<u64>` reads them, and its prerelease is the grammar's. -/
theorem parse_ok_iff {s : String} {v : ParsedVersion} :
    ParsedVersion.parse s = .ok v ↔ ∃ pre, CoreText s v pre ∧
      (pre = [] ∧ v.pre = none ∨ ∃ value ids, pre = '-' :: value ∧ v.pre = some ids ∧ parsePrerelease value = .ok ids) := by
  unfold ParsedVersion.parse
  extract_lets text
  cases hs : splitOnce '-' text with
  | none =>
    simp only []
    rw [core_ok_iff]
    constructor
    · rintro ⟨major, minor, patch, htext, a, b, c, ha, hb, hc, hv⟩
      obtain rfl := Except.ok.inj hv
      exact ⟨[], ⟨major, minor, patch, by rw [List.append_nil]; exact htext, ha, hb, hc⟩, Or.inl ⟨rfl, rfl⟩⟩
    · rintro ⟨pre, ⟨major, minor, patch, htext, ha, hb, hc⟩, ⟨rfl, hpre⟩ | ⟨value, ids, rfl, -, -⟩⟩
      · refine ⟨major, minor, patch, by rw [List.append_nil] at htext; exact htext, v.major, v.minor, v.patch, ha, hb, hc, ?_⟩
        rw [← hpre]
      · exact absurd (show '-' ∈ text by simp [text, htext]) (splitOnce_eq_none hs)
  | some p =>
    obtain ⟨left, right⟩ := p
    simp only []
    rw [core_ok_iff]
    obtain ⟨htext, hleft⟩ := splitOnce_eq_some hs
    constructor
    · rintro ⟨major, minor, patch, rfl, a, b, c, ha, hb, hc, hv⟩
      cases hids : parsePrerelease right with
      | error e => simp [hids, Except.map] at hv
      | ok ids =>
        rw [hids] at hv
        obtain rfl := Except.ok.inj hv
        refine ⟨'-' :: right, ⟨major, minor, patch, ?_, ha, hb, hc⟩, Or.inr ⟨right, ids, rfl, rfl, hids⟩⟩
        rw [show versionText s = text from rfl, htext]
        simp
    · rintro ⟨pre, ⟨major, minor, patch, htext', ha, hb, hc⟩, hpre⟩
      have hno {cs : List Char} {n : Nat} (h : parseU64 cs = some n) : '-' ∉ cs := not_mem_of_parseU64 h (by decide) (by decide)
      have hcore : '-' ∉ major ++ '.' :: (minor ++ '.' :: patch) := by simp [hno ha, hno hb, hno hc]
      rcases hpre with ⟨rfl, -⟩ | ⟨value, ids, rfl, hids, hparse⟩
      · rw [List.append_nil] at htext'
        rw [← htext', show versionText s = text from rfl, htext] at hcore
        simp at hcore
      · have heq : left ++ '-' :: right = (major ++ '.' :: (minor ++ '.' :: patch)) ++ '-' :: value := by
          rw [← htext, show text = versionText s from rfl, htext']
          simp
        obtain ⟨rfl, rfl⟩ := cut_unique hleft hcore heq
        refine ⟨major, minor, patch, rfl, v.major, v.minor, v.patch, ha, hb, hc, ?_⟩
        rw [hparse]
        show Except.ok (⟨v.major, v.minor, v.patch, some ids⟩ : ParsedVersion) = .ok v
        rw [← hids]

/-- The identifier of the grammar as the parser gives it. -/
def PrereleaseIdentifier.ofSemVer : Identifier → PrereleaseIdentifier
  | .numeric n => .numeric n
  | .alphanumeric s => .text s

theorem map_toSemVer_ofSemVer (ids : List Identifier) : (ids.map PrereleaseIdentifier.ofSemVer).map (·.toSemVer) = ids := by
  rw [List.map_map]
  refine (List.map_congr_left fun id _ => ?_).trans (List.map_id ids)
  cases id <;> rfl

/-- A text that is padded spells no version, and a text that spells one is not padded. -/
theorem PaddedCore.not_isVersion {text : List Char} (h : PaddedCore text) (v : Version) : ¬IsVersion text v := by
  obtain ⟨w, p, major, q, minor, r, patch, pre, htext, hp, hq, hr, hne, hmajor, hminor, hpatch, hpre, -⟩ := h
  rintro ⟨major', minor', patch', pre', htext', hmajor', hminor', hpatch', hpre'⟩
  have hdot {p cs : List Char} {n : Nat} (hp : IsPadding p) (h : IsNumeric cs n) : '.' ∉ p ++ cs := by
    simp [hp.not_mem, h.not_mem]
  have hhyphen {p cs : List Char} {n : Nat} (hp : IsPadding p) (h : IsNumeric cs n) : '-' ∉ p ++ cs := by
    simp [hp.not_mem, h.not_mem]
  rw [htext] at htext'
  obtain ⟨h₁, h₂, h₃, -⟩ := core_unique (hdot hp hmajor) (hmajor'.not_mem (by decide)) (hdot hq hminor)
    (hminor'.not_mem (by decide)) (hhyphen hr hpatch) (hpatch'.not_mem (by decide)) hpre.head hpre'.head htext'
  exact hne ⟨hp.eq_nil hmajor (h₁ ▸ hmajor'), hq.eq_nil hminor (h₂ ▸ hminor'), hr.eq_nil hpatch (h₃ ▸ hpatch')⟩

/-- A parse succeeds exactly on the versions of the grammar within 64 bits, with or without padding in front of the core numbers. -/
theorem parse_succeeds_iff {s : String} : (∃ v, ParsedVersion.parse s = .ok v) ↔
    (∃ v : Version, IsVersion (versionText s) v ∧ v.Fits UInt64.size) ∨ PaddedCore (versionText s) := by
  constructor
  · rintro ⟨v, h⟩
    obtain ⟨pre, ⟨major, minor, patch, htext, ha, hb, hc⟩, hpre⟩ := parse_ok_iff.1 h
    obtain ⟨hma, p, major, rfl, hp, hmajor⟩ := parseU64_iff.1 ha
    obtain ⟨hmi, q, minor, rfl, hq, hminor⟩ := parseU64_iff.1 hb
    obtain ⟨hpa, r, patch, rfl, hr, hpatch⟩ := parseU64_iff.1 hc
    have hsem : IsPrerelease pre v.toSemVer.pre ∧ ∀ id ∈ v.toSemVer.pre, id.Fits UInt64.size := by
      rcases hpre with ⟨rfl, hnone⟩ | ⟨value, ids, rfl, hids, hparse⟩
      · simp only [ParsedVersion.toSemVer, hnone, Option.getD_none, List.map_nil]
        exact ⟨.release, by simp⟩
      · simp only [ParsedVersion.toSemVer, hids, Option.getD_some]
        exact parsePrerelease_ok_iff.1 hparse
    have hfits : v.toSemVer.Fits UInt64.size := ⟨hma, hmi, hpa, hsem.2⟩
    by_cases hpad : p = [] ∧ q = [] ∧ r = []
    · obtain ⟨rfl, rfl, rfl⟩ := hpad
      exact Or.inl ⟨v.toSemVer, ⟨major, minor, patch, pre, htext, hmajor, hminor, hpatch, hsem.1⟩, hfits⟩
    · exact Or.inr ⟨v.toSemVer, p, major, q, minor, r, patch, pre, htext, hp, hq, hr, hpad, hmajor, hminor, hpatch, hsem.1, hfits⟩
  · intro h
    obtain ⟨v, p, major, q, minor, r, patch, pre, htext, hp, hq, hr, hmajor, hminor, hpatch, hpre, hfits⟩ :
        ∃ (v : Version) (p major q minor r patch pre : List Char),
          versionText s = (p ++ major) ++ '.' :: ((q ++ minor) ++ '.' :: ((r ++ patch) ++ pre)) ∧ IsPadding p ∧ IsPadding q ∧
          IsPadding r ∧ IsNumeric major v.major ∧ IsNumeric minor v.minor ∧ IsNumeric patch v.patch ∧ IsPrerelease pre v.pre ∧
          v.Fits UInt64.size := by
      rcases h with ⟨v, ⟨major, minor, patch, pre, htext, hmajor, hminor, hpatch, hpre⟩, hfits⟩ |
        ⟨v, p, major, q, minor, r, patch, pre, htext, hp, hq, hr, -, hmajor, hminor, hpatch, hpre, hfits⟩
      · exact ⟨v, [], major, [], minor, [], patch, pre, htext, isPadding_nil, isPadding_nil, isPadding_nil, hmajor, hminor,
          hpatch, hpre, hfits⟩
      · exact ⟨v, p, major, q, minor, r, patch, pre, htext, hp, hq, hr, hmajor, hminor, hpatch, hpre, hfits⟩
    have hread {p cs : List Char} {n : Nat} (hn : n < UInt64.size) (hp : IsPadding p) (h : IsNumeric cs n) :
        parseU64 (p ++ cs) = some n := parseU64_iff.2 ⟨hn, p, cs, rfl, hp, h⟩
    have hcore (ids : Option (List PrereleaseIdentifier)) : CoreText s ⟨v.major, v.minor, v.patch, ids⟩ pre :=
      ⟨p ++ major, q ++ minor, r ++ patch, htext, hread hfits.major hp hmajor, hread hfits.minor hq hminor,
        hread hfits.patch hr hpatch⟩
    have hids := hfits.pre
    generalize v.pre = ids at hpre hids
    cases hpre with
    | release => exact ⟨_, parse_ok_iff.2 ⟨[], hcore none, Or.inl ⟨rfl, rfl⟩⟩⟩
    | @identifiers parts _ hne h =>
      have hparse : parsePrerelease (['.'].intercalate parts) = .ok (ids.map PrereleaseIdentifier.ofSemVer) := by
        rw [parsePrerelease_ok_iff, map_toSemVer_ofSemVer]
        exact ⟨.identifiers hne h, hids⟩
      exact ⟨_, parse_ok_iff.2 ⟨_, hcore (some _), Or.inr ⟨_, _, rfl, rfl, hparse⟩⟩⟩

/-- A parse succeeds exactly on the versions of the grammar within 64 bits, except on a text with padding in its core. -/
theorem parse_iff_isVersion_iff (s : String) :
    ((∃ v, ParsedVersion.parse s = .ok v) ↔ ∃ v : Version, IsVersion (versionText s) v ∧ v.Fits UInt64.size) ↔
      ¬PaddedCore (versionText s) := by
  rw [parse_succeeds_iff]
  constructor
  · intro h hpad
    obtain ⟨v, hv, -⟩ := h.1 (Or.inr hpad)
    exact hpad.not_isVersion v hv
  · exact fun h => ⟨fun hv => hv.resolve_right h, Or.inl⟩

/-- A plus sign and a leading zero are read. -/
theorem parse_padded_sample : ¬((∃ v, ParsedVersion.parse "+1.02.0" = .ok v) ↔
    ∃ v : Version, IsVersion (versionText "+1.02.0") v ∧ v.Fits UInt64.size) := by
  have hdigit {c : Char} (hc : c.isDigit = true) (hne : c ≠ '0') : IsNumeric [c] (c.toNat - '0'.toNat) :=
    ⟨by simp, by simpa using hc, by simp [hne], by simp [digitsValue]⟩
  have hpad : PaddedCore (versionText "+1.02.0") := by
    refine ⟨⟨1, 2, 0, []⟩, ['+'], ['1'], ['0'], ['2'], [], ['0'], [], by decide +kernel, ⟨['+'], [], rfl, Or.inr rfl, by simp⟩,
      ⟨[], ['0'], rfl, Or.inl rfl, by simp⟩, isPadding_nil, by simp, hdigit (by decide) (by decide), hdigit (by decide) (by decide),
      ⟨by simp, by simp, fun _ => rfl, rfl⟩, .release, ⟨by decide, by decide, by decide, by simp⟩⟩
  intro h
  obtain ⟨v, hv, -⟩ := h.1 (parse_succeeds_iff.2 (Or.inr hpad))
  exact hpad.not_isVersion v hv

/-! ## Precedence -/

theorem PrereleaseIdentifier.cmp_eq_lt_iff {a b : PrereleaseIdentifier} : a.cmp b = .lt ↔ a.toSemVer.Lower b.toSemVer := by
  cases a with
  | numeric m =>
    cases b with
    | numeric n =>
      refine Nat.compare_eq_lt.trans ⟨.numeric, fun h => ?_⟩
      cases h with
      | numeric h => exact h
    | text t => exact ⟨fun _ => .mixed m t, fun _ => rfl⟩
  | text s =>
    cases b with
    | numeric n =>
      refine ⟨fun h => ?_, fun h => ?_⟩
      · exact nomatch h
      · exact nomatch h
    | text t =>
      have hlt : compare s t = .lt ↔ s < t := compareOfLessAndEq_eq_lt
      refine hlt.trans ⟨fun h => .alphanumeric h, fun h => ?_⟩
      cases h with
      | alphanumeric h => exact h

instance : Std.LawfulEqCmp PrereleaseIdentifier.cmp where
  eq_of_compare {a b} h := by
    cases a with
    | numeric m =>
      cases b with
      | numeric n => rw [Nat.compare_eq_eq.1 h]
      | text t => exact nomatch h
    | text s =>
      cases b with
      | numeric n => exact nomatch h
      | text t =>
        have heq : s = t := Std.LawfulEqOrd.eq_of_compare h
        rw [heq]

theorem PrereleaseIdentifier.toSemVer_inj {a b : PrereleaseIdentifier} : a.toSemVer = b.toSemVer ↔ a = b := by
  cases a <;> cases b <;> simp [toSemVer]

/-- The order of two lists of identifiers is the precedence of their prereleases. -/
theorem comparePrerelease_eq_lt_iff {left right : List PrereleaseIdentifier} :
    comparePrerelease left right = .lt ↔ PreLower (left.map (·.toSemVer)) (right.map (·.toSemVer)) := by
  rw [preLower_iff_lex, comparePrerelease_eq]
  induction left generalizing right with
  | nil => cases right <;> simp [List.compareLex_nil_cons, List.compareLex_nil_nil]
  | cons x left ih =>
    cases right with
    | nil => simp [List.compareLex_cons_nil]
    | cons y right =>
      rw [List.compareLex_cons_cons, Ordering.then_eq_lt, ih, List.map_cons, List.map_cons, List.cons_lex_cons_iff,
        PrereleaseIdentifier.cmp_eq_lt_iff, PrereleaseIdentifier.toSemVer_inj, Std.LawfulEqCmp.compare_eq_iff_eq]

theorem comparePre_eq_eq {a b : Option (List PrereleaseIdentifier)} (h : comparePre a b = .eq) : a = b := by
  cases a with
  | none =>
    cases b with
    | none => rfl
    | some right => exact nomatch h
  | some left =>
    cases b with
    | none => exact nomatch h
    | some right =>
      have h : List.compareLex PrereleaseIdentifier.cmp left right = .eq := comparePrerelease_eq left right ▸ h
      rw [Std.LawfulEqCmp.eq_of_compare h]

instance : Std.LawfulEqCmp ParsedVersion.cmp where
  eq_of_compare {v w} h := by
    rw [ParsedVersion.cmp, Ordering.then_eq_eq] at h
    obtain ⟨hcore, hpre⟩ := h
    simp only [compareLex, compareOn, Ordering.then_eq_eq, Nat.compare_eq_eq] at hcore
    obtain ⟨hmajor, hminor, hpatch⟩ := hcore
    obtain ⟨major, minor, patch, pre⟩ := v
    obtain rfl := comparePre_eq_eq hpre
    simp_all

/-- The order of two versions that have a prerelease identifier if they have a prerelease is their precedence. -/
theorem cmp_eq_lt_iff {v w : ParsedVersion} (hv : v.pre ≠ some []) (hw : w.pre ≠ some []) :
    v.cmp w = .lt ↔ v.toSemVer.Lower w.toSemVer := by
  have hcore : compareLex (compareOn (·.major)) (compareLex (compareOn (·.minor)) (compareOn (·.patch))) v w = .lt ↔
      v.toSemVer.CoreLower w.toSemVer := by
    simp only [compareLex, compareOn, Ordering.then_eq_lt, Nat.compare_eq_lt, Nat.compare_eq_eq, Version.CoreLower,
      ParsedVersion.toSemVer]
  have hsame : compareLex (compareOn (·.major)) (compareLex (compareOn (·.minor)) (compareOn (·.patch))) v w = .eq ↔
      v.toSemVer.SameCore w.toSemVer := by
    simp only [compareLex, compareOn, Ordering.then_eq_eq, Nat.compare_eq_eq, Version.SameCore, ParsedVersion.toSemVer]
  have hnil {v : ParsedVersion} (hv : v.pre ≠ some []) : v.toSemVer.pre = [] ↔ v.pre = none := by
    cases hpre : v.pre with
    | none => simp [ParsedVersion.toSemVer, hpre]
    | some ids =>
      have hids : ids ≠ [] := fun hids => hv (hids ▸ hpre)
      simp [ParsedVersion.toSemVer, hpre, hids]
  have hpre : comparePre v.pre w.pre = .lt ↔
      v.toSemVer.pre ≠ [] ∧ (w.toSemVer.pre = [] ∨ w.toSemVer.pre ≠ [] ∧ PreLower v.toSemVer.pre w.toSemVer.pre) := by
    rw [ne_eq, ne_eq, hnil hv, hnil hw]
    cases hvp : v.pre with
    | none => cases w.pre <;> simp [comparePre]
    | some left =>
      cases hwp : w.pre with
      | none => simp [comparePre]
      | some right => simp [comparePre, comparePrerelease_eq_lt_iff, ParsedVersion.toSemVer, hvp, hwp]
  rw [ParsedVersion.cmp, Ordering.then_eq_lt, hcore, hsame, hpre]
  constructor
  · rintro (h | ⟨hsame, hne, hnil | ⟨hne', hlower⟩⟩)
    · exact .core h
    · exact .release hsame hne hnil
    · exact .prerelease hsame hne hne' hlower
  · rintro (h | ⟨hsame, hne, hnil⟩ | ⟨hsame, hne, hne', hlower⟩)
    · exact Or.inl h
    · exact Or.inr ⟨hsame, hne, Or.inl hnil⟩
    · exact Or.inr ⟨hsame, hne, Or.inr ⟨hne', hlower⟩⟩

/-- A version that was read has a prerelease identifier if it has a prerelease. -/
theorem pre_ne_some_nil {s : String} {v : ParsedVersion} (h : ParsedVersion.parse s = .ok v) : v.pre ≠ some [] := by
  obtain ⟨pre, -, ⟨-, hnone⟩ | ⟨value, ids, -, hids, hparse⟩⟩ := parse_ok_iff.1 h
  · simp [hnone]
  · obtain ⟨hpre, -⟩ := parsePrerelease_ok_iff.1 hparse
    rw [hids]
    rintro hnil
    obtain rfl := Option.some.inj hnil
    cases hpre with
    | identifiers hne _ => exact hne rfl

/-- Over the versions that are read, `cmp` is a total order and the precedence of semantic versions. -/
theorem cmp_precedence {a b : String} {u v : ParsedVersion} (hu : ParsedVersion.parse a = .ok u)
    (hv : ParsedVersion.parse b = .ok v) (w : ParsedVersion) :
    ((u.cmp u).isLE = true ∧ ((u.cmp v).isLE = true → (v.cmp u).isLE = true → u = v) ∧
      ((u.cmp v).isLE = true → (v.cmp w).isLE = true → (u.cmp w).isLE = true) ∧
      ((u.cmp v).isLE = true ∨ (v.cmp u).isLE = true)) ∧
    (v.cmp u = (u.cmp v).swap ∧ (u.cmp v = .eq ↔ u = v)) ∧
    (u.cmp v = .lt ↔ u.toSemVer.Lower v.toSemVer) ∧ (u.cmp v = .gt ↔ v.toSemVer.Lower u.toSemVer) := by
  have hswap : v.cmp u = (u.cmp v).swap := Std.OrientedCmp.eq_swap
  have heq : u.cmp v = .eq ↔ u = v := Std.LawfulEqCmp.compare_eq_iff_eq
  have hlt := cmp_eq_lt_iff (pre_ne_some_nil hu) (pre_ne_some_nil hv)
  have hgt := cmp_eq_lt_iff (pre_ne_some_nil hv) (pre_ne_some_nil hu)
  refine ⟨⟨Std.ReflCmp.isLE_rfl, fun hle hge => ?_, Std.TransCmp.isLE_trans, ?_⟩, ⟨hswap, heq⟩, hlt, ?_⟩
  · rw [hswap] at hge
    cases hcmp : u.cmp v with
    | lt => simp [hcmp] at hge
    | eq => exact heq.1 hcmp
    | gt => simp [hcmp] at hle
  · rw [hswap]
    cases u.cmp v <;> simp
  · rw [← hgt, hswap]
    cases u.cmp v <;> simp

theorem cmp_precedence_sample :
    (⟨1, 0, 0, some [.text "alpha", .numeric 2]⟩ : ParsedVersion).toSemVer.Lower
      (⟨1, 0, 0, some [.text "alpha", .numeric 10]⟩ : ParsedVersion).toSemVer := by
  have hu : ParsedVersion.parse "v1.0.0-alpha.2" = .ok ⟨1, 0, 0, some [.text "alpha", .numeric 2]⟩ := by decide +kernel
  have hv : ParsedVersion.parse "v1.0.0-alpha.10" = .ok ⟨1, 0, 0, some [.text "alpha", .numeric 10]⟩ := by decide +kernel
  exact (cmp_precedence hu hv ⟨1, 0, 0, none⟩).2.2.1.1 (by decide)

end SuderraOs.Ota
