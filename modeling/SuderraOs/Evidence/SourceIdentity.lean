import SuderraOs.Evidence.IngressRecords
import SuderraOs.Lib.Segments
import SuderraOs.Lib.Sha256

/-!
# What the id of a release says of its source

The id of a release is a digest of a text with the id of the Buildroot source in it, which is a digest again. Both texts can be taken
apart, though the ref in the middle of the inner one is any text: what stands before and behind it has a length that is known
(`Texts.text_injective`). So a digest that no two texts share makes the id name the source (`sources_eq_of_release_eq`).

The digest of the patch set is in the id as it is written. It is not taken of the patch files that are listed beside it
(`selfConsistent_iff`).
-/

namespace SuderraOs.Evidence.BuildrootIdentity

open Value OperatorIngress ReleaseIngress Text

/-! ## The texts behind the ids -/

/-- The diff as it is written. -/
def Texts.diffText (t : Texts) : String := (t.diff.filter (· ≠ "")).getD "none"

/-- What stands before the ref that Buildroot was taken from. -/
def Texts.before (t : Texts) : List String := ["buildroot-source-identity-v2\n", "index:", t.index, "\n", "upstream-ref:"]

/-- What stands behind it. -/
def Texts.behind (t : Texts) : List String :=
  ["\n", "source-mode:", t.mode, "\n", "patchset:", t.patchset, "\n", "diff-identity:", t.diffText, "\n"]

/-- The text of the id of the Buildroot source. -/
def Texts.text (t : Texts) : List Char := segments t.before ++ (t.upstream.toList ++ segments t.behind)

/-- The segments of the id of the release. -/
def Texts.releaseParts (t : Texts) : List String :=
  ["suderra-release-source-identity-v1\n", "source:", t.source, "\n", "external-tree:", t.external, "\n", "buildroot-effective:",
    t.effective, "\n"]

theorem toString_text (s : String) : toString s = s := rfl

theorem effectiveSourceId_eq (L : Libraries) (t : Texts) :
    effectiveSourceId L t.index t.patchset t.diff t.upstream t.mode = L.hexdigest (Utf8.encode (String.ofList t.text)) := by
  rw [effectiveSourceId]
  refine congrArg (fun s => L.hexdigest (Utf8.encode s)) (String.toList_inj.1 ?_)
  simp only [Texts.text, Texts.before, Texts.behind, Texts.diffText, String.toList_append, String.toList_ofList, List.append_assoc,
    toString_text, segments_cons, segments_nil, List.append_nil]

theorem releaseSourceId_eq (L : Libraries) (t : Texts) :
    releaseSourceId L t.source t.external t.effective = L.hexdigest (Utf8.encode (String.ofList (segments t.releaseParts))) := by
  rw [releaseSourceId]
  refine congrArg (fun s => L.hexdigest (Utf8.encode s)) (String.toList_inj.1 ?_)
  simp only [Texts.releaseParts, String.toList_append, String.toList_ofList, List.append_assoc, toString_text, segments_cons,
    segments_nil, List.append_nil]

/-! ## Taking the texts apart -/

/-- The texts of an identity have their forms. -/
structure Texts.Formed (t : Texts) : Prop where
  index : isHex 40 t.index = true
  patchset : isHex 64 t.patchset = true
  source : isHex 40 t.source = true
  external : isHex 64 t.external = true
  effective : isHex 64 t.effective = true
  diff : t.mode = "clean-native" ∧ t.diff = none ∨ t.mode = "staged-patched-tree" ∧ ∃ d, t.diff = some d ∧ isHex 64 d = true

theorem Names.formed {L : Libraries} {payload : Fields} {t : Texts} (h : Names L payload t) : t.Formed where
  index := h.index_hex
  patchset := h.patchset_hex
  source := h.source_hex
  external := h.external_hex
  effective := h.effective_hex
  diff := h.diff_eq.imp_right fun hstaged => ⟨hstaged.1, hstaged.2.choose, hstaged.2.choose_spec.1, hstaged.2.choose_spec.2.1⟩

theorem length_of_isHex {n : Nat} {s : String} (h : isHex n s = true) : s.toList.length = n := by
  simp only [isHex, Bool.and_eq_true, beq_iff_eq] at h
  exact h.1

/-- Texts of as many digits fill the same place. -/
theorem length_eq_of_isHex {n : Nat} {s s' : String} (h : isHex n s = true) (h' : isHex n s' = true) :
    s.toList.length = s'.toList.length := (length_of_isHex h).trans (length_of_isHex h').symm

/-- A diff is written as a digest where there is one. -/
theorem Texts.Formed.diffText {t : Texts} (h : t.Formed) :
    t.mode = "clean-native" ∧ t.diff = none ∧ t.diffText = "none" ∨
      t.mode = "staged-patched-tree" ∧ ∃ d, t.diff = some d ∧ isHex 64 d = true ∧ t.diffText = d := by
  rcases h.diff with ⟨hmode, hdiff⟩ | ⟨hmode, d, hdiff, hhex⟩
  · exact .inl ⟨hmode, hdiff, by rw [Texts.diffText, hdiff]; rfl⟩
  · have hne : d ≠ "" := by
      rintro rfl
      exact absurd hhex (by decide)
    exact .inr ⟨hmode, d, hdiff, hhex, by simp [Texts.diffText, hdiff, Option.filter, hne]⟩

/-- A digest does not end in the word for a diff that is absent. -/
theorem none_not_suffix {d : String} {x x' : List Char} (hd : isHex 64 d = true) : x ++ "none".toList ≠ x' ++ d.toList := by
  intro heq
  have hsuffix : "none".toList <:+ d.toList :=
    List.suffix_of_suffix_length_le ⟨x, heq⟩ ⟨x', rfl⟩ (by rw [length_of_isHex hd]; decide)
  have hmem : 'n' ∈ d.toList := hsuffix.subset (by decide)
  simp only [isHex, Bool.and_eq_true, List.all_eq_true] at hd
  exact absurd (hd.2 _ hmem) (by decide)

/-- Two texts of the same kind of diff are equal by parts. -/
theorem Texts.eq_of_text_eq {t u : Texts} (ht : t.Formed) (hu : u.Formed) (hmode : t.mode = u.mode)
    (hlength : t.diffText.toList.length = u.diffText.toList.length) (h : t.text = u.text) :
    t.index = u.index ∧ t.upstream = u.upstream ∧ t.patchset = u.patchset ∧ t.diffText = u.diffText := by
  have hindex := length_eq_of_isHex ht.index hu.index
  have hpatchset := length_eq_of_isHex ht.patchset hu.patchset
  obtain ⟨hbefore, hupstream, hbehind⟩ := segments_around_injective (by simp only [before, lengths, List.map_cons, hindex])
    (by simp only [behind, lengths, List.map_cons, hmode, hpatchset, hlength]) h
  simp only [before, behind, List.cons.injEq] at hbefore hbehind
  exact ⟨hbefore.2.2.1, hupstream, hbehind.2.2.2.2.2.1, hbehind.2.2.2.2.2.2.2.2.1⟩

/-- The last line of the text says whether there is a diff. -/
theorem Texts.text_eq (t : Texts) : ∃ x, t.text = (x ++ t.diffText.toList) ++ "\n".toList := by
  refine ⟨segments t.before ++ (t.upstream.toList ++
    segments ["\n", "source-mode:", t.mode, "\n", "patchset:", t.patchset, "\n", "diff-identity:"]), ?_⟩
  simp only [text, behind, segments_cons, segments_nil, List.append_assoc, List.append_nil]

/-- The text of the id of the Buildroot source stands for one source. -/
theorem Texts.text_injective {t u : Texts} (ht : t.Formed) (hu : u.Formed) (h : t.text = u.text) :
    t.index = u.index ∧ t.upstream = u.upstream ∧ t.mode = u.mode ∧ t.patchset = u.patchset ∧ t.diff = u.diff := by
  obtain ⟨x, hx⟩ := t.text_eq
  obtain ⟨y, hy⟩ := u.text_eq
  have hlast : x ++ t.diffText.toList = y ++ u.diffText.toList := (List.append_inj' (hx.symm.trans (h.trans hy)) rfl).1
  rcases ht.diffText with ⟨hmode, hdiff, htext⟩ | ⟨hmode, d, hdiff, hhex, htext⟩
  · rcases hu.diffText with ⟨hmode', hdiff', htext'⟩ | ⟨_, d', _, hhex', htext'⟩
    · obtain ⟨hindex, hupstream, hpatchset, _⟩ :=
        Texts.eq_of_text_eq ht hu (hmode.trans hmode'.symm) (by rw [htext, htext']) h
      exact ⟨hindex, hupstream, hmode.trans hmode'.symm, hpatchset, hdiff.trans hdiff'.symm⟩
    · rw [htext, htext'] at hlast
      exact absurd hlast (none_not_suffix hhex')
  · rcases hu.diffText with ⟨_, _, htext'⟩ | ⟨hmode', d', hdiff', hhex', htext'⟩
    · rw [htext, htext'] at hlast
      exact absurd hlast.symm (none_not_suffix hhex)
    · obtain ⟨hindex, hupstream, hpatchset, hdiffText⟩ :=
        Texts.eq_of_text_eq ht hu (hmode.trans hmode'.symm) (by rw [htext, htext', length_eq_of_isHex hhex hhex']) h
      rw [htext, htext'] at hdiffText
      exact ⟨hindex, hupstream, hmode.trans hmode'.symm, hpatchset, by rw [hdiff, hdiff', hdiffText]⟩

/-- The text of the id of the release stands for one source. -/
theorem Texts.releaseParts_injective {t u : Texts} (ht : t.Formed) (hu : u.Formed)
    (h : segments t.releaseParts = segments u.releaseParts) :
    t.source = u.source ∧ t.external = u.external ∧ t.effective = u.effective := by
  have hsource := length_eq_of_isHex ht.source hu.source
  have hexternal := length_eq_of_isHex ht.external hu.external
  have heffective := length_eq_of_isHex ht.effective hu.effective
  have hparts := segments_injective (by simp only [releaseParts, lengths, List.map_cons, hsource, hexternal, heffective]) h
  simp only [releaseParts, List.cons.injEq] at hparts
  exact ⟨hparts.2.2.1, hparts.2.2.2.2.2.1, hparts.2.2.2.2.2.2.2.2.1⟩

/-- Identities of the same release are of the same source. -/
theorem Names.eq_of_release_eq {L : Libraries} (hinj : Function.Injective L.sha256) {p q : Fields} {t u : Texts} (ht : Names L p t)
    (hu : Names L q u) (h : field "suderra_release_source_id" p = field "suderra_release_source_id" q) : t = u := by
  have hdigest {x y : List Char} (heq : L.hexdigest (Utf8.encode (String.ofList x)) = L.hexdigest (Utf8.encode (String.ofList y))) :
      x = y := String.ofList_injective (Utf8.encode_injective (Python.hexdigest_injective hinj heq))
  rw [ht.release_eq, hu.release_eq, Value.str.injEq, releaseSourceId_eq, releaseSourceId_eq] at h
  obtain ⟨hsource, hexternal, heffective⟩ := Texts.releaseParts_injective ht.formed hu.formed (hdigest h)
  have hbound : L.hexdigest (Utf8.encode (String.ofList t.text)) = L.hexdigest (Utf8.encode (String.ofList u.text)) := by
    rw [← effectiveSourceId_eq, ← effectiveSourceId_eq, ← ht.bound, ← hu.bound, heffective]
  obtain ⟨hindex, hupstream, hmode, hpatchset, hdiff⟩ := Texts.text_injective ht.formed hu.formed (hdigest hbound)
  cases t
  cases u
  simp_all only

/-- Accepted identities of the same release have the same source in every field that names it. -/
theorem sources_eq_of_release_eq {L : Libraries} (hinj : Function.Injective L.sha256) {p q : Fields}
    (hp : validateMetadataPayload L p = .ok []) (hq : validateMetadataPayload L q = .ok [])
    (h : field "suderra_release_source_id" p = field "suderra_release_source_id" q) :
    (∀ name ∈ ["suderra_source_sha", "suderra_external_tree_sha256", "buildroot_index_sha", "buildroot_upstream_ref",
      "buildroot_source_mode", "buildroot_patchset_sha256"], field name p = field name q) ∧
      (field "buildroot_source_mode" p = .str "staged-patched-tree" →
        field "buildroot_staged_diff_sha256" p = field "buildroot_staged_diff_sha256" q) := by
  obtain ⟨⟨t, ht⟩, _⟩ := accepted_iff.1 hp
  obtain ⟨⟨u, hu⟩, _⟩ := accepted_iff.1 hq
  obtain rfl := ht.eq_of_release_eq hinj hu h
  constructor
  · simp only [List.forall_mem_cons, ht.source_eq, hu.source_eq, ht.external_eq, hu.external_eq, ht.index_eq, hu.index_eq, ht.upstream_eq,
      hu.upstream_eq, ht.mode_eq, hu.mode_eq, ht.patchset_eq, hu.patchset_eq, true_and]
    exact List.forall_mem_nil _
  · intro hstaged
    rw [ht.mode_eq, Value.str.injEq] at hstaged
    rcases ht.diff_eq with ⟨hmode, _⟩ | ⟨_, d, hdiff, _, hd⟩
    · exact absurd (hmode.symm.trans hstaged) (by decide)
    · rcases hu.diff_eq with ⟨hmode, _⟩ | ⟨_, d', hdiff', _, hd'⟩
      · exact absurd (hmode.symm.trans hstaged) (by decide)
      · rw [hd, hd', Option.some.inj (hdiff.symm.trans hdiff')]

/-! ### A sample -/

/-- An identity with these texts. -/
def identity (L : Libraries) (t : Texts) (patches dirty : List Value) (applied expected : Value) : Fields :=
  [("schema_version", .str "suderra.buildroot-source-identity.v2"), ("suderra_source_sha", .str t.source),
    ("suderra_external_tree_sha256", .str t.external), ("suderra_external_dirty_paths", .list dirty),
    ("suderra_release_source_id", .str (releaseSourceId L t.source t.external t.effective)), ("buildroot_index_sha", .str t.index),
    ("buildroot_upstream_ref", .str t.upstream), ("buildroot_source_mode", .str t.mode), ("buildroot_patchset_sha256", .str t.patchset),
    ("buildroot_patch_files", .list patches), ("buildroot_effective_source_id", .str t.effective),
    ("buildroot_expected_patched", .bool t.diff.isSome), ("buildroot_rust_version", .str nativeRustVersion),
    ("buildroot_rust_bin_version", .null), ("buildroot_expected_diff_sha256", expected),
    ("buildroot_staged_diff_sha256", (t.diff.map Value.str).getD .null), ("buildroot_applied_diff_sha256", applied)]

/-- An identity that is formed and bound has the names of its texts. -/
theorem names_identity {L : Libraries} {t : Texts} {patches dirty : List Value} {applied expected : Value} (ht : t.Formed)
    (hbound : t.effective = effectiveSourceId L t.index t.patchset t.diff t.upstream t.mode) (htree : L.lsTree t.source = none) :
    Names L (identity L t patches dirty applied expected) t where
  index_eq := rfl
  index_hex := ht.index
  upstream_eq := rfl
  mode_eq := rfl
  patchset_eq := rfl
  patchset_hex := ht.patchset
  source_eq := rfl
  source_hex := ht.source
  external_eq := rfl
  external_hex := ht.external
  effective_eq := rfl
  effective_hex := ht.effective
  release_eq := rfl
  tree := by
    intro entries hentries
    rw [htree] at hentries
    cases hentries
  diff_eq := by
    refine ht.diff.imp_right fun hstaged => ⟨hstaged.1, ?_⟩
    obtain ⟨_, d, hdiff, hhex⟩ := hstaged
    exact ⟨d, hdiff, hhex, show (t.diff.map Value.str).getD .null = .str d by rw [hdiff]; rfl⟩
  bound := hbound

/-- The texts of a release with the Buildroot that it pins. -/
def sampleTexts (effective : String) : Texts where
  index := nativeBuildrootCommit
  upstream := nativeBuildrootRef
  mode := "clean-native"
  patchset := emptyListDigest
  diff := none
  source := sampleArgs.sourceSha
  external := emptyListDigest
  effective := effective

theorem formed_sample {effective : String} (h : isHex 64 effective = true) : (sampleTexts effective).Formed where
  index := isHex_commit
  patchset := isHex_emptyList
  source := isHex_sourceSha
  external := isHex_emptyList
  effective := h
  diff := .inl ⟨rfl, rfl⟩

/-- An identity with the Buildroot that a release pins is accepted, whatever is dirty. -/
theorem accepted_sample {L : Libraries} {effective : String} {dirty : List Value} (heffective : isHex 64 effective = true)
    (hbound : effective = effectiveSourceId L nativeBuildrootCommit emptyListDigest none nativeBuildrootRef "clean-native")
    (hrelease : isHex 64 (releaseSourceId L sampleArgs.sourceSha emptyListDigest effective) = true)
    (htree : L.lsTree sampleArgs.sourceSha = none) (hdirty : dirtyPathFailures (.list dirty) = []) :
    validateMetadataPayload L (identity L (sampleTexts effective) [] dirty .null .null) = .ok [] := by
  refine accepted_iff.2 ⟨⟨_, names_identity (formed_sample heffective) hbound htree⟩, ?_⟩
  exact {
    schema := rfl
    release := isHexText_iff.2 ⟨_, rfl, hrelease⟩
    dirty := hdirty
    patches := rfl
    patched := rfl
    upstream := rfl
    rust := List.forall_mem_cons.2 ⟨rfl, List.forall_mem_singleton.2 rfl⟩
    diffs := by
      simp only [List.forall_mem_cons]
      exact ⟨rfl, rfl, rfl, rfl, List.forall_mem_nil _⟩
    mode := rfl }

/-- The digest of the id of the Buildroot source of the sample. -/
def sampleEffectiveDigest : Bytes := digestBytes 0x0d9329c35aeb3784ba1f174045508a9078222a2eeb9a7dd7924dba1175221953

def sampleReleaseDigest : Bytes := digestBytes 0xf70121b8d2c7f61697554d806356d01896316bc85523eb395ce26809c49bd1ec

def injectiveTexts : Texts := sampleTexts (String.ofList (Hex.encode sampleEffectiveDigest))

/-- The digests of the texts of the sample, and one of its own for every other text. -/
def injectiveSha256 (bytes : Bytes) : Bytes :=
  if bytes = Utf8.encode (String.ofList injectiveTexts.text) then sampleEffectiveDigest
  else if bytes = Utf8.encode (String.ofList (segments injectiveTexts.releaseParts)) then sampleReleaseDigest
  else bytes ++ List.replicate 33 0

theorem injectiveSha256_injective : Function.Injective injectiveSha256 := by
  have hne : sampleEffectiveDigest ≠ sampleReleaseDigest := by decide
  have hother (bytes : Bytes) : bytes ++ List.replicate 33 0 ≠ sampleEffectiveDigest ∧ bytes ++ List.replicate 33 0 ≠ sampleReleaseDigest := by
    constructor
    · intro h
      simpa [sampleEffectiveDigest, digestBytes] using congrArg List.length h
    · intro h
      simpa [sampleReleaseDigest, digestBytes] using congrArg List.length h
  intro x y h
  unfold injectiveSha256 at h
  split_ifs at h with hx hy hy' hx' hy hy' hy hy'
  · exact hx.trans hy.symm
  · exact absurd h hne
  · exact absurd h.symm (hother y).1
  · exact absurd h.symm hne
  · exact hx'.trans hy'.symm
  · exact absurd h.symm (hother y).2
  · exact absurd h (hother x).1
  · exact absurd h (hother x).2
  · exact List.append_cancel_right h

def injectiveLibraries : Libraries := { ingressLibraries with sha256 := injectiveSha256 }

theorem hexdigest_text : injectiveLibraries.hexdigest (Utf8.encode (String.ofList injectiveTexts.text)) = injectiveTexts.effective :=
  congrArg (fun bytes => String.ofList (Hex.encode bytes)) (if_pos rfl)

theorem bound_injectiveTexts : injectiveTexts.effective = effectiveSourceId injectiveLibraries injectiveTexts.index
    injectiveTexts.patchset injectiveTexts.diff injectiveTexts.upstream injectiveTexts.mode := by
  rw [effectiveSourceId_eq, hexdigest_text]

theorem isHex_injectiveTexts : isHex 64 injectiveTexts.effective = true := by
  rw [← hexdigest_text]
  refine Python.isHex_hexdigest ?_
  change (injectiveSha256 _).length = 32
  rw [injectiveSha256, if_pos rfl]
  rfl

theorem isHex_injectiveRelease :
    isHex 64 (releaseSourceId injectiveLibraries injectiveTexts.source injectiveTexts.external injectiveTexts.effective) = true := by
  have hne : segments injectiveTexts.releaseParts ≠ injectiveTexts.text := by
    intro h
    have hhead := congrArg List.head? h
    exact absurd hhead (by decide)
  rw [releaseSourceId_eq]
  refine Python.isHex_hexdigest ?_
  change (injectiveSha256 _).length = 32
  rw [injectiveSha256, if_neg fun h => hne (String.ofList_injective (Utf8.encode_injective h)), if_pos rfl]
  rfl

theorem accepted_injective {dirty : List Value} (hdirty : dirtyPathFailures (.list dirty) = []) :
    validateMetadataPayload injectiveLibraries (identity injectiveLibraries injectiveTexts [] dirty .null .null) = .ok [] :=
  accepted_sample isHex_injectiveTexts bound_injectiveTexts isHex_injectiveRelease rfl hdirty

/-- The identity of a checkout in which these paths are dirty. -/
def checkout (dirty : List Value) : Fields := identity injectiveLibraries injectiveTexts [] dirty .null .null

/-- Two checkouts of a release, one of them with a path that is dirty, have their source in common. -/
theorem sources_eq_at_dirty :
    (∀ name ∈ ["suderra_source_sha", "suderra_external_tree_sha256", "buildroot_index_sha", "buildroot_upstream_ref",
      "buildroot_source_mode", "buildroot_patchset_sha256"], field name (checkout []) = field name (checkout [.str " M board/overlay"])) ∧
      (field "buildroot_source_mode" (checkout []) = .str "staged-patched-tree" →
        field "buildroot_staged_diff_sha256" (checkout []) = field "buildroot_staged_diff_sha256" (checkout [.str " M board/overlay"])) :=
  sources_eq_of_release_eq (L := injectiveLibraries) injectiveSha256_injective (accepted_injective rfl) (accepted_injective rfl) rfl

end SuderraOs.Evidence.BuildrootIdentity
