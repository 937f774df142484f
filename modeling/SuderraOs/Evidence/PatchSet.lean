import SuderraOs.Evidence.SourceIdentity

/-!
# The patches that an identity lists

`patchset_sha256` is what `metadata` writes beside the patch files. `validate_metadata_payload` looks at the form of both and at
neither through the other, so the size of a patch may be another one (`accepted_setBytes`): what is accepted says of its own patches
what it lists only where it lists none (`selfConsistent_iff`).
-/

namespace SuderraOs.Evidence.BuildrootIdentity

open Value OperatorIngress ReleaseIngress

variable (L : Libraries)

/-- `canonical_patchset_payload`. -/
def canonicalPatchsetPayload (float : Double → List Char) (entries : List Value) : Bytes :=
  Utf8.encode (String.ofList (JsonText.write (JsonText.compactAscii float) 0 (Value.list entries).unique.sortKeys))

/-- `patchset_sha256`. -/
def patchsetSha256 (float : Double → List Char) (entries : List Value) : String :=
  L.hexdigest (canonicalPatchsetPayload float entries)

/-- What an identity says twice, it says the same way. -/
structure SelfConsistent (float : Double → List Char) (payload : Fields) : Prop where
  patchset : ∀ entries, field "buildroot_patch_files" payload = .list entries →
    field "buildroot_patchset_sha256" payload = .str (patchsetSha256 L float entries)
  ids : ∃ t, Names L payload t
  staged : field "buildroot_source_mode" payload = .str "staged-patched-tree" →
    field "buildroot_applied_diff_sha256" payload = field "buildroot_staged_diff_sha256" payload ∧
      field "buildroot_staged_diff_sha256" payload = field "buildroot_expected_diff_sha256" payload

/-- The payload with another value at a name of a patch file. -/
def edited (payload : Fields) (entries : List Value) (i : Nat) (item : Fields) (p : String × Value) : Fields :=
  setField payload ("buildroot_patch_files", .list (entries.set i (.dict (setField item p))))

/-- Whoever edits a patch file and nothing else is found out. -/
def EditsRejected (payload : Fields) : Prop :=
  ∀ entries i item name v, field "buildroot_patch_files" payload = .list entries → entries[i]? = some (.dict item) →
    name ∈ ["path", "bytes", "sha256"] → v.pyEq (field name item) = false →
      validateMetadataPayload L (edited payload entries i item (name, v)) ≠ .ok []

variable {L}

/-- Another list of patch files leaves the texts of an identity. -/
theorem Names.setPatches {payload : Fields} {t : Texts} (h : Names L payload t) (entries : Value) :
    Names L (setField payload ("buildroot_patch_files", entries)) t where
  index_eq := by rw [field_setField_of_ne (by decide), h.index_eq]
  index_hex := h.index_hex
  upstream_eq := by rw [field_setField_of_ne (by decide), h.upstream_eq]
  mode_eq := by rw [field_setField_of_ne (by decide), h.mode_eq]
  patchset_eq := by rw [field_setField_of_ne (by decide), h.patchset_eq]
  patchset_hex := h.patchset_hex
  source_eq := by rw [field_setField_of_ne (by decide), h.source_eq]
  source_hex := h.source_hex
  external_eq := by rw [field_setField_of_ne (by decide), h.external_eq]
  external_hex := h.external_hex
  effective_eq := by rw [field_setField_of_ne (by decide), h.effective_eq]
  effective_hex := h.effective_hex
  release_eq := by rw [field_setField_of_ne (by decide), h.release_eq]
  tree := h.tree
  diff_eq := by rw [field_setField_of_ne (by decide)]; exact h.diff_eq
  bound := h.bound

theorem modeFailures_of_staged {payload : Fields} (hmode : field "buildroot_source_mode" payload = .str "staged-patched-tree") :
    modeFailures payload = stagedFailures payload := by
  rw [modeFailures, hmode, if_neg (by decide), if_pos (by decide)]

/-- The mode of a source with patches asks only that there is one. -/
theorem modeFailures_setPatches {payload : Fields} {entry entry' : Value} {entries : List Value}
    (hmode : field "buildroot_source_mode" payload = .str "staged-patched-tree")
    (hentries : field "buildroot_patch_files" payload = .list (entry :: entries)) :
    modeFailures (setField payload ("buildroot_patch_files", .list (entry' :: entries))) = modeFailures payload := by
  have hpatches : field "buildroot_patch_files" (setField payload ("buildroot_patch_files", .list (entry' :: entries))) =
    .list (entry' :: entries) := field_setField_self ..
  have htruthy : (field "buildroot_patch_files" (setField payload ("buildroot_patch_files", .list (entry' :: entries)))).truthy =
      (field "buildroot_patch_files" payload).truthy := by
    rw [hpatches, hentries]
    rfl
  have hmode' : field "buildroot_source_mode" (setField payload ("buildroot_patch_files", .list (entry' :: entries))) =
      .str "staged-patched-tree" := by
    rw [field_setField_of_ne (by decide), hmode]
  rw [modeFailures_of_staged hmode, modeFailures_of_staged hmode', stagedFailures, stagedFailures, htruthy,
    field_setField_of_ne (by decide), field_setField_of_ne (by decide), field_setField_of_ne (by decide),
    field_setField_of_ne (by decide)]

/-- The size of a patch may be any other one. -/
theorem accepted_setBytes {payload item : Fields} {entries : List Value} {n : Int} (h : validateMetadataPayload L payload = .ok [])
    (hmode : field "buildroot_source_mode" payload = .str "staged-patched-tree")
    (hentries : field "buildroot_patch_files" payload = .list (.dict item :: entries)) (hn : 1 ≤ n) :
    validateMetadataPayload L (edited payload (.dict item :: entries) 0 item ("bytes", .int n)) = .ok [] := by
  obtain ⟨⟨t, ht⟩, hshaped⟩ := accepted_iff.1 h
  rw [edited, List.set_cons_zero]
  refine accepted_iff.2 ⟨⟨t, ht.setPatches _⟩, ?_⟩
  have hpatches := hshaped.patches
  rw [hentries, patchFilesFailures] at hpatches
  simp only [patchFailures, List.append_eq_nil_iff] at hpatches
  exact {
    schema := by rw [field_setField_of_ne (by decide)]; exact hshaped.schema
    release := by rw [field_setField_of_ne (by decide)]; exact hshaped.release
    dirty := by rw [field_setField_of_ne (by decide)]; exact hshaped.dirty
    patches := by
      have hpath : field "path" (setField item ("bytes", .int n)) = field "path" item := field_setField_of_ne (by decide)
      have hsha : field "sha256" (setField item ("bytes", .int n)) = field "sha256" item := field_setField_of_ne (by decide)
      have hbytes : isIntFrom 1 (field "bytes" (setField item ("bytes", .int n))) = true := by
        rw [show field "bytes" (setField item ("bytes", .int n)) = .int n from field_setField_self ..]
        simpa [isIntFrom, asInt] using hn
      rw [show field "buildroot_patch_files" (setField payload ("buildroot_patch_files",
        .list (.dict (setField item ("bytes", .int n)) :: entries))) = _ from field_setField_self .., patchFilesFailures]
      simp only [patchFailures, List.append_eq_nil_iff, hpath, hsha, hbytes, failUnless_eq_nil]
      simp only [failUnless_eq_nil] at hpatches
      exact ⟨⟨⟨hpatches.1.1.1, trivial⟩, hpatches.1.2⟩, hpatches.2⟩
    patched := by rw [field_setField_of_ne (by decide)]; exact hshaped.patched
    upstream := by rw [field_setField_of_ne (by decide)]; exact hshaped.upstream
    rust := by
      intro name hname
      rw [field_setField_of_ne (by rintro rfl; exact absurd hname (by decide))]
      exact hshaped.rust name hname
    diffs := by
      intro name hname
      rw [field_setField_of_ne (by rintro rfl; exact absurd hname (by decide))]
      exact hshaped.diffs name hname
    mode := (modeFailures_setPatches hmode hentries).trans hshaped.mode }

/-- The size of a patch is a number from 1 on, and another one is too. -/
theorem exists_other_bytes {v : Value} (h : isIntFrom 1 v = true) : ∃ n : Int, 1 ≤ n ∧ (Value.int n).pyEq v = false := by
  cases v with
  | int k =>
    have hk : 1 ≤ k := by simpa [isIntFrom, asInt] using h
    refine ⟨k + 1, by omega, ?_⟩
    rw [pyEq_int, beq_eq_false_iff_ne]
    omega
  | bool b => exact ⟨2, by decide, by cases b <;> decide⟩
  | _ => simp [isIntFrom, asInt] at h

/-- A source with patches has one whose size is not looked at. -/
theorem not_editsRejected_of_staged {payload : Fields} (h : validateMetadataPayload L payload = .ok [])
    (hmode : field "buildroot_source_mode" payload = .str "staged-patched-tree") : ¬ EditsRejected L payload := by
  intro hedits
  obtain ⟨_, hshaped⟩ := accepted_iff.1 h
  have hmodes := hshaped.mode
  have hpatches := hshaped.patches
  rw [modeFailures_of_staged hmode] at hmodes
  simp only [stagedFailures, List.append_eq_nil_iff, failUnless_eq_nil] at hmodes
  obtain ⟨⟨⟨_, hlisted⟩, _⟩, _⟩ := hmodes
  cases hfiles : field "buildroot_patch_files" payload with
  | list entries =>
    rw [hfiles] at hlisted hpatches
    cases entries with
    | nil => cases hlisted
    | cons entry entries =>
      cases entry with
      | dict item =>
        simp only [patchFilesFailures, patchFailures, List.append_eq_nil_iff, failUnless_eq_nil] at hpatches
        obtain ⟨n, hn, hne⟩ := exists_other_bytes hpatches.1.1.2
        exact hedits _ 0 item "bytes" (.int n) hfiles rfl (by simp) hne (accepted_setBytes h hmode hfiles hn)
      | _ => simp [patchFilesFailures, patchFailures] at hpatches
  | _ => simp [patchFilesFailures, hfiles] at hpatches

/-- A source without patches lists none. -/
theorem patches_of_native {payload : Fields} (h : validateMetadataPayload L payload = .ok [])
    (hmode : field "buildroot_source_mode" payload = .str "clean-native") : field "buildroot_patch_files" payload = .list [] := by
  obtain ⟨_, hshaped⟩ := accepted_iff.1 h
  have hmodes := hshaped.mode
  have hpatches := hshaped.patches
  rw [modeFailures, hmode, if_pos (by decide)] at hmodes
  simp only [cleanNativeFailures, List.append_eq_nil_iff, failUnless_eq_nil] at hmodes
  obtain ⟨⟨_, hnone⟩, _⟩ := hmodes
  cases hfiles : field "buildroot_patch_files" payload with
  | list entries =>
    cases entries with
    | nil => rfl
    | cons entry entries => simp [hfiles, isIn, pyEq, unique, uniqueItems, eqUnique, eqItems] at hnone
  | _ => simp [patchFilesFailures, hfiles] at hpatches

/-- An accepted identity says the same twice, and its patch files cannot be edited, where it lists none and names the digest of none. -/
theorem selfConsistent_iff {float : Double → List Char} {payload : Fields} (h : validateMetadataPayload L payload = .ok []) :
    SelfConsistent L float payload ∧ EditsRejected L payload ↔
      field "buildroot_source_mode" payload = .str "clean-native" ∧
        field "buildroot_patchset_sha256" payload = .str (patchsetSha256 L float []) := by
  obtain ⟨⟨t, ht⟩, _⟩ := accepted_iff.1 h
  constructor
  · rintro ⟨hself, hedits⟩
    rcases ht.diff_eq with ⟨hmode, _⟩ | ⟨hmode, _⟩
    · have hnative := ht.mode_eq
      rw [hmode] at hnative
      exact ⟨hnative, hself.patchset [] (patches_of_native h hnative)⟩
    · exact absurd hedits (not_editsRejected_of_staged h (by rw [ht.mode_eq, hmode]))
  · rintro ⟨hnative, hpatchset⟩
    have hfiles := patches_of_native h hnative
    refine ⟨⟨?_, ⟨t, ht⟩, ?_⟩, ?_⟩
    · intro entries hentries
      obtain rfl : entries = [] := by simpa [hfiles] using hentries.symm
      exact hpatchset
    · intro hstaged
      rw [hnative, Value.str.injEq] at hstaged
      exact absurd hstaged (by decide)
    · intro entries i item name v hentries hitem
      obtain rfl : entries = [] := by simpa [hfiles] using hentries.symm
      cases hitem

/-! ### Samples -/

def hashingLibraries : Libraries := { ingressLibraries with sha256 := Sha256.digest }

theorem isHex_hashing (bytes : Bytes) : isHex 64 (hashingLibraries.hexdigest bytes) = true :=
  Python.isHex_hexdigest (Sha256.length_digest bytes)

theorem patchsetSha256_nil : patchsetSha256 hashingLibraries (fun _ => []) [] = emptyListDigest := by
  rw [patchsetSha256, canonicalPatchsetPayload, Utf8.encode_ofList]
  rfl

/-- The identity of a checkout with the Buildroot that a release pins. -/
def nativeIdentity : Fields :=
  identity hashingLibraries
    (sampleTexts (effectiveSourceId hashingLibraries nativeBuildrootCommit emptyListDigest none nativeBuildrootRef "clean-native"))
    [] [] .null .null

theorem selfConsistent_native :
    SelfConsistent hashingLibraries (fun _ => []) nativeIdentity ∧ EditsRejected hashingLibraries nativeIdentity :=
  (selfConsistent_iff (accepted_sample (isHex_hashing _) rfl (isHex_hashing _) rfl rfl)).2
    ⟨rfl, by rw [patchsetSha256_nil]; rfl⟩

/-- A patch of a Buildroot that is not the one of a release. -/
def samplePatch : Fields :=
  [("path", .str "patches/buildroot/0001-rust.patch"), ("bytes", .int 812),
    ("sha256", .str "6e00cd562cc2d88e238dfb81d9439de7ec843ee9d0c9879d549cb1436786f975")]

def sampleDiff : String := "1e6ed65d77d6364eeaed5a745ba5c4985ae2b700dd85d7cf7f027bdf294a33fc"

def stagedTexts : Texts where
  index := sampleArgs.sourceSha
  upstream := "2025.02.4"
  mode := "staged-patched-tree"
  patchset := patchsetSha256 hashingLibraries (fun _ => []) [.dict samplePatch]
  diff := some sampleDiff
  source := sampleArgs.sourceSha
  external := emptyListDigest
  effective := effectiveSourceId hashingLibraries sampleArgs.sourceSha
    (patchsetSha256 hashingLibraries (fun _ => []) [.dict samplePatch]) (some sampleDiff) "2025.02.4" "staged-patched-tree"

def stagedIdentity : Fields := identity hashingLibraries stagedTexts [.dict samplePatch] [] (.str sampleDiff) (.str sampleDiff)

theorem accepted_staged : validateMetadataPayload hashingLibraries stagedIdentity = .ok [] := by
  have hdiff : isDigest (.str sampleDiff) = true := by decide +kernel
  have hformed : stagedTexts.Formed :=
    { index := isHex_sourceSha, patchset := isHex_hashing _, source := isHex_sourceSha, external := isHex_emptyList,
      effective := isHex_hashing _, diff := .inr ⟨rfl, _, rfl, isHex_of_isDigest hdiff⟩ }
  refine accepted_iff.2 ⟨⟨_, names_identity hformed rfl rfl⟩, ?_⟩
  exact {
    schema := rfl
    release := isHexText_iff.2 ⟨_, rfl, isHex_hashing _⟩
    dirty := rfl
    patches := by decide +kernel
    patched := rfl
    upstream := rfl
    rust := List.forall_mem_cons.2 ⟨rfl, List.forall_mem_singleton.2 rfl⟩
    diffs := by
      simp only [List.forall_mem_cons]
      exact ⟨rfl, rfl, rfl, rfl, List.forall_mem_nil _⟩
    mode := rfl }

/-- The size of a patch that is listed can be edited. -/
theorem staged_edited : validateMetadataPayload hashingLibraries stagedIdentity = .ok [] ∧
    validateMetadataPayload hashingLibraries (edited stagedIdentity [.dict samplePatch] 0 samplePatch ("bytes", .int 813)) = .ok [] ∧
      ¬ (SelfConsistent hashingLibraries (fun _ => []) stagedIdentity ∧ EditsRejected hashingLibraries stagedIdentity) :=
  ⟨accepted_staged, accepted_setBytes accepted_staged rfl rfl (by decide),
    fun h => not_editsRejected_of_staged accepted_staged rfl h.2⟩

end SuderraOs.Evidence.BuildrootIdentity
