import SuderraOs.Evidence.OperatorCreate
import SuderraOs.Evidence.ReleaseIngress

/-!
# The records of a release ingress

When the records of a manifest have no failures (`recordsFailures_eq_nil`), and what that says of the binding: a record is compared
with its file and never with the entry of the binding that lists it (`covers_binding_iff`).
-/

namespace SuderraOs.Evidence.ReleaseIngress

open Value OperatorIngress BuildrootIdentity

section Records

variable {L : BuildrootIdentity.Libraries} {C : Contract} {T : FileTree} {M : Matrix} {A : Args} {now : Int}

/-- The path of a record or of an entry of a binding. -/
def pathOf (item : Fields) : Option PosixPath := relativePath (field "path" item)

/-- The file of a record is the recorded one. -/
def FileMatches (L : BuildrootIdentity.Libraries) (T : FileTree) (root : List String) (item : Fields) (rel : PosixPath) : Prop :=
  ∃ bytes, treeFiles T (placeOf root rel) = some bytes ∧ (bytes ≠ [] ∨ allowEmpty item = true) ∧
    (field "bytes" item).pyEq (.int bytes.length) = true ∧ field "sha256" item = .str (L.hexdigest bytes)

/-- An input of the preflight stands below one of the roots of its profile and has the role of its path. -/
def InputMatches (C : Contract) (profile : String) (item : Fields) (rel : PosixPath) : Prop :=
  ∃ roots, C.preflightInputRoots profile = .ok roots ∧ rel.names.head?.any roots.contains = true ∧
    field "role" item = .str (preflightInputRoleForPath C rel)

/-- What is checked of a record that has a path. -/
structure IsRecord (L : BuildrootIdentity.Libraries) (C : Contract) (T : FileTree) (A : Args) (profile : String) (item : Fields)
    (rel : PosixPath) : Prop where
  path : pathOf item = some rel
  texts : ∀ name ∈ ["role", "defconfig", "target", "artifact"], isString (field name item) = true
  path_text : isString (field "path" item) = true
  source : (field "source" item).isIn [.str "build-artifact", .str "build-evidence", .str "installer-artifact",
    .str "image-build-contract", .str "preflight-input"] = true
  digest : isDigest (field "sha256" item) = true
  size : isIntFrom (if allowEmpty item then 0 else 1) (field "bytes" item) = true
  file : ∀ root, recordRoot A item = some root → FileMatches L T root item rel
  input : isPreflightInput item = true → InputMatches C profile item rel

theorem recordFileFailures_eq_nil {path : String} {root : List String} {item : Fields} {rel : PosixPath} :
    recordFileFailures L T path root item rel = [] ↔ FileMatches L T root item rel := by
  unfold recordFileFailures FileMatches
  split
  · next hnone =>
    simp only [List.cons_ne_nil, false_iff, not_exists, not_and]
    intro bytes hbytes hne
    rw [hbytes, Option.filter_eq_none_iff] at hnone
    have := hnone bytes rfl
    rcases hne with hne | hne <;> simp [hne] at this
  · next bytes hbytes =>
    obtain ⟨hread, hne⟩ := Option.filter_eq_some_iff.1 hbytes
    simp only [List.append_eq_nil_iff, failUnless_eq_nil, pyEq_str_iff]
    constructor
    · rintro ⟨hsize, hsha⟩
      exact ⟨bytes, hread, by simpa using hne, hsize, hsha⟩
    · rintro ⟨bytes', hread', _, hsize, hsha⟩
      obtain rfl : bytes' = bytes := Option.some.inj (hread'.symm.trans hread)
      exact ⟨hsize, hsha⟩

theorem preflightFailures_eq_nil {path profile : String} {item : Fields} {rel : PosixPath} :
    preflightFailures C path profile item rel = .ok [] ↔ (isPreflightInput item = true → InputMatches C profile item rel) := by
  unfold preflightFailures
  split
  · next h =>
    simp only [bind_ok_iff, Except.ok.injEq, List.append_eq_nil_iff, failUnless_eq_nil, pyEq_str_iff, InputMatches, h, true_imp_iff]
  · next h => simp [h]

theorem recordPathFailures_eq_nil {path profile : String} {seen : List String} {item : Fields} {rel : PosixPath} :
    recordPathFailures L C T A path profile seen item rel = .ok [] ↔ toString rel ∉ seen ∧
      (∀ root, recordRoot A item = some root → FileMatches L T root item rel) ∧
        (isPreflightInput item = true → InputMatches C profile item rel) := by
  unfold recordPathFailures
  rw [bind_ok_iff]
  simp only [Except.ok.injEq, List.append_eq_nil_iff, failUnless_eq_nil, Bool.not_eq_true', List.contains_eq_mem,
    decide_eq_false_iff_not, List.flatMap_eq_nil_iff, Option.mem_toList, recordFileFailures_eq_nil]
  constructor
  · rintro ⟨preflight, hpreflight, ⟨hnew, rfl⟩, hfile⟩
    exact ⟨hnew, hfile, preflightFailures_eq_nil.1 hpreflight⟩
  · rintro ⟨hnew, hfile, hinput⟩
    exact ⟨[], preflightFailures_eq_nil.2 hinput, ⟨hnew, rfl⟩, hfile⟩

/-- A record has no failures exactly when it is one and its path is new. -/
theorem recordFailures_eq_nil {profile : String} {seen : List String} {idx : Nat} {item : Fields} :
    recordFailures L C T A profile seen idx item = .ok [] ↔ ∃ rel, IsRecord L C T A profile item rel ∧ toString rel ∉ seen := by
  unfold recordFailures
  simp only [bind_ok_iff, guardError_ok_iff, Except.ok.injEq, List.append_eq_nil_iff, failUnless_eq_nil, checkSha256_eq_nil,
    List.flatMap_eq_nil_iff, checkRelativePath, checkString]
  constructor
  · rintro ⟨_, _, file, hfile, ⟨⟨⟨⟨htexts, hsource⟩, hpath, hrel⟩, hdigest⟩, hsize⟩, rfl⟩
    obtain ⟨s, hs, _⟩ := isString_spec hpath
    simp only [hs, asStr, Option.isNone_some, Bool.false_or, Option.isSome_iff_exists] at hrel
    obtain ⟨rel, hrel⟩ := hrel
    rw [hs, hrel, Option.map_some, Option.getD_some] at hfile
    obtain ⟨hnew, hfiles, hinput⟩ := recordPathFailures_eq_nil.1 hfile
    exact ⟨rel, ⟨by rw [pathOf, hs, hrel], htexts, hpath, hsource, hdigest, hsize, hfiles, hinput⟩, hnew⟩
  · rintro ⟨rel, h, hnew⟩
    have hhash : ((field "source" item).isHashable && (!isPreflightInput item || (field "role" item).isHashable)) = true := by
      obtain ⟨s, hs, _⟩ := isString_spec (h.texts "role" (by simp))
      have hsource := h.source
      simp only [isIn, List.any_cons, List.any_nil, Bool.or_false, Bool.or_eq_true, str_pyEq_iff] at hsource
      rcases hsource with hsource | hsource | hsource | hsource | hsource <;> simp [hsource, hs, isHashable]
    have hrel : relativePath (field "path" item) = some rel := h.path
    refine ⟨(), hhash, [], ?_, ⟨⟨⟨⟨h.texts, h.source⟩, h.path_text, by simp [hrel]⟩, h.digest⟩, h.size⟩, rfl⟩
    rw [hrel, Option.map_some, Option.getD_some]
    exact recordPathFailures_eq_nil.2 ⟨hnew, h.file, h.input⟩

/-- The path of an item, as a text, if it has one. -/
def pathText (item : Value) : Option String := item.asDict.bind fun item => (pathOf item).map toString

/-- The records from a place on have no failures exactly when each of them is one and no path is named twice. -/
theorem recordsFailures_eq_nil {profile : String} :
    ∀ {items : List Value} {seen : List String} {idx : Nat}, recordsFailures L C T A profile seen idx items = .ok [] ↔
      (∀ item ∈ items, ∃ fields rel, item = .dict fields ∧ IsRecord L C T A profile fields rel) ∧ (items.map pathText).Nodup ∧
        ∀ path ∈ seen, some path ∉ items.map pathText := by
  intro items
  induction items with
  | nil => simp [recordsFailures]
  | cons item items ih =>
    intro seen idx
    cases item with
    | dict fields =>
      rw [recordsFailures, bind_ok_iff, List.forall_mem_cons]
      simp only [bind_ok_iff, Except.ok.injEq, List.append_eq_nil_iff, List.map_cons, List.nodup_cons, List.mem_cons, not_or]
      constructor
      · rintro ⟨here, hhere, rest, hrest, rfl, rfl⟩
        obtain ⟨rel, hrecord, hnew⟩ := recordFailures_eq_nil.1 hhere
        obtain ⟨hrecords, hnodup, hseen⟩ := ih.1 hrest
        have hpath : pathText (.dict fields) = some (toString rel) := congrArg (Option.map toString) hrecord.path
        have hrel : relativePath (field "path" fields) = some rel := hrecord.path
        rw [hrel] at hseen
        refine ⟨⟨⟨fields, rel, rfl, hrecord⟩, hrecords⟩, ⟨?_, hnodup⟩, fun path hmem => ⟨?_, ?_⟩⟩
        · rw [hpath]
          exact hseen _ (by simp)
        · rw [hpath, Option.some.injEq]
          rintro rfl
          exact hnew hmem
        · exact hseen path (by simp [hmem])
      · rintro ⟨⟨⟨fields', rel, heq, hrecord⟩, hrecords⟩, ⟨hnew, hnodup⟩, hseen⟩
        obtain rfl := Value.dict.inj heq
        have hpath : pathText (.dict fields) = some (toString rel) := congrArg (Option.map toString) hrecord.path
        have hrel : relativePath (field "path" fields) = some rel := hrecord.path
        refine ⟨[], recordFailures_eq_nil.2 ⟨rel, hrecord, fun hmem => (hseen _ hmem).1 hpath.symm⟩, [],
          ih.2 ⟨hrecords, hnodup, fun path hmem => ?_⟩, rfl, rfl⟩
        rw [hrel] at hmem
        rcases List.mem_append.1 hmem with hmem | hmem
        · obtain rfl : path = toString rel := by simpa using hmem
          rwa [hpath] at hnew
        · exact (hseen path hmem).2
    | _ =>
      constructor
      · intro h
        obtain ⟨rest, _, h⟩ := bind_ok_iff.1 h
        simp at h
      · rintro ⟨h, _⟩
        obtain ⟨fields, _, heq, _⟩ := h _ List.mem_cons_self
        cases heq

/-! ## The binding -/

/-- The entries of a binding: its artifacts, the evidence of the build, the installers and the contract of the image build. -/
def bindingEntries (binding : Value) : List Fields :=
  binding.asDict.toList.flatMap fun binding =>
    (["artifacts", "build_evidence", "installers"].flatMap fun name => ((field name binding).asList.getD []).filterMap asDict) ++
      ((field "image_build_contract" binding).asDict.filter fun contract => !contract.isEmpty).toList

/-- Every entry of a binding is recorded with its path and its digest. -/
def Covers (manifest : Fields) (binding : Value) : Prop :=
  ∀ entry ∈ bindingEntries binding, ∃ item rel, .dict item ∈ filesOf manifest ∧ pathOf item = some rel ∧ pathOf entry = some rel ∧
    field "sha256" item = field "sha256" entry

/-- The digest that a record stands for: that of its file, or the one it names where the place of its file is not known. -/
def StandsFor (L : BuildrootIdentity.Libraries) (T : FileTree) (A : Args) (item : Fields) (rel : PosixPath) (sha256 : Value) : Prop :=
  match recordRoot A item with
  | some root => ∃ bytes, treeFiles T (placeOf root rel) = some bytes ∧ sha256 = .str (L.hexdigest bytes)
  | none => sha256 = field "sha256" item

/-- The path of every entry of a binding is recorded, and its digest is that of the file that the record names. -/
def Traces (L : BuildrootIdentity.Libraries) (T : FileTree) (A : Args) (manifest : Fields) (binding : Value) : Prop :=
  ∀ entry ∈ bindingEntries binding, ∃ item rel, .dict item ∈ filesOf manifest ∧ pathOf item = some rel ∧ pathOf entry = some rel ∧
    StandsFor L T A item rel (field "sha256" entry)

/-- A record stands for the digest that it names. -/
theorem IsRecord.standsFor_iff {profile : String} {item : Fields} {rel : PosixPath} (h : IsRecord L C T A profile item rel)
    {sha256 : Value} : StandsFor L T A item rel sha256 ↔ field "sha256" item = sha256 := by
  unfold StandsFor
  split
  · next root hroot =>
    obtain ⟨bytes, hread, _, _, hsha⟩ := h.file root hroot
    constructor
    · rintro ⟨bytes', hread', rfl⟩
      rw [hsha, Option.some.inj (hread'.symm.trans hread)]
    · rintro rfl
      exact ⟨bytes, hread, hsha⟩
  · exact eq_comm

/-- What the acceptance of a manifest has read and checked. -/
structure Accepted (L : BuildrootIdentity.Libraries) (C : Contract) (T : FileTree) (M : Matrix) (A : Args) (now : Int)
    (manifest : Fields) (binding : Option Value) : Prop where
  manifest_eq : readJson L.toPython (treeFiles T) A.manifest = .ok (some (.dict manifest))
  binding_eq : readBinding L T A = .ok binding
  binding_read : A.bindingManifest.isSome = true → binding.isSome = true
  head : headFailures C A manifest = []
  records : recordsFailures L C T A (textField L.toPython "profile" manifest) [] 0 (filesOf manifest) = .ok []
  strict : strictFailures L C T M A now manifest binding = .ok []

theorem accepted_of_validateManifest (h : validateManifest L C T M A now = .ok []) :
    ∃ manifest binding, Accepted L C T M A now manifest binding := by
  obtain ⟨document, hdocument, h⟩ := bind_ok_iff.1 h
  split at h
  · cases h
  · next manifest =>
    obtain ⟨_, _, h⟩ := bind_ok_iff.1 h
    obtain ⟨binding, hbinding, h⟩ := bind_ok_iff.1 h
    obtain ⟨identity, _, h⟩ := bind_ok_iff.1 h
    obtain ⟨records, hrecords, h⟩ := bind_ok_iff.1 h
    obtain ⟨strict, hstrict, h⟩ := bind_ok_iff.1 h
    simp only [Except.ok.injEq, List.append_eq_nil_iff, List.map_eq_nil_iff, Option.toList_eq_nil_iff, Option.filter_eq_none_iff] at h
    obtain ⟨⟨⟨⟨⟨⟨⟨⟨⟨⟨⟨hhead, hread⟩, _⟩, _⟩, _⟩, _⟩, _⟩, rfl⟩, _⟩, _⟩, rfl⟩, _⟩ := h
    refine ⟨manifest, binding, hdocument, hbinding, fun hsome => ?_, hhead, hrecords, hstrict⟩
    obtain ⟨path, hpath⟩ := Option.isSome_iff_exists.1 hsome
    exact Option.isSome_iff_ne_none.2 (by simpa using hread path hpath)
  · cases h

theorem Accepted.isRecord {manifest : Fields} {binding : Option Value} (h : Accepted L C T M A now manifest binding) :
    ∀ item ∈ filesOf manifest, ∃ fields rel, item = .dict fields ∧
      IsRecord L C T A (textField L.toPython "profile" manifest) fields rel := (recordsFailures_eq_nil.1 h.records).1

end Records

/-! ## A manifest of the image build -/

def ingressLibraries : BuildrootIdentity.Libraries := { sampleLibraries with lsTree := fun _ => none }

/-- The digest of a list without members. -/
def emptyListDigest : String := "4f53cda18c2baa0c0354bb5f9a3ecbe5ed12ab4d8e11ba873c2f11161202b945"

def sampleMatrixDigest : String := "6e00cd562cc2d88e238dfb81d9439de7ec843ee9d0c9879d549cb1436786f975"

def sampleEffectiveId : String :=
  effectiveSourceId ingressLibraries nativeBuildrootCommit emptyListDigest none nativeBuildrootRef "clean-native"

def sampleReleaseId : String := releaseSourceId ingressLibraries sampleArgs.sourceSha emptyListDigest sampleEffectiveId

/-- The fields that a manifest and its binding share. -/
def sampleIdentity (profile : String) : Fields :=
  [("version", .str sampleVersion), ("profile", .str profile), ("source_sha", .str sampleArgs.sourceSha),
    ("source_run_id", .str "7001"), ("source_run_attempt", .str "1"), ("build_workflow_name", .str imageBuildWorkflowName),
    ("build_workflow_path", .str imageBuildWorkflowPath),
    ("matrix_sha256", .str sampleMatrixDigest),
    ("buildroot_source_identity_schema_version", .str "suderra.buildroot-source-identity.v2"),
    ("buildroot_index_sha", .str nativeBuildrootCommit), ("buildroot_upstream_ref", .str nativeBuildrootRef),
    ("buildroot_source_mode", .str "clean-native"), ("buildroot_patchset_sha256", .str emptyListDigest),
    ("buildroot_patch_files", .list []), ("buildroot_effective_source_id", .str sampleEffectiveId),
    ("buildroot_expected_patched", .bool false), ("buildroot_rust_version", .str nativeRustVersion),
    ("buildroot_rust_bin_version", .str nativeRustVersion), ("suderra_source_sha", .str sampleArgs.sourceSha),
    ("suderra_external_tree_sha256", .str emptyListDigest), ("suderra_external_dirty_paths", .list []),
    ("suderra_release_source_id", .str sampleReleaseId)]

def sampleProducer : Fields :=
  [("provider", .str "github-actions"), ("repository", .str "suderra/os"), ("workflow", .str "Release Preflight"),
    ("run_id", .str "7003"), ("run_attempt", .str "1"), ("actor", .str "release-manager")]

/-- The manifest of these records. -/
def sampleIngress (profile : String) (records : List Fields) : Fields :=
  ("schema_version", .str schemaVersion) :: (sampleIdentity profile ++
    [("producer", .dict sampleProducer), ("generated_at", .str "2026-07-01T00:00:00Z"), ("expires_at", .str "2026-07-08T00:00:00Z"),
      ("schema_roles", .dict ((schemaRoles evidenceContract).map fun p => (p.1, .str p.2))), ("files", .list (records.map .dict))])

/-- The record of a file. -/
def ingressRecord (source role : String) (names : List String) (bytes : Bytes) : Fields :=
  [("source", .str source), ("role", .str role), ("defconfig", .str "release-input"), ("target", .str "release-input"),
    ("artifact", .str (names.getLast?.getD "")), ("path", .str (toString (⟨"", names⟩ : PosixPath))), ("bytes", .int bytes.length),
    ("sha256", .str (ingressLibraries.hexdigest bytes))]

/-- A text of hexadecimal digits is no placeholder. -/
theorem isString_of_isHex {n : Nat} {s : String} (hn : 20 < n) (h : isHex n s = true) : isString (.str s) = true := by
  simp only [isHex, Bool.and_eq_true, beq_iff_eq, List.all_eq_true] at h
  have hspace : ∀ c ∈ s.toList, PyText.isSpace c = false := by
    intro c hc
    rcases Bool.or_eq_true_iff.1 (h.2 c hc) with hdigit | hletter
    · exact PyText.isSpace_digit hdigit
    · simp only [Bool.and_eq_true, decide_eq_true_eq] at hletter
      have hlow : 97 ≤ c.toNat := hletter.1
      have hhigh : c.toNat ≤ 102 := hletter.2
      simp only [PyText.isSpace, Text.isWhitespace, Bool.or_eq_false_iff, Bool.and_eq_false_iff, decide_eq_false_iff_not, beq_eq_false_iff_ne]
      omega
  have hstrip : PyText.strip s.toList = s.toList := PyText.trimMatches_eq hspace
  have hplaceholders : ∀ word ∈ placeholders, word.toList.length ≤ 20 := by decide
  have hne : s ∉ placeholders := fun hmem => by
    have := hplaceholders s hmem
    omega
  have hblank : s.toList ≠ [] := fun hnil => by
    rw [hnil] at h
    simp at h
    omega
  simp [isString, asStr, isBlank, isPlaceholder, hstrip, hne, hblank]

theorem isHex_of_isDigest {s : String} (h : isDigest (.str s) = true) : isHex 64 s = true := by
  simp only [isDigest, Bool.and_eq_true] at h
  exact h.1

theorem isHex_hexdigest (bytes : Bytes) : isHex 64 (ingressLibraries.hexdigest bytes) = true :=
  isHex_of_isDigest (Sample.isDigest_sample bytes)

/-- The digests and the revisions of the sample are written in hexadecimal digits. -/
theorem digits_sample : isDigest (.str emptyListDigest) = true ∧ isDigest (.str sampleMatrixDigest) = true ∧
    isHex 40 sampleArgs.sourceSha = true ∧ isHex 40 nativeBuildrootCommit = true := by decide +kernel

theorem isDigest_emptyList : isDigest (.str emptyListDigest) = true := digits_sample.1

theorem isDigest_matrix : isDigest (.str sampleMatrixDigest) = true := digits_sample.2.1

theorem isHex_sourceSha : isHex 40 sampleArgs.sourceSha = true := digits_sample.2.2.1

theorem isHex_commit : isHex 40 nativeBuildrootCommit = true := digits_sample.2.2.2

theorem isHex_emptyList : isHex 64 emptyListDigest = true := isHex_of_isDigest isDigest_emptyList

/-- What the identity of the Buildroot source is taken from. -/
def sampleBuildroot : Fields :=
  [("schema_version", .str "suderra.buildroot-source-identity.v2"), ("buildroot_index_sha", .str nativeBuildrootCommit),
    ("buildroot_upstream_ref", .str nativeBuildrootRef), ("buildroot_source_mode", .str "clean-native"),
    ("buildroot_patchset_sha256", .str emptyListDigest), ("buildroot_patch_files", .list []),
    ("buildroot_effective_source_id", .str sampleEffectiveId), ("buildroot_expected_patched", .bool false),
    ("buildroot_rust_version", .str nativeRustVersion), ("buildroot_rust_bin_version", .str nativeRustVersion),
    ("suderra_source_sha", .str sampleArgs.sourceSha), ("suderra_external_tree_sha256", .str emptyListDigest),
    ("suderra_external_dirty_paths", .list []), ("suderra_release_source_id", .str sampleReleaseId)]

theorem isHex_effective : isHex 64 sampleEffectiveId = true := isHex_hexdigest _

theorem isHex_release : isHex 64 sampleReleaseId = true := isHex_hexdigest _

theorem isDigest_effective : isDigest (.str sampleEffectiveId) = true := Sample.isDigest_sample _

theorem isDigest_release : isDigest (.str sampleReleaseId) = true := Sample.isDigest_sample _

theorem fieldFailures_sample : fieldFailures sampleBuildroot = [] := by
  have hindex : isHexText 40 (field "buildroot_index_sha" sampleBuildroot) = true := isHexText_iff.2 ⟨_, rfl, isHex_commit⟩
  have heffective : isHexText 64 (field "buildroot_effective_source_id" sampleBuildroot) = true :=
    isHexText_iff.2 ⟨_, rfl, isHex_effective⟩
  have hsource : isHexText 40 (field "suderra_source_sha" sampleBuildroot) = true := isHexText_iff.2 ⟨_, rfl, isHex_sourceSha⟩
  have hexternal : isHexText 64 (field "suderra_external_tree_sha256" sampleBuildroot) = true :=
    isHexText_iff.2 ⟨_, rfl, isHex_emptyList⟩
  have hrelease : isHexText 64 (field "suderra_release_source_id" sampleBuildroot) = true := isHexText_iff.2 ⟨_, rfl, isHex_release⟩
  have hpatchset : isHexText 64 (field "buildroot_patchset_sha256" sampleBuildroot) = true := isHexText_iff.2 ⟨_, rfl, isHex_emptyList⟩
  have hdirty : field "suderra_external_dirty_paths" sampleBuildroot = .list [] := rfl
  have hpatches : field "buildroot_patch_files" sampleBuildroot = .list [] := rfl
  have hpatched : field "buildroot_expected_patched" sampleBuildroot = .bool false := rfl
  simp only [fieldFailures, List.append_eq_nil_iff, failUnless_eq_nil, hindex, heffective, hsource, hexternal, hrelease, hdirty, hpatchset,
    hpatches, hpatched, dirtyPathFailures, patchFilesFailures, patchFailures, List.zipIdx_nil, List.flatMap_nil, and_true]
  exact ⟨⟨⟨⟨by decide, by decide⟩, by decide⟩, by decide⟩, by decide⟩

theorem effectiveFailures_sample : effectiveFailures ingressLibraries sampleBuildroot = [] := by
  have hindex : field "buildroot_index_sha" sampleBuildroot = .str nativeBuildrootCommit := rfl
  have heffective : field "buildroot_effective_source_id" sampleBuildroot = .str sampleEffectiveId := rfl
  have hpatchset : field "buildroot_patchset_sha256" sampleBuildroot = .str emptyListDigest := rfl
  have hupstream : field "buildroot_upstream_ref" sampleBuildroot = .str nativeBuildrootRef := rfl
  have hmode : field "buildroot_source_mode" sampleBuildroot = .str "clean-native" := rfl
  have hdiff : ("clean-native" = "staged-patched-tree") = False := by decide
  simp only [effectiveFailures, hindex, heffective, hpatchset, hupstream, hmode, isHex_commit, isHex_emptyList, Bool.and_self, if_true,
    hdiff, if_false, failUnless_eq_nil, sampleEffectiveId, decide_true]

theorem releaseFailures_sample : releaseFailures ingressLibraries sampleBuildroot = [] := by
  have heffective : field "buildroot_effective_source_id" sampleBuildroot = .str sampleEffectiveId := rfl
  have hsource : field "suderra_source_sha" sampleBuildroot = .str sampleArgs.sourceSha := rfl
  have hexternal : field "suderra_external_tree_sha256" sampleBuildroot = .str emptyListDigest := rfl
  have hrelease : field "suderra_release_source_id" sampleBuildroot = .str sampleReleaseId := rfl
  have htree : ingressLibraries.lsTree sampleArgs.sourceSha = none := rfl
  simp only [releaseFailures, heffective, hsource, hexternal, hrelease, isHex_sourceSha, isHex_emptyList, isHex_effective, Bool.and_self,
    if_true, htree, Option.all_none, List.append_eq_nil_iff, failUnless_eq_nil, sampleReleaseId, decide_true, and_self]

theorem metadataFailures_sample : validateMetadataPayload ingressLibraries sampleBuildroot = .ok [] := by
  rw [validateMetadataPayload, fieldFailures_sample, effectiveFailures_sample, releaseFailures_sample]
  have hmode : modeFailures sampleBuildroot = [] := by decide
  rw [hmode]
  rfl

/-- The identity of the Buildroot source of the sample has no failures. -/
theorem identityFailures_sample (profile : String) (records : List Fields) :
    validateBuildrootIdentity ingressLibraries "$.buildroot_source_identity" (sampleIngress profile records) = .ok [] := by
  rw [validateBuildrootIdentity, show buildrootIdentity (sampleIngress profile records) = sampleBuildroot from rfl]
  exact bind_ok_iff.2 ⟨[], metadataFailures_sample, rfl⟩

/-- A manifest of the sample says of itself what it must. -/
theorem headFailures_sample {A : Args} {profile : String} (records : List Fields)
    (hprofile : profile ∈ ["technical-dry-run", "release-candidate"]) (hversion : A.expectedVersion = none) :
    headFailures evidenceContract A (sampleIngress profile records) = [] := by
  have hstring : isString (.str profile) = true ∧ (Value.str profile).isIn (evidenceContract.profiles.map fun p => .str p.1) = true := by
    rcases List.mem_cons.1 hprofile with rfl | hprofile
    · decide
    · obtain rfl := List.mem_singleton.1 hprofile
      decide
  have hvalues : textFields.map (fun name => field name (sampleIngress profile records)) =
      [.str sampleVersion, .str profile, .str sampleArgs.sourceSha, .str "7001", .str "1", .str imageBuildWorkflowName,
        .str imageBuildWorkflowPath, .str sampleMatrixDigest, .str "suderra.buildroot-source-identity.v2", .str nativeBuildrootCommit,
        .str nativeBuildrootRef, .str "clean-native", .str emptyListDigest, .str sampleEffectiveId, .str nativeRustVersion,
        .str nativeRustVersion] := rfl
  have hshort : ∀ s ∈ [sampleVersion, "7001", "1", imageBuildWorkflowName, imageBuildWorkflowPath, "suderra.buildroot-source-identity.v2",
    nativeBuildrootRef, "clean-native", nativeRustVersion], isString (.str s) = true := by decide
  have htexts : ∀ v ∈ textFields.map (fun name => field name (sampleIngress profile records)), isString v = true := by
    rw [hvalues]
    simp only [List.forall_mem_cons] at hshort ⊢
    obtain ⟨h₁, h₂, h₃, h₄, h₅, h₆, h₇, h₈, h₉, _⟩ := hshort
    exact ⟨h₁, hstring.1, isString_of_isHex (by decide) isHex_sourceSha, h₂, h₃, h₄, h₅,
      isString_of_isHex (by decide) (isHex_of_isDigest isDigest_matrix), h₆, isString_of_isHex (by decide) isHex_commit, h₇, h₈,
      isString_of_isHex (by decide) isHex_emptyList, isString_of_isHex (by decide) isHex_effective, h₉, h₉, by simp⟩
  simp only [headFailures, List.append_eq_nil_iff, failUnless_eq_nil, hversion, expectText, Option.toList_none, List.flatMap_nil,
    List.flatMap_eq_nil_iff, checkString, and_true]
  exact ⟨⟨⟨⟨pyEq_str_iff.2 rfl, fun name hname => htexts _ (List.mem_map_of_mem hname)⟩, pyEq_str_iff.2 rfl⟩, pyEq_str_iff.2 rfl⟩,
    hstring.2⟩

theorem ifNotNull_null {name : String} {manifest : Fields} {failures : Value → List String} (h : field name manifest = .null) :
    ifNotNull name manifest failures = [] := by
  rw [ifNotNull, h, if_pos (pyEq_null_iff.2 rfl)]

/-- The digests of a manifest of the sample are digests. -/
theorem digestFailures_sample {A : Args} {profile : String} (records : List Fields) (hsource : A.expectedSourceSha = none) :
    digestFailures A (sampleIngress profile records) = [] := by
  have hsha : isHexText 40 (field "source_sha" (sampleIngress profile records)) = true := isHexText_iff.2 ⟨_, rfl, isHex_sourceSha⟩
  have hmatrix : field "matrix_sha256" (sampleIngress profile records) = .str sampleMatrixDigest := rfl
  have hindex : isHexText 40 (field "buildroot_index_sha" (sampleIngress profile records)) = true :=
    isHexText_iff.2 ⟨_, rfl, isHex_commit⟩
  have hpatchset : field "buildroot_patchset_sha256" (sampleIngress profile records) = .str emptyListDigest := rfl
  have heffective : field "buildroot_effective_source_id" (sampleIngress profile records) = .str sampleEffectiveId := rfl
  have hsource' : lookup "suderra_source_sha" (sampleIngress profile records) = some (.str sampleArgs.sourceSha) := rfl
  have hsourceHex : isHexText 40 (.str sampleArgs.sourceSha) = true := isHexText_iff.2 ⟨_, rfl, isHex_sourceSha⟩
  have hexternal : lookup "suderra_external_tree_sha256" (sampleIngress profile records) = some (.str emptyListDigest) := rfl
  have hrelease : lookup "suderra_release_source_id" (sampleIngress profile records) = some (.str sampleReleaseId) := rfl
  have hpatched : field "buildroot_expected_patched" (sampleIngress profile records) = .bool false := rfl
  simp only [digestFailures, List.append_eq_nil_iff, failUnless_eq_nil, hsha, hmatrix, hindex, hpatchset, heffective, hpatched, ifPresent,
    hsource', hsourceHex, if_true, hsource, expectText, Option.toList_none,
    Option.toList_some, List.flatMap_nil, List.flatMap_cons, checkSha256_eq_nil, isDigest_matrix, isDigest_emptyList, hexternal, hrelease,
    and_true, true_and, isDigest_effective, isDigest_release]
  exact ⟨ifNotNull_null rfl, ifNotNull_null rfl, ifNotNull_null rfl, ifNotNull_null rfl⟩

theorem parseUtc_sample (path : String) :
    parseUtc sampleLibraries path (.str "2026-07-01T00:00:00Z") = .ok ⟨some 0, 1782864000⟩ ∧
      parseUtc sampleLibraries path (.str "2026-07-08T00:00:00Z") = .ok ⟨some 0, 1783468800⟩ := by
  have hgenerated : ("2026-07-01T00:00:00Z".toList.getLast? = some 'Z') ∧
      String.ofList "2026-07-01T00:00:00Z".toList.dropLast ++ "+00:00" = "2026-07-01T00:00:00+00:00" := by decide
  have hexpires : ("2026-07-08T00:00:00Z".toList.getLast? = some 'Z') ∧
      String.ofList "2026-07-08T00:00:00Z".toList.dropLast ++ "+00:00" = "2026-07-08T00:00:00+00:00" := by decide
  rw [parseUtc, parseUtc, if_pos hgenerated.1, hgenerated.2, if_pos hexpires.1, hexpires.2]
  simp [sampleLibraries]

/-- A manifest of the times of the sample with a producer and the roles of the contract. -/
theorem bodyFailures_of_fields {manifest producer roles : Fields}
    (hpatches : field "buildroot_patch_files" manifest = .list [])
    (hgenerated : field "generated_at" manifest = .str "2026-07-01T00:00:00Z")
    (hexpires : field "expires_at" manifest = .str "2026-07-08T00:00:00Z")
    (hproducer : field "producer" manifest = .dict producer) (hroles : field "schema_roles" manifest = .dict roles)
    (hproducerOk : ∀ name ∈ ["provider", "repository", "workflow", "run_id", "run_attempt", "actor"],
      isString (field name producer) = true)
    (hrolesOk : ∀ p ∈ schemaRoles evidenceContract, (field p.1 roles).pyEq (.str p.2) = true) :
    bodyFailures ingressLibraries evidenceContract sampleNow manifest = [] := by
  have hlibraries : ingressLibraries.toLibraries = sampleLibraries := rfl
  have hnow : sampleNow < 1783468800 := by decide
  simp only [bodyFailures, hpatches, hgenerated, hexpires, hproducer, hroles, hlibraries, parseUtc_sample, patchFilesFailuresFrom, errorOf,
    objectFailures, List.append_eq_nil_iff, failUnless_eq_nil, List.flatMap_eq_nil_iff, checkString, hnow, decide_true, true_and]
  exact ⟨hproducerOk, hrolesOk⟩

/-- The patches, the window, the producer and the roles of a manifest of the sample have no failures. -/
theorem bodyFailures_sample {profile : String} (records : List Fields) :
    bodyFailures ingressLibraries evidenceContract sampleNow (sampleIngress profile records) = [] := by
  have hproducerOk : ∀ name ∈ ["provider", "repository", "workflow", "run_id", "run_attempt", "actor"],
      isString (field name sampleProducer) = true := by decide +kernel
  have hrolesOk : ∀ p ∈ schemaRoles evidenceContract,
      (field p.1 ((schemaRoles evidenceContract).map fun p => (p.1, .str p.2))).pyEq (.str p.2) = true := by decide +kernel
  exact bodyFailures_of_fields rfl rfl rfl rfl rfl hproducerOk hrolesOk

/-- The record of a file that stands where it says is one. -/
theorem isRecord_ingressRecord {T : FileTree} {A : Args} {profile source role : String} {names : List String} {bytes : Bytes}
    (hnames : ∀ name ∈ names, IsName name) (hne : names ≠ []) (hbytes : bytes ≠ []) (hrole : isString (.str role) = true)
    (hname : isString (.str (names.getLast?.getD "")) = true) (hpath : isString (.str (toString (⟨"", names⟩ : PosixPath))) = true)
    (hsource : source ∈ ["build-artifact", "build-evidence", "installer-artifact", "image-build-contract", "preflight-input"])
    (hfile : ∀ root, (if source = "preflight-input" then A.inputRoot else A.artifactRoot) = some root →
      treeFiles T (placeOf root ⟨"", names⟩) = some bytes)
    (hinput : source = "preflight-input" → ∃ roots, evidenceContract.preflightInputRoots profile = .ok roots ∧
      names.head?.any roots.contains = true ∧ role = preflightInputRoleForPath evidenceContract ⟨"", names⟩) :
    IsRecord ingressLibraries evidenceContract T A profile (ingressRecord source role names bytes) ⟨"", names⟩ := by
  have hsourceField : field "source" (ingressRecord source role names bytes) = .str source := rfl
  have hroleField : field "role" (ingressRecord source role names bytes) = .str role := rfl
  have hbytesField : field "bytes" (ingressRecord source role names bytes) = .int bytes.length := rfl
  have hpreflight : isPreflightInput (ingressRecord source role names bytes) = decide (source = "preflight-input") := by
    rw [isPreflightInput, hsourceField, pyEq_str, Bool.beq_eq_decide_eq]
  constructor
  · have hread := PosixPath.ofString_toString hne fun name hname =>
      ⟨(hnames name hname).ne_empty, (hnames name hname).ne_dot, (hnames name hname).no_slash⟩
    have hparent : ".." ∉ names := fun hmem => (hnames _ hmem).ne_parent rfl
    change relativePath (.str _) = _
    simp [relativePath, asStr, hread, PosixPath.isAbsolute, PosixPath.hasParent, hparent]
  · have hfixed : isString (.str "release-input") = true := by decide
    simp only [List.forall_mem_cons]
    exact ⟨hrole, hfixed, hfixed, hname, by simp⟩
  · exact hpath
  · rw [hsourceField]
    simp only [List.mem_cons, List.not_mem_nil, or_false] at hsource
    rcases hsource with rfl | rfl | rfl | rfl | rfl <;> decide
  · exact Sample.isDigest_sample bytes
  · have hlength := List.length_pos_of_ne_nil hbytes
    rw [hbytesField]
    simp only [isIntFrom, asInt, Option.any_some, decide_eq_true_eq]
    split_ifs <;> omega
  · intro root hroot
    rw [recordRoot, hpreflight] at hroot
    simp only [decide_eq_true_eq] at hroot
    exact ⟨bytes, hfile root hroot, .inl hbytes, by rw [hbytesField, pyEq_int]; simp, rfl⟩
  · intro h
    rw [hpreflight, decide_eq_true_eq] at h
    obtain ⟨roots, hroots, hhead, rfl⟩ := hinput h
    exact ⟨roots, hroots, hhead, hroleField⟩

/-- A manifest of the sample is accepted if its records are and nothing else is missed. -/
theorem validateManifest_sample {T : FileTree} {M : Matrix} {A : Args} {profile : String} {records : List Fields}
    {binding : Option Fields} (hprofile : profile ∈ ["technical-dry-run", "release-candidate"]) (hversion : A.expectedVersion = none)
    (hsource : A.expectedSourceSha = none) (hsignature : A.requireSignature = false)
    (hmanifest : readJson ingressLibraries.toPython (treeFiles T) A.manifest = .ok (some (.dict (sampleIngress profile records))))
    (hbinding : readBinding ingressLibraries T A = .ok (binding.map .dict))
    (hasked : A.bindingManifest.isSome = true → binding.isSome = true)
    (hfields : ∀ fields ∈ binding, bindingFailures ingressLibraries (sampleIngress profile records) fields = [])
    (hrecords : recordsFailures ingressLibraries evidenceContract T A profile [] 0 (records.map .dict) = .ok [])
    (hcontract : hasImageBuildContract (sampleIngress profile records) = true)
    (hdry : dryRunRecords (sampleIngress profile records) = [])
    (hstrict : strictFailures ingressLibraries evidenceContract T M A sampleNow (sampleIngress profile records) (binding.map .dict) =
      .ok []) :
    validateManifest ingressLibraries evidenceContract T M A sampleNow = .ok [] := by
  have hfiles : filesOf (sampleIngress profile records) = records.map .dict := rfl
  have hne : records ≠ [] := by
    rintro rfl
    cases hcontract
  have htext : textField ingressLibraries.toPython "profile" (sampleIngress profile records) = profile := rfl
  have hdryFailures : dryRunFailures ingressLibraries (sampleIngress profile records) = [] := by
    have hfield : field "profile" (sampleIngress profile records) = .str profile := rfl
    have hnot : (Value.str profile).pyEq (.str "rc-evidence-dry-run") = false := by
      rcases List.mem_cons.1 hprofile with rfl | hprofile
      · decide
      · obtain rfl := List.mem_singleton.1 hprofile
        decide
    simp [dryRunFailures, hdry, hfield, hnot]
  have hread : A.bindingManifest.filter (fun _ => (binding.map Value.dict).isNone) = none := by
    rw [Option.filter_eq_none_iff]
    intro path hpath
    have := hasked (by simp [hpath])
    simpa [Option.isSome_iff_ne_none] using this
  have hcompared : (binding.map Value.dict).bind asDict = binding := by cases binding <;> rfl
  rw [validateManifest, hmanifest, ok_bind]
  change manifestFailures _ _ _ _ _ _ _ = _
  rw [manifestFailures, hbinding, identityFailures_sample, htext, hfiles, hrecords]
  simp only [guardError_bind_ok_iff, ok_bind, hstrict, hread, hcompared, headFailures_sample records hprofile hversion,
    digestFailures_sample records hsource, bodyFailures_sample records, hdryFailures, hcontract, hsignature, failUnless,
    Option.toList_none, List.map_nil, List.append_nil, List.nil_append]
  refine ⟨rfl, ?_⟩
  simpa using ⟨hfields, hne⟩

/-! ## An artifact that is not recorded -/

def contractBytes : Bytes := documentBytes (schemaDocument "suderra.image-build-contract.v1")

def contractRecord : Fields :=
  ingressRecord "image-build-contract" "image-build-contract" ["image-build-contract.json"] contractBytes

def imageBytes : Bytes := textBytes "x".toList

def imageEntry : Fields :=
  [("defconfig", .str "suderra_qemu_x86_64_defconfig"), ("target", .str "qemu-x86_64"),
    ("artifact", .str "suderra-qemu-x86_64.img.xz"), ("path", .str "suderra-qemu-x86_64.img.xz"),
    ("sha256", .str (ingressLibraries.hexdigest imageBytes))]

/-- The binding of a manifest of the sample: it lists an image and the contract of its build. -/
def sampleBinding (profile : String) : Fields :=
  ("schema_version", .str bindingSchemaVersion) :: (sampleIdentity profile ++
    [("artifacts", .list [.dict imageEntry]),
      ("build_evidence", .list []), ("installers", .list []),
      ("image_build_contract", .dict [("path", .str "image-build-contract.json"),
        ("sha256", .str (ingressLibraries.hexdigest contractBytes))])])

/-- The fields that a manifest of the sample shares with its binding agree. -/
theorem bindingFailures_sample (profile : String) (records : List Fields) :
    bindingFailures ingressLibraries (sampleIngress profile records) (sampleBinding profile) = [] := by
  have hagree : bindingFields.map (fun name => field name (sampleIngress profile records)) =
      bindingFields.map fun name => field name (sampleBinding profile) := rfl
  have hfields := List.map_inj_left.1 hagree
  simp only [bindingFailures, List.flatMap_eq_nil_iff, failUnless_eq_nil, decide_eq_true_eq]
  intro name hname
  rw [hfields name (List.mem_filter.1 hname).1]

/-- A dry run that records the contract of the image build and not the image. -/
def dryRunFiles : List (List String × Bytes) :=
  [(["run", "ingress-manifest.json"], documentBytes (sampleIngress "technical-dry-run" [contractRecord])),
    (["run", "binding.json"], documentBytes (sampleBinding "technical-dry-run")),
    (["artifacts", "image-build-contract.json"], contractBytes), (["artifacts", "suderra-qemu-x86_64.img.xz"], imageBytes)]

def dryRunTree : FileTree := .ofFiles dryRunFiles (by decide)

def dryRunArgs : Args where
  manifest := ⟨"/", ["run", "ingress-manifest.json"]⟩
  artifactRoot := some ["artifacts"]
  inputRoot := none
  bindingManifest := some ⟨"/", ["run", "binding.json"]⟩
  expectedVersion := none
  expectedSourceSha := none
  requireSignature := false
  certificateIdentity := none
  certificateOidcIssuer := none
  requireEvidenceIngressSignature := false
  evidenceIngressCertificateIdentity := none
  evidenceIngressCertificateOidcIssuer := none

/-- What stands in the tree of the dry run. -/
theorem dryRun_read {names : List String} {bytes : Bytes} (h : (names, bytes) ∈ dryRunFiles) :
    treeFiles dryRunTree ⟨"/", names⟩ = some bytes := FileTree.read_eq (FileTree.lstat_ofFiles h)

theorem dryRun_manifest : readJson ingressLibraries.toPython (treeFiles dryRunTree) dryRunArgs.manifest =
    .ok (some (.dict (sampleIngress "technical-dry-run" [contractRecord]))) :=
  readJson_documentBytes rfl (by decide) (dryRun_read List.mem_cons_self)

theorem dryRun_binding : readJson ingressLibraries.toPython (treeFiles dryRunTree) ⟨"/", ["run", "binding.json"]⟩ =
    .ok (some (.dict (sampleBinding "technical-dry-run"))) :=
  readJson_documentBytes rfl (by decide) (dryRun_read (List.mem_cons_of_mem _ List.mem_cons_self))

theorem contract_isRecord : IsRecord ingressLibraries evidenceContract dryRunTree dryRunArgs "technical-dry-run" contractRecord
    ⟨"", ["image-build-contract.json"]⟩ := by
  refine isRecord_ingressRecord (by decide) (by simp) (by decide) (by decide) (by decide)
    (by decide) (by simp) (fun root hroot => ?_) (by simp)
  obtain rfl : ["artifacts"] = root := Option.some.inj hroot
  exact dryRun_read (List.mem_cons_of_mem _ (List.mem_cons_of_mem _ List.mem_cons_self))

theorem dryRun_strict :
    strictFailures ingressLibraries evidenceContract dryRunTree buildMatrix dryRunArgs sampleNow
      (sampleIngress "technical-dry-run" [contractRecord]) (some (.dict (sampleBinding "technical-dry-run"))) = .ok [] := by
  have hstrict : isStrict evidenceContract (sampleIngress "technical-dry-run" [contractRecord]) = false := by decide
  rw [strictFailures, hstrict]
  exact if_neg Bool.false_ne_true

theorem dryRun_records :
    recordsFailures ingressLibraries evidenceContract dryRunTree dryRunArgs "technical-dry-run" [] 0 ([contractRecord].map .dict) = .ok [] := by
  refine recordsFailures_eq_nil.2 ⟨?_, by simp, by simp⟩
  rw [List.map_singleton, List.forall_mem_singleton]
  exact ⟨_, _, rfl, contract_isRecord⟩

theorem dryRun_readBinding :
    readBinding ingressLibraries dryRunTree dryRunArgs = .ok ((some (sampleBinding "technical-dry-run")).map .dict) := by
  have hpath : dryRunArgs.bindingManifest = some ⟨"/", ["run", "binding.json"]⟩ := rfl
  rw [readBinding, hpath, Option.map_some, Option.getD_some]
  exact dryRun_binding

theorem dryRun_accepted : validateManifest ingressLibraries evidenceContract dryRunTree buildMatrix dryRunArgs sampleNow = .ok [] := by
  have hcontract : hasImageBuildContract (sampleIngress "technical-dry-run" [contractRecord]) = true := by decide
  have hdry : dryRunRecords (sampleIngress "technical-dry-run" [contractRecord]) = [] := by decide
  exact @validateManifest_sample _ _ _ _ _ (some (sampleBinding "technical-dry-run")) List.mem_cons_self rfl rfl rfl dryRun_manifest
    dryRun_readBinding (fun _ => rfl) (fun fields hfields => Option.some.inj hfields ▸ bindingFailures_sample _ _) dryRun_records
    hcontract hdry dryRun_strict

theorem imageEntry_mem (profile : String) : imageEntry ∈ bindingEntries (.dict (sampleBinding profile)) := by
  have hartifacts : field "artifacts" (sampleBinding profile) = .list [.dict imageEntry] := rfl
  simp only [bindingEntries, asDict, Option.toList_some, List.flatMap_cons, hartifacts, asList, Option.getD_some, List.filterMap_cons,
    List.filterMap_nil, List.mem_append, List.mem_cons, true_or]

end SuderraOs.Evidence.ReleaseIngress
