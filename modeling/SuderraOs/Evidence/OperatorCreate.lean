import SuderraOs.Evidence.OperatorRecords

/-!
# Creating and validating an operator manifest

`create_manifest` of `operator-evidence-ingress.py` and when `validate_manifest` agrees with it. Both scan the tree and look at its
core files; only the validator asks for the schema of a file that is not required, and only it looks at what must not come from the
operator (`validate_created_iff`).
-/

namespace SuderraOs.Evidence.OperatorIngress

open Value

/-- The arguments of `create`. The input root is a real place. -/
structure CreateArgs where
  version : String
  sourceSha : String
  runId : String
  runAttempt : String
  repository : String
  workflow : String
  producerRunId : String
  producerRunAttempt : String
  actor : String
  expiresDays : Int
  bundleUrl : String
  bundleSha256 : String
  bundleSignatureSha256 : String
  bundleCertificateSha256 : String
  bundleCertificateIdentity : String
  bundleCertificateOidcIssuer : String
  bundleAllowedHost : String
  inputRoot : List String
  matrix : Matrix

section Create

variable (L : Libraries) (C : Contract) (T : FileTree) (P : CreateArgs) (now : Int)

/-- Whether a second is one that `datetime` can hold. -/
def inRange (seconds : Int) : Bool := -62135596800 ≤ seconds && seconds ≤ 253402300799

/-- `format_utc`. -/
def formatUtc (seconds : Int) : String := L.isoformat seconds ++ "Z"

def expiresAt : Int := now + 86400 * P.expiresDays

/-- The provenance of the bundle. -/
def bundleFields : Fields :=
  [("url", .str P.bundleUrl), ("sha256", .str P.bundleSha256), ("signature_sha256", .str P.bundleSignatureSha256),
    ("certificate_sha256", .str P.bundleCertificateSha256), ("certificate_identity", .str P.bundleCertificateIdentity),
    ("certificate_oidc_issuer", .str P.bundleCertificateOidcIssuer), ("allowed_host", .str (L.lower P.bundleAllowedHost)),
    ("verified", .bool true)]

/-- The producer. -/
def producerFields : Fields :=
  [("provider", .str "github-actions"), ("repository", .str P.repository), ("workflow", .str P.workflow),
    ("run_id", .str P.producerRunId), ("run_attempt", .str P.producerRunAttempt), ("actor", .str P.actor)]

/-- The manifest of these records. -/
def createdFields (required : List String) (records : List FileRecord) : Fields :=
  [("schema_version", .str "suderra.operator-evidence-ingress.v2"), ("version", .str P.version), ("source_sha", .str P.sourceSha),
    ("source_image_build_run_id", .str P.runId), ("source_image_build_run_attempt", .str P.runAttempt),
    ("operator_bundle", .dict (bundleFields L P)), ("producer", .dict (producerFields P)),
    ("generated_at", .str (formatUtc L now)), ("expires_at", .str (formatUtc L (expiresAt P now))),
    ("required_paths", .list ((sortNames required.dedup).map .str)), ("files", .list (records.map FileRecord.value))]

/-- `create_manifest`: the manifest and the failures. A date that `datetime` cannot hold raises. -/
def createManifest : Except String (Fields × List String) := do
  let records := scannedRecords L C T P.inputRoot P.version
  let core ← validateCoreFiles L C T P.matrix P.inputRoot P.version (records.map FileRecord.path)
  guardError "OverflowError" (inRange (expiresAt P now))
  let required ← operatorRequiredEvidencePaths L.toPython C P.version P.matrix
  let bundle ← validateOperatorBundleProvenance L (.dict (bundleFields L P))
  .ok (createdFields L P now required records,
    validateVersionSource P.version P.sourceSha ++ checkPositiveInt L "--source-image-build-run-id" (.str P.runId) ++
      checkPositiveInt L "--source-image-build-run-attempt" (.str P.runAttempt) ++
      scanEvidenceFailures L C T P.inputRoot P.version ++ core ++ bundle)

/-! ## The manifest that is written -/

/-- A record with its fields in the order of their names. -/
def FileRecord.sortedValue (record : FileRecord) : Value :=
  .dict [("bytes", .int record.bytes), ("path", .str record.path), ("role", .str record.role), ("sha256", .str record.sha256),
    ("source", .str "operator-evidence")]

def sortedBundle : Fields :=
  [("allowed_host", .str (L.lower P.bundleAllowedHost)), ("certificate_identity", .str P.bundleCertificateIdentity),
    ("certificate_oidc_issuer", .str P.bundleCertificateOidcIssuer), ("certificate_sha256", .str P.bundleCertificateSha256),
    ("sha256", .str P.bundleSha256), ("signature_sha256", .str P.bundleSignatureSha256), ("url", .str P.bundleUrl),
    ("verified", .bool true)]

def sortedProducer : Fields :=
  [("actor", .str P.actor), ("provider", .str "github-actions"), ("repository", .str P.repository),
    ("run_attempt", .str P.producerRunAttempt), ("run_id", .str P.producerRunId), ("workflow", .str P.workflow)]

/-- The manifest with its fields in the order of their names. -/
def sortedFields (required : List String) (records : List FileRecord) : Fields :=
  [("expires_at", .str (formatUtc L (expiresAt P now))), ("files", .list (records.map FileRecord.sortedValue)),
    ("generated_at", .str (formatUtc L now)), ("operator_bundle", .dict (sortedBundle L P)), ("producer", .dict (sortedProducer P)),
    ("required_paths", .list ((sortNames required.dedup).map .str)),
    ("schema_version", .str "suderra.operator-evidence-ingress.v2"), ("source_image_build_run_attempt", .str P.runAttempt),
    ("source_image_build_run_id", .str P.runId), ("source_sha", .str P.sourceSha), ("version", .str P.version)]

theorem sortKeysItems_strings : ∀ names : List String, Value.sortKeysItems (names.map .str) = names.map .str
  | [] => rfl
  | name :: names => by simp [Value.sortKeysItems, Value.sortKeys, sortKeysItems_strings names]

theorem sortKeysItems_records : ∀ records : List FileRecord,
    Value.sortKeysItems (records.map FileRecord.value) = records.map FileRecord.sortedValue
  | [] => rfl
  | record :: records => by
    simp +decide [Value.sortKeysItems, Value.sortKeys, Value.sortKeysFields, sortKeysItems_records records, FileRecord.value,
      FileRecord.sortedValue, List.orderedInsert]

theorem sortKeys_created (required : List String) (records : List FileRecord) :
    (Value.dict (createdFields L P now required records)).sortKeys = .dict (sortedFields L P now required records) := by
  simp +decide [createdFields, sortedFields, bundleFields, sortedBundle, producerFields, sortedProducer, Value.sortKeys,
    Value.sortKeysFields, sortKeysItems_strings, sortKeysItems_records, List.orderedInsert]

/-! ## The scan names each path once -/

variable {L C T P}

/-- The path of a record of a place below a root is the text of its names. -/
theorem path_recordOf {rel : PosixPath} {node : Node} {record : FileRecord} (h : recordOf L rel node = some record) :
    record.path = toString rel := by
  cases node with
  | file bytes =>
    simp only [recordOf] at h
    split_ifs at h
    rw [← Option.some.inj h]
  | _ => cases h

/-- The names of a place below one of the roots, from the input root. -/
theorem names_of_mem_rglob {inputRoot place : List String} {dirname : String} {node : Node}
    (h : (place, node) ∈ T.rglob (inputRoot ++ [dirname])) :
    ∃ rest, place = inputRoot ++ dirname :: rest ∧ ∀ name ∈ dirname :: rest, IsName name := by
  obtain ⟨hentry, ⟨rest, rfl⟩, _⟩ := FileTree.mem_rglob.1 h
  exact ⟨rest, by simp, fun name hname => (T.names _ hentry).2 name (by simpa using .inr (List.mem_cons.1 hname))⟩

theorem nodup_scanRoot (inputRoot : List String) (version dirname : String) :
    ((scanRoot L C T inputRoot version dirname).1.map FileRecord.path).Nodup := by
  unfold scanRoot
  simp only
  split_ifs
  · exact List.nodup_nil
  · exact List.nodup_nil
  · have hplaces := List.pairwise_map.1 (T.nodup_rglob (inputRoot ++ [dirname]))
    rw [List.Nodup, List.pairwise_map, List.pairwise_filterMap]
    refine hplaces.imp_of_mem fun {p q} hp hq hne record hrecord record' hrecord' heq => hne ?_
    obtain ⟨rest, hplace, hnames⟩ := names_of_mem_rglob hp
    obtain ⟨rest', hplace', hnames'⟩ := names_of_mem_rglob hq
    rw [path_recordOf hrecord, path_recordOf hrecord', hplace, hplace'] at heq
    simp only [relativeTo, List.drop_left] at heq
    rw [hplace, hplace', eq_of_toString_eq (by simp) (by simp) hnames hnames' heq]

theorem nodup_scannedPaths (inputRoot : List String) (version : String) :
    ((scannedRecords L C T inputRoot version).map FileRecord.path).Nodup := by
  rw [scannedRecords, ((List.perm_insertionSort _ _).map _).nodup_iff, List.map_flatMap, List.nodup_flatMap]
  refine ⟨fun dirname _ => nodup_scanRoot inputRoot version dirname, ?_⟩
  refine (C.nodup_treesWhere _).imp fun {dirname dirname'} hne path hpath hpath' => hne ?_
  obtain ⟨record, hrecord, rfl⟩ := List.mem_map.1 hpath
  obtain ⟨record', hrecord', heq⟩ := List.mem_map.1 hpath'
  obtain ⟨rest, bytes, _, hlstat, rfl⟩ := file_of_mem_scanRoot hrecord
  obtain ⟨rest', bytes', _, hlstat', rfl⟩ := file_of_mem_scanRoot hrecord'
  have hnames := fun name hname => FileTree.isName_of_lstat (by simp) hlstat name (List.mem_append_right _ hname)
  have hnames' := fun name hname => FileTree.isName_of_lstat (by simp) hlstat' name (List.mem_append_right _ hname)
  exact (List.cons.inj (eq_of_toString_eq (by simp) (by simp) hnames' hnames heq)).1.symm

/-- What the scan records depends on the files of the operator only. -/
theorem scannedRecords_congr {T' : FileTree} {inputRoot : List String} {version : String}
    (hscan : scanEvidenceFailures L C T inputRoot version = []) (hscan' : scanEvidenceFailures L C T' inputRoot version = [])
    (hfiles : ∀ names bytes, IsOperatorFile C T inputRoot names bytes ↔ IsOperatorFile C T' inputRoot names bytes) :
    scannedRecords L C T inputRoot version = scannedRecords L C T' inputRoot version := by
  have hnodup := nodup_scannedPaths (L := L) (C := C) (T := T) inputRoot version
  have hnodup' := nodup_scannedPaths (L := L) (C := C) (T := T') inputRoot version
  have hperm : (scannedRecords L C T inputRoot version).Perm (scannedRecords L C T' inputRoot version) := by
    rw [List.perm_ext_iff_of_nodup (List.Nodup.of_map _ hnodup) (List.Nodup.of_map _ hnodup')]
    intro record
    simp only [mem_scannedRecords hscan, mem_scannedRecords hscan', hfiles]
  have hunsorted := (List.perm_insertionSort _ _).symm.trans (hperm.trans (List.perm_insertionSort _ _))
  exact insertionSort_eq_of_perm hunsorted (((List.perm_insertionSort _ _).map _).nodup_iff.1 hnodup)

/-! ## When the validator agrees -/

/-- The arguments of `validate` for what `create` was asked for, with a manifest at a path, alone or within a release preflight. -/
def CreateArgs.validateArgs (P : CreateArgs) (manifest : PosixPath) (preflight : Bool) : Args where
  manifest := manifest
  inputRoot := some P.inputRoot
  matrix := P.matrix
  expectedVersion := some P.version
  expectedSourceSha := some P.sourceSha
  expectedRunId := some P.runId
  expectedRunAttempt := some P.runAttempt
  requireSignature := false
  certificateIdentity := none
  certificateOidcIssuer := none
  allowPreflightContext := preflight

/-- The names that a producer gives itself. -/
def CreateArgs.producerTexts (P : CreateArgs) : List String :=
  [P.repository, P.workflow, P.producerRunId, P.producerRunAttempt, P.actor]

/-- What the validator asks of a tree beyond what the creation of its manifest does. Within a preflight it lets pass what does not come
from the operator. -/
structure Agrees (L : Libraries) (C : Contract) (T : FileTree) (P : CreateArgs) (preflight : Bool) : Prop where
  schemas : ∀ names bytes, IsOperatorFile C T P.inputRoot names bytes →
    ReplaysSchema L C T (placeOf P.inputRoot ⟨"", names⟩) ⟨"", names⟩
  digests : ∀ names bytes, IsOperatorFile C T P.inputRoot names bytes → isDigest (.str (L.hexdigest bytes)) = true
  roots : preflight = false → ∀ dirname ∈ forbiddenInputDirs C, dirname ≠ "release-ingress" →
    T.stat (P.inputRoot ++ [dirname]) = none
  ingress : preflight = false → T.stat (versionedPath P.inputRoot "release-ingress" P.version "ingress-manifest.json").names = none

/-- What a creation without failures has checked. -/
structure Created (L : Libraries) (C : Contract) (T : FileTree) (P : CreateArgs) (now : Int) (required : List String) : Prop where
  required : operatorRequiredEvidencePaths L.toPython C P.version P.matrix = .ok required
  version : validateVersionSource P.version P.sourceSha = []
  run_id : checkPositiveInt L "--source-image-build-run-id" (.str P.runId) = []
  run_attempt : checkPositiveInt L "--source-image-build-run-attempt" (.str P.runAttempt) = []
  scan : scanEvidenceFailures L C T P.inputRoot P.version = []
  core : validateCoreFiles L C T P.matrix P.inputRoot P.version
    ((scannedRecords L C T P.inputRoot P.version).map FileRecord.path) = .ok []
  bundle : validateOperatorBundleProvenance L (.dict (bundleFields L P)) = .ok []

theorem created_of_createManifest {now : Int} {manifest : Fields} (h : createManifest L C T P now = .ok (manifest, [])) :
    ∃ required, Created L C T P now required ∧
      manifest = createdFields L P now required (scannedRecords L C T P.inputRoot P.version) := by
  obtain ⟨core, hcore, h⟩ := bind_ok_iff.1 h
  obtain ⟨_, h⟩ := guardError_bind_ok_iff.1 h
  obtain ⟨required, hrequired, h⟩ := bind_ok_iff.1 h
  obtain ⟨bundle, hbundle, h⟩ := bind_ok_iff.1 h
  simp only [Except.ok.injEq, Prod.mk.injEq, List.append_eq_nil_iff] at h
  obtain ⟨rfl, ⟨⟨⟨⟨hversion, hrun⟩, hattempt⟩, hscan⟩, rfl⟩, rfl⟩ := h
  exact ⟨required, ⟨hrequired, hversion, hrun, hattempt, hscan, hcore, hbundle⟩, rfl⟩

/-- The core files of a creation without failures hold every required path. -/
theorem Created.required_mem {now : Int} {required : List String} (h : Created L C T P now required) :
    ∀ path ∈ required, path ∈ (scannedRecords L C T P.inputRoot P.version).map FileRecord.path := by
  obtain ⟨required', hrequired, hcore⟩ := bind_ok_iff.1 h.core
  obtain rfl : required' = required := Except.ok.inj (hrequired.symm.trans h.required)
  obtain ⟨audit, _, hcore⟩ := bind_ok_iff.1 hcore
  obtain ⟨auditFailures, _, hcore⟩ := bind_ok_iff.1 hcore
  obtain ⟨registry, _, hcore⟩ := bind_ok_iff.1 hcore
  obtain ⟨files, _, hcore⟩ := bind_ok_iff.1 hcore
  simp only [Except.ok.injEq, List.append_eq_nil_iff, failUnless_eq_nil, List.isEmpty_iff, sortedDiff_eq_nil] at hcore
  exact hcore.1.1.1

/-- Core files that are there and have their schemas have no failures. -/
theorem validateCoreFiles_eq_nil {M : Matrix} {inputRoot : List String} {version : String} {required paths : List String}
    {audit : Value} {registry : Fields} (hrequired : operatorRequiredEvidencePaths L.toPython C version M = .ok required)
    (hpaths : ∀ path ∈ required, path ∈ paths)
    (haudit : readJson L.toPython (treeFiles T) (versionedPath inputRoot "release-governance" version "audit-log.json") =
      .ok (some audit))
    (hcollected : validateAuditLog (versionedPath inputRoot "release-governance" version "audit-log.json") audit = .ok [])
    (hregistry : readJson L.toPython (treeFiles T) (versionedPath inputRoot "release-governance" version "station-registry.json") =
      .ok (some (.dict registry)))
    (hschema : field "schema_version" registry = .str "suderra.lab-station-registry.v1")
    (hfiles : ∀ path ∈ required, requiredFileFailures L C T inputRoot path = .ok []) :
    validateCoreFiles L C T M inputRoot version paths = .ok [] := by
  have hsorted : ∀ path ∈ sortNames required.dedup, requiredFileFailures L C T inputRoot path = .ok [] := fun path hpath =>
    hfiles path (List.mem_dedup.1 (mem_sortNames.1 hpath))
  obtain ⟨failures, hfailures, hnil⟩ := exists_mapM_flatten_nil hsorted
  simp only [validateCoreFiles, hrequired, haudit, hregistry, hfailures, ok_bind, Option.map_some, Option.getD_some, hcollected,
    registryFailures, hschema, hnil, Except.ok.injEq, List.append_eq_nil_iff, failUnless_eq_nil, List.isEmpty_iff, sortedDiff_eq_nil]
  exact ⟨⟨⟨hpaths, trivial⟩, pyEq_str_iff.2 rfl⟩, trivial⟩

/-- The audit log is always required. -/
theorem auditLog_mem_required {Γ : Python} {M : Matrix} {version : String} {required : List String}
    (h : operatorRequiredEvidencePaths Γ C version M = .ok required) : s!"release-governance/{version}/audit-log.json" ∈ required := by
  obtain ⟨rows, _, h⟩ := bind_ok_iff.1 h
  rw [← Except.ok.inj h]
  simp

/-- A text that has a character which is no space is not blank. -/
theorem isBlank_of_mem {s : String} {c : Char} (hc : c ∈ s.toList) (hspace : PyText.isSpace c = false) : isBlank s = false := by
  obtain ⟨l, r, hcs, hl, hr⟩ := Text.trimMatches_spec PyText.isSpace s.toList
  rw [isBlank, List.isEmpty_eq_false_iff]
  intro hnil
  rw [show Text.trimMatches PyText.isSpace s.toList = [] from hnil, List.nil_append] at hcs
  rw [hcs] at hc
  rcases List.mem_append.1 hc with hc | hc
  · simp [hl c hc] at hspace
  · simp [hr c hc] at hspace

variable (L P) in
/-- The window of a manifest is open before it ends. -/
theorem windowFailures_created {now now' : Int} {required : List String} {records : List FileRecord} (hdays : 1 ≤ P.expiresDays)
    (hnow : now' < expiresAt P now)
    (hiso : ∀ t ∈ [now, expiresAt P now], L.fromisoformat (L.isoformat t ++ "+00:00") = some ⟨some 0, t⟩) :
    windowFailures L now' (sortedFields L P now required records) = [] := by
  have hparse : ∀ path, ∀ t ∈ [now, expiresAt P now], parseUtc L path (.str (formatUtc L t)) = .ok t := by
    intro path t ht
    have htext : (formatUtc L t).toList = (L.isoformat t).toList ++ ['Z'] := by simp [formatUtc]
    have hblank : isBlank (formatUtc L t) = false := isBlank_of_mem (c := 'Z') (by simp [htext]) (by decide)
    simp [parseUtc, hblank, htext, hiso t ht]
  have hgenerated := hparse "$.generated_at" now (by simp)
  have hexpires := hparse "$.expires_at" (expiresAt P now) (by simp)
  have hlt : now < expiresAt P now := by
    rw [expiresAt]
    omega
  have hgeneratedField : field "generated_at" (sortedFields L P now required records) = .str (formatUtc L now) := rfl
  have hexpiresField : field "expires_at" (sortedFields L P now required records) = .str (formatUtc L (expiresAt P now)) := rfl
  simp [windowFailures, hgeneratedField, hexpiresField, hgenerated, hexpires, hlt, hnow]

/-- The identity of a created manifest is the one asked for. -/
theorem Created.identityFailures {now : Int} {required : List String} (h : Created L C T P now required) (manifest : PosixPath) (preflight : Bool) :
    identityFailures L (P.validateArgs manifest preflight)
      (sortedFields L P now required (scannedRecords L C T P.inputRoot P.version)) = [] := by
  have hversion : field "version" (sortedFields L P now required (scannedRecords L C T P.inputRoot P.version)) = .str P.version := rfl
  have hsha : field "source_sha" (sortedFields L P now required (scannedRecords L C T P.inputRoot P.version)) = .str P.sourceSha := rfl
  have hid : field "source_image_build_run_id" (sortedFields L P now required (scannedRecords L C T P.inputRoot P.version)) =
    .str P.runId := rfl
  have hattempt : field "source_image_build_run_attempt"
    (sortedFields L P now required (scannedRecords L C T P.inputRoot P.version)) = .str P.runAttempt := rfl
  have hidOk := h.run_id
  have hattemptOk := h.run_attempt
  simp only [checkPositiveInt, failUnless_eq_nil, Value.pyStr] at hidOk hattemptOk
  simp [OperatorIngress.identityFailures, hversion, hsha, hid, hattempt, h.version, expectText, checkPositiveInt, hidOk, hattemptOk,
    CreateArgs.validateArgs, Value.pyStr]

/-- The producer of a created manifest has names for everything it must name. -/
theorem producerFailures_created {now : Int} {required : List String} {records : List FileRecord}
    (h : ∀ s ∈ P.producerTexts, s ≠ "") : producerFailures (sortedFields L P now required records) = [] := by
  simp only [CreateArgs.producerTexts, List.forall_mem_cons] at h
  have hproducer : field "producer" (sortedFields L P now required records) = .dict (sortedProducer P) := rfl
  have htext : ∀ s : String, s ≠ "" → isText (.str s) = true := by simp [isText, asStr]
  simp only [producerFailures, hproducer, objectFailures, List.flatMap_cons, List.flatMap_nil, List.append_eq_nil_iff,
    failUnless_eq_nil]
  exact ⟨htext "github-actions" (by decide), htext _ h.1, htext _ h.2.1, htext _ h.2.2.1, htext _ h.2.2.2.1, htext _ h.2.2.2.2.1, trivial⟩

/-- A version has a letter in it. -/
theorem mem_of_isSemver {version : String} (h : isSemver version = true) : 'v' ∈ version.toList := by
  unfold isSemver at h
  simp only at h
  split at h
  · next cs hcs => simp [hcs]
  · cases h

/-- A path that was recorded is read back as the path of its file. -/
theorem Created.safeRelativePath_eq {now : Int} {required : List String} (h : Created L C T P now required) {names : List String}
    {bytes : Bytes} (hfile : IsOperatorFile C T P.inputRoot names bytes) :
    safeRelativePath (.str (toString (⟨"", names⟩ : PosixPath))) = some ⟨"", names⟩ := by
  have hnames := hfile.isName
  have hread := PosixPath.ofString_toString hfile.names_ne_nil fun name hname =>
    ⟨(hnames name hname).ne_empty, (hnames name hname).ne_dot, (hnames name hname).no_slash⟩
  have hparent : ".." ∉ names := fun hmem => (hnames _ hmem).ne_parent rfl
  obtain ⟨root, rest, rfl, _⟩ := allowed_of_validate (hfile.scanned h.scan).2
  have hsemver := (List.append_eq_nil_iff.1 h.version).1
  rw [failUnless_eq_nil] at hsemver
  have hmem : P.version ∈ root :: P.version :: rest := by simp
  have hblank := isBlank_of_mem (PosixPath.mem_toString hmem (mem_of_isSemver hsemver)) (by decide)
  simp [safeRelativePath, hread, hblank, PosixPath.isAbsolute, PosixPath.hasParent, hparent]

theorem Created.recordRel_eq {now : Int} {required : List String} (h : Created L C T P now required) {names : List String}
    {bytes : Bytes} (hfile : IsOperatorFile C T P.inputRoot names bytes) :
    recordRel (fileRecord L names bytes).sortedValue = some ⟨"", names⟩ := h.safeRelativePath_eq hfile

/-- The paths of the records of a created manifest are those that were scanned. -/
theorem Created.map_recordPath {now : Int} {required : List String} (h : Created L C T P now required) :
    ((scannedRecords L C T P.inputRoot P.version).map FileRecord.sortedValue).map recordPath =
      ((scannedRecords L C T P.inputRoot P.version).map FileRecord.path).map some := by
  rw [List.map_map, List.map_map]
  refine List.map_congr_left fun record hrecord => ?_
  obtain ⟨names, bytes, hfile, rfl⟩ := (mem_scannedRecords h.scan).1 hrecord
  rw [Function.comp_apply, recordPath_eq, h.recordRel_eq hfile]
  rfl

theorem Created.seenPaths_eq {now : Int} {required : List String} (h : Created L C T P now required) :
    seenPaths (sortedFields L P now required (scannedRecords L C T P.inputRoot P.version)) =
      (scannedRecords L C T P.inputRoot P.version).map FileRecord.path := by
  have hmap : seenPaths (sortedFields L P now required (scannedRecords L C T P.inputRoot P.version)) =
      (((scannedRecords L C T P.inputRoot P.version).map FileRecord.sortedValue).map recordPath).filterMap id := by
    rw [List.filterMap_map]
    rfl
  rw [hmap, h.map_recordPath, List.filterMap_map]
  exact List.filterMap_some

/-- A record of a created manifest matches its file exactly when that replays its schema and has a digest. -/
theorem Created.isRecord_iff {now : Int} {required : List String} (h : Created L C T P now required) {names : List String}
    {bytes : Bytes} (hfile : IsOperatorFile C T P.inputRoot names bytes) :
    (∃ rel, IsRecord L C T P.inputRoot P.version (fileRecord L names bytes).sortedValue rel) ↔
      ReplaysSchema L C T (placeOf P.inputRoot ⟨"", names⟩) ⟨"", names⟩ ∧ isDigest (.str (L.hexdigest bytes)) = true := by
  have hrel := h.recordRel_eq hfile
  obtain ⟨hne, hallowed⟩ := hfile.scanned h.scan
  constructor
  · rintro ⟨rel, hpath, fields, hfields, _, hmatches⟩
    obtain rfl : (⟨"", names⟩ : PosixPath) = rel := Option.some.inj (hrel.symm.trans hpath)
    obtain rfl := Value.dict.inj hfields
    obtain ⟨bytes', hmatch⟩ := hmatches.file
    exact ⟨hmatch.schema, hmatches.digest⟩
  · rintro ⟨hschema, hdigest⟩
    have hsize : isIntFrom 1 (.int bytes.length) = true := by
      have := List.length_pos_of_ne_nil hne
      simp only [isIntFrom, asInt, Option.any_some, decide_eq_true_eq]
      omega
    refine ⟨⟨"", names⟩, hrel, _, rfl, rfl, hallowed, rfl, hsize, hdigest, bytes, hfile.read, hne, ?_, rfl, hschema⟩
    exact (Value.pyEq_int _ _).trans (by simp [fileRecord])

/-- The records of a created manifest match their files exactly when those replay and have digests. -/
theorem Created.recordsFailures_eq_nil {now : Int} {required : List String} (h : Created L C T P now required)
    (manifest : PosixPath) (preflight : Bool) :
    recordsFailures L C T (P.validateArgs manifest preflight) P.version [] 0
        ((scannedRecords L C T P.inputRoot P.version).map FileRecord.sortedValue) = .ok [] ↔
      ∀ names bytes, IsOperatorFile C T P.inputRoot names bytes →
        ReplaysSchema L C T (placeOf P.inputRoot ⟨"", names⟩) ⟨"", names⟩ ∧ isDigest (.str (L.hexdigest bytes)) = true := by
  have hnodup : (((scannedRecords L C T P.inputRoot P.version).map FileRecord.sortedValue).map recordPath).Nodup := by
    rw [h.map_recordPath]
    exact (nodup_scannedPaths P.inputRoot P.version).map (Option.some_injective _)
  rw [OperatorIngress.recordsFailures_eq_nil (A := P.validateArgs manifest preflight) rfl]
  constructor
  · rintro ⟨hrecords, _⟩ names bytes hfile
    have hmem := (mem_scannedRecords h.scan).2 ⟨names, bytes, hfile, rfl⟩
    exact (h.isRecord_iff hfile).1 (hrecords _ (List.mem_map_of_mem hmem))
  · intro hfiles
    refine ⟨fun item hitem => ?_, hnodup, by simp⟩
    obtain ⟨record, hrecord, rfl⟩ := List.mem_map.1 hitem
    obtain ⟨names, bytes, hfile, rfl⟩ := (mem_scannedRecords h.scan).1 hrecord
    exact (h.isRecord_iff hfile).2 (hfiles names bytes hfile)

/-- The paths that a created manifest lists as required are the required ones, and all of them are recorded. -/
theorem Created.requiredPathsFailures {now : Int} {required : List String} (h : Created L C T P now required)
    (manifest : PosixPath) (preflight : Bool) :
    requiredPathsFailures L C (P.validateArgs manifest preflight)
      (sortedFields L P now required (scannedRecords L C T P.inputRoot P.version)) = .ok [] := by
  have hpaths : field "required_paths" (sortedFields L P now required (scannedRecords L C T P.inputRoot P.version)) =
    .list ((sortNames required.dedup).map .str) := rfl
  have hstrings : ((sortNames required.dedup).map Value.str).filterMap asStr = sortNames required.dedup := by
    rw [List.filterMap_map]
    exact List.filterMap_some
  unfold OperatorIngress.requiredPathsFailures
  rw [hpaths]
  refine bind_ok_iff.2 ⟨required, h.required, ?_⟩
  simp only [hstrings, h.seenPaths_eq, Except.ok.injEq, List.append_eq_nil_iff, failUnless_eq_nil, Bool.and_eq_true, List.isEmpty_iff,
    sortedDiff_eq_nil, mem_sortNames, List.mem_dedup]
  exact ⟨⟨fun _ hname => hname, fun _ hname => hname⟩, h.required_mem⟩

/-- The tree has no failures against a created manifest exactly when nothing in it must not come from the operator. -/
theorem Created.treeFailures_eq_nil {now : Int} {required : List String} (h : Created L C T P now required) (manifest : PosixPath)
    (preflight : Bool) :
    treeFailures L C T (P.validateArgs manifest preflight)
        (sortedFields L P now required (scannedRecords L C T P.inputRoot P.version)) P.inputRoot = .ok [] ↔
      forbiddenFailures C T (P.validateArgs manifest preflight) P.inputRoot P.version = [] := by
  have hversion : versionOf L (sortedFields L P now required (scannedRecords L C T P.inputRoot P.version)) = P.version := rfl
  have hpaths : (filesOf (sortedFields L P now required (scannedRecords L C T P.inputRoot P.version))).filterMap
      (fun item => item.asDict.map fun item => (field "path" item).pyStr L.repr) =
        (scannedRecords L C T P.inputRoot P.version).map FileRecord.path := by
    change ((scannedRecords L C T P.inputRoot P.version).map FileRecord.sortedValue).filterMap _ = _
    rw [List.filterMap_map, ← List.filterMap_eq_map]
    rfl
  rw [treeFailures, bind_ok_iff]
  simp only [hversion, hpaths, h.seenPaths_eq, show (P.validateArgs manifest preflight).matrix = P.matrix from rfl, h.core, Except.ok.injEq,
    List.append_eq_nil_iff, failUnless_eq_nil, List.isEmpty_iff, sortedDiff_eq_nil, h.scan, exists_eq_left', imp_self, implies_true,
    true_and, and_true]

/-- Nothing in the tree must not come from the operator. -/
theorem forbiddenFailures_eq_nil {manifest : PosixPath} {preflight : Bool} :
    forbiddenFailures C T (P.validateArgs manifest preflight) P.inputRoot P.version = [] ↔
      (preflight = false → ∀ dirname ∈ forbiddenInputDirs C, dirname ≠ "release-ingress" → T.stat (P.inputRoot ++ [dirname]) = none) ∧
        (preflight = false → T.stat (versionedPath P.inputRoot "release-ingress" P.version "ingress-manifest.json").names = none) := by
  cases preflight <;> simp [forbiddenFailures, CreateArgs.validateArgs, List.flatMap_eq_nil_iff]

/-- What a creation without failures has checked makes the validator accept its manifest exactly when the tree agrees. -/
theorem Created.validateManifest_eq_nil {now now' : Int} {required : List String} {path : PosixPath} {preflight : Bool}
    (h : Created L C T P now required)
    (hread : readJson L.toPython (treeFiles T) path =
      .ok (some (.dict (sortedFields L P now required (scannedRecords L C T P.inputRoot P.version)))))
    (hdays : 1 ≤ P.expiresDays) (hproducer : ∀ s ∈ P.producerTexts, s ≠ "") (hnow : now' < expiresAt P now)
    (hiso : ∀ t ∈ [now, expiresAt P now], L.fromisoformat (L.isoformat t ++ "+00:00") = some ⟨some 0, t⟩) :
    validateManifest L C T (P.validateArgs path preflight) now' = .ok [] ↔ Agrees L C T P preflight := by
  have hbundle : validateOperatorBundleProvenance L
      (field "operator_bundle" (sortedFields L P now required (scannedRecords L C T P.inputRoot P.version))) = .ok [] := h.bundle
  have hfiles : filesOf (sortedFields L P now required (scannedRecords L C T P.inputRoot P.version)) =
    (scannedRecords L C T P.inputRoot P.version).map FileRecord.sortedValue := rfl
  have hne : (scannedRecords L C T P.inputRoot P.version).map FileRecord.sortedValue ≠ [] := by
    have hmem := h.required_mem _ (auditLog_mem_required h.required)
    intro hnil
    rw [List.map_eq_nil_iff.1 hnil] at hmem
    simp at hmem
  have hversion : versionOf L (sortedFields L P now required (scannedRecords L C T P.inputRoot P.version)) = P.version := rfl
  have hschema : field "schema_version" (sortedFields L P now required (scannedRecords L C T P.inputRoot P.version)) =
    .str "suderra.operator-evidence-ingress.v2" := rfl
  rw [validateManifest, show (P.validateArgs path preflight).manifest = path from rfl, hread, ok_bind]
  change manifestFailures L C T (P.validateArgs path preflight) now' _ = .ok [] ↔ _
  have htree : ((P.validateArgs path preflight).inputRoot.map (treeFailures L C T (P.validateArgs path preflight)
      (sortedFields L P now required (scannedRecords L C T P.inputRoot P.version)))).getD (.ok []) =
    treeFailures L C T (P.validateArgs path preflight) (sortedFields L P now required (scannedRecords L C T P.inputRoot P.version))
      P.inputRoot := rfl
  rw [manifestFailures, hbundle, ok_bind, hversion, hfiles, h.requiredPathsFailures path preflight]
  simp only [htree, ok_bind, bind_ok_iff, Except.ok.injEq, List.append_eq_nil_iff, failUnless_eq_nil, decide_eq_true_eq]
  constructor
  · rintro ⟨records, hrecords, tree, htree, ⟨⟨⟨_, rfl⟩, _⟩, rfl⟩, _⟩
    have hmatches := (h.recordsFailures_eq_nil path preflight).1 hrecords
    obtain ⟨hroots, hingress⟩ := forbiddenFailures_eq_nil.1 ((h.treeFailures_eq_nil path preflight).1 htree)
    exact ⟨fun names bytes hfile => (hmatches names bytes hfile).1, fun names bytes hfile => (hmatches names bytes hfile).2, hroots,
      hingress⟩
  · rintro ⟨hschemas, hdigests, hroots, hingress⟩
    refine ⟨[], (h.recordsFailures_eq_nil path preflight).2 fun names bytes hfile => ⟨hschemas names bytes hfile, hdigests names bytes hfile⟩, [],
      (h.treeFailures_eq_nil path preflight).2 (forbiddenFailures_eq_nil.2 ⟨hroots, hingress⟩), ?_⟩
    have hsignature : (P.validateArgs path preflight).requireSignature = false := rfl
    simp only [hschema, windowFailures_created L P hdays hnow hiso, h.identityFailures path preflight, producerFailures_created hproducer,
      hsignature, pyEq_str, beq_self_eq_true, Bool.false_eq_true, if_false, and_self, true_and, and_true]
    simpa using hne

end Create

/-! ## The evidence of a release candidate -/

def sampleVersion : String := "v1.0.0-rc.1"

/-- The bytes of a document. -/
def documentBytes (document : Fields) : Bytes :=
  (JsonText.write (JsonText.compact fun _ => []) 0 (.dict document)).flatMap String.utf8EncodeChar

/-- A document is read back from its bytes. -/
theorem readJson_documentBytes {Γ : Python} {files : Files} {path : PosixPath} {document : Fields} (hloads : Γ.loads = JsonText.read)
    (hplain : (Value.dict document).plain = true) (hfile : files path = some (documentBytes document)) :
    readJson Γ files path = .ok (some (.dict document)) := by
  rw [documentBytes, ← Utf8.encode_ofList] at hfile
  exact readJson_write (JsonText.compact_lawful _) (JsonText.compact_noReturn _) hplain hloads hfile

def sampleAudit : Fields :=
  [("schema_version", .str "suderra.audit-log-snapshot.v1"), ("status", .str "collected"),
    ("events_sha256", .str "34dd567bde26307e87e1996f33d72215e0d5673222738bfc26baa066fdfeadfd"),
    ("unapproved_governance_changes", .bool false), ("source_kind", .str "organization"), ("repository", .str "suderra/os"),
    ("query", .str "repo:suderra/os"), ("event_count", .int 0), ("collector", .dict [("identity", .str "release-manager")]),
    ("lookback_window", .dict [("start", .str "2026-06-01T00:00:00Z"), ("end", .str "2026-07-01T00:00:00Z"), ("days", .int 30)]),
    ("raw_export", .dict [("path", .str "export.json"), ("bytes", .int 17),
      ("sha256", .str "d267fddc853208acb382882504ac9e6ebe6f1038029a6842a690185f1d504617")]),
    ("replay", .dict [("status", .str "passed")])]

/-- A document with nothing but its schema. -/
def schemaDocument (schema : String) : Fields := [("schema_version", .str schema)]

/-- The digests of the files below. -/
def sampleDigests : List (Bytes × Nat) :=
  [(documentBytes (schemaDocument "suderra.release-approval.v2"), 0x7cf10682931e53ed14ea729141f0100109547b9e0db8b399fe5e0513bb14b73b),
    (documentBytes (schemaDocument "suderra.reproducibility.v1"), 0xe9b020b74768a0d2c3e11537f867562eb105afc7d297708d1c06ee003801944b),
    (documentBytes (schemaDocument "suderra.lab-evidence.v3"), 0x2525cdfe80f1b72e7528a59ded64991432f5743eb5ee1d83338059a5c01e9753),
    (documentBytes (schemaDocument "suderra.qemu-acceptance.v4"), 0x177071e57b3d36798f1b940ba2be531caf010582b900aca0e72a95b188d1b246),
    (documentBytes (schemaDocument "suderra.lab-station-registry.v1"),
      0x8df9a3371016ae170b58aacca02282deda2fc5c99aa3067ae7b404ce29594373),
    (documentBytes sampleAudit, 0x364fc7d52ba0a401f3446b2169824252f7f449ebfd57f147f66807aa70d633c3),
    (documentBytes (schemaDocument "suderra.image-build-contract.v1"),
      0x674223a7bb5e26a93ad89fcdf14f7ded392f14351c11be30a54b90805c6f2f74),
    ("signature".toList.flatMap String.utf8EncodeChar, 0x1a2fc26dc7ea5a2a4748b7cb2b1ef193d96ab2c99f93092f69e63075b28d1278),
    ("certificate".toList.flatMap String.utf8EncodeChar, 0x03d66dd08835c1ca3f128cceacd1f31ac94163096b20f445ae84285bc0832d72),
    ("x".toList.flatMap String.utf8EncodeChar, 0x2d711642b726b04401627ca9fbac32f5c8530fb1903cc4db02258717921a4881),
    ("approved\n".toList.flatMap String.utf8EncodeChar, 0x7f8518f7db5e9a55049f49c4ea6d6e8f509695231e60cbd607bcb36c88a75a14)]

/-- The 32 bytes of a number, the highest first. -/
def digestBytes (n : Nat) : Bytes := (List.range 32).map fun i => UInt8.ofNat (n / 256 ^ (31 - i))

def sampleSha256 (bytes : Bytes) : Bytes := digestBytes ((sampleDigests.lookup bytes).getD (2 ^ 256 - 1))

def sampleUrl : String := "https://evidence.suderra.example/bundle.tar.gz"

def sampleLibraries : Libraries where
  sha256 := sampleSha256
  loads := JsonText.read
  repr := fun _ => ""
  unicode := ⟨fun _ => none, fun cs => cs.map Char.toUpper⟩
  lower := fun s => String.ofList (s.toList.map Char.toLower)
  urlparse := fun s => if s = sampleUrl then some ⟨"https", none, none, some "evidence.suderra.example"⟩ else none
  fromisoformat := fun s =>
    if s = "2026-07-01T00:00:00+00:00" then some ⟨some 0, 1782864000⟩
    else if s = "2026-07-08T00:00:00+00:00" then some ⟨some 0, 1783468800⟩
    else none
  isoformat := fun t => if t = 1782864000 then "2026-07-01T00:00:00" else "2026-07-08T00:00:00"
  verifyBlob := fun _ _ _ => ⟨true, "", ""⟩

def sampleArgs : CreateArgs where
  version := sampleVersion
  sourceSha := "0123456789abcdef0123456789abcdef01234567"
  runId := "7001"
  runAttempt := "1"
  repository := "suderra/os"
  workflow := "Operator Evidence"
  producerRunId := "7002"
  producerRunAttempt := "1"
  actor := "release-manager"
  expiresDays := 7
  bundleUrl := sampleUrl
  bundleSha256 := "1e6ed65d77d6364eeaed5a745ba5c4985ae2b700dd85d7cf7f027bdf294a33fc"
  bundleSignatureSha256 := "1a2fc26dc7ea5a2a4748b7cb2b1ef193d96ab2c99f93092f69e63075b28d1278"
  bundleCertificateSha256 := "03d66dd08835c1ca3f128cceacd1f31ac94163096b20f445ae84285bc0832d72"
  bundleCertificateIdentity := "https://github.com/suderra/os/.github/workflows/evidence.yml@refs/heads/main"
  bundleCertificateOidcIssuer := "https://token.actions.githubusercontent.com"
  bundleAllowedHost := "evidence.suderra.example"
  inputRoot := ["in"]
  matrix := buildMatrix

/-- The documents of a target, by the names from the input root. -/
def targetDocuments (target input schema : String) : List (List String × Fields) :=
  [(["release-lab-input", sampleVersion, target, input], schemaDocument schema),
    (["release-approvals", sampleVersion, target ++ ".json"], schemaDocument "suderra.release-approval.v2"),
    (["release-reproducibility", sampleVersion, target ++ ".json"], schemaDocument "suderra.reproducibility.v1")]

/-- The documents that `buildMatrix` asks for. -/
def sampleDocuments : List (List String × Fields) :=
  [(["release-governance", sampleVersion, "audit-log.json"], sampleAudit),
    (["release-governance", sampleVersion, "station-registry.json"], schemaDocument "suderra.lab-station-registry.v1")] ++
  targetDocuments "qemu-x86_64" "qemu.json" "suderra.qemu-acceptance.v4" ++
  ["rpi4", "pi-cm4-revpi-usb-installer", "revpi4"].flatMap fun target =>
    targetDocuments target "lab.json" "suderra.lab-evidence.v3"

/-- The bytes of a text. -/
def textBytes (cs : List Char) : Bytes := cs.flatMap String.utf8EncodeChar

def manifestPath : PosixPath := ⟨"/", ["in", "release-ingress", sampleVersion, "evidence-ingress-manifest.json"]⟩

def sampleNow : Int := 1782864000

/-- The paths of the documents. -/
def sampleRequired : List String := sampleDocuments.map fun p => toString (⟨"", p.1⟩ : PosixPath)

theorem sampleRequired_eq :
    operatorRequiredEvidencePaths sampleLibraries.toPython evidenceContract sampleVersion buildMatrix = .ok sampleRequired := by
  decide +kernel

/-- The files beside the required ones: those of the operator and others. -/
structure Sample where
  extra : List (List String × Bytes)
  others : List (List String × Bytes)
  places : FileTree.Compatible
    ((sampleDocuments.map fun p => "in" :: p.1) ++ extra.map (·.1) ++ manifestPath.names :: others.map (·.1))

namespace Sample

variable (S : Sample)

/-- All the files, with these bytes for the manifest. -/
def files (manifest : Bytes) : List (List String × Bytes) :=
  (sampleDocuments.map fun p => ("in" :: p.1, documentBytes p.2)) ++ S.extra ++ (manifestPath.names, manifest) :: S.others

theorem compatible (manifest : Bytes) : FileTree.Compatible ((S.files manifest).map (·.1)) := by
  simpa [files, Function.comp_def] using S.places

def tree (manifest : Bytes) : FileTree := .ofFiles (S.files manifest) (S.compatible manifest)

/-- The manifest that is created. -/
def manifest : Fields :=
  createdFields sampleLibraries sampleArgs sampleNow sampleRequired
    (scannedRecords sampleLibraries evidenceContract (S.tree []) sampleArgs.inputRoot sampleVersion)

/-- Its text: `json.dumps(manifest, indent=2, sort_keys=True) + "\n"`. -/
def text : List Char := JsonText.write (JsonText.indented fun _ => []) 0 (Value.dict S.manifest).sortKeys ++ ['\n']

/-- The tree with the manifest in it. -/
def written : FileTree := S.tree (textBytes S.text)

/-- The scan has no failures, before and after the manifest is written. -/
abbrev Scanned : Prop :=
  scanEvidenceFailures sampleLibraries evidenceContract (S.tree []) ["in"] sampleVersion = [] ∧
    scanEvidenceFailures sampleLibraries evidenceContract S.written ["in"] sampleVersion = []

/-- The scan has no failures, and the other files are not the operator's. -/
structure Clean : Prop where
  others : ∀ p ∈ S.others, ∀ root ∈ evidenceContract.operatorIngressAllowedRoots, ¬ ["in", root] <+: p.1
  before : scanEvidenceFailures sampleLibraries evidenceContract (S.tree []) ["in"] sampleVersion = []
  after : scanEvidenceFailures sampleLibraries evidenceContract S.written ["in"] sampleVersion = []

variable {S}

/-- A file of the operator is a document or an extra file. -/
theorem Clean.isOperatorFile_iff (h : S.Clean) {manifest : Bytes} {names : List String} {bytes : Bytes} :
    IsOperatorFile evidenceContract (S.tree manifest) ["in"] names bytes ↔
      (∃ root rest, names = root :: rest ∧ rest ≠ [] ∧ root ∈ evidenceContract.operatorIngressAllowedRoots) ∧
        ("in" :: names, bytes) ∈ (sampleDocuments.map fun p => ("in" :: p.1, documentBytes p.2)) ++ S.extra := by
  constructor
  · rintro ⟨⟨root, rest, rfl, hrest, hroot⟩, hlstat⟩
    refine ⟨⟨root, rest, rfl, hrest, hroot⟩, ?_⟩
    rcases List.mem_append.1 (FileTree.mem_of_lstat_ofFiles (by simp) hlstat) with hmem | hmem
    · exact hmem
    · rcases List.mem_cons.1 hmem with heq | hmem
      · obtain rfl : root = "release-ingress" := (List.cons.inj (List.cons.inj (Prod.mk.inj heq).1).2).1
        exact absurd hroot (by decide)
      · exact absurd ⟨rest, rfl⟩ (h.others _ hmem root hroot)
  · rintro ⟨⟨root, rest, rfl, hrest, hroot⟩, hmem⟩
    exact ⟨⟨root, rest, rfl, hrest, hroot⟩, FileTree.lstat_ofFiles (List.mem_append_left _ hmem)⟩

/-- The manifest is that of the tree it is written to. -/
theorem Clean.manifest_eq (h : S.Clean) :
    S.manifest = createdFields sampleLibraries sampleArgs sampleNow sampleRequired
      (scannedRecords sampleLibraries evidenceContract S.written sampleArgs.inputRoot sampleVersion) := by
  have hcongr : scannedRecords sampleLibraries evidenceContract (S.tree []) ["in"] sampleVersion =
      scannedRecords sampleLibraries evidenceContract S.written ["in"] sampleVersion :=
    scannedRecords_congr h.before h.after fun _ _ => h.isOperatorFile_iff.trans h.isOperatorFile_iff.symm
  rw [manifest, show sampleArgs.inputRoot = ["in"] from rfl, hcongr]

theorem plain_createdFields (required : List String) (records : List FileRecord) :
    (Value.dict (createdFields sampleLibraries sampleArgs sampleNow required records)).plain = true := by
  have hstrings : ∀ names : List String, Value.plainItems (names.map .str) = true := by
    intro names
    induction names with
    | nil => rfl
    | cons name names ih => simpa [Value.plainItems, Value.plain] using ih
  have hrecords : ∀ records : List FileRecord, Value.plainItems (records.map FileRecord.value) = true := by
    intro records
    induction records with
    | nil => rfl
    | cons record records ih => simpa [Value.plainItems, Value.plain, Value.plainFields, FileRecord.value] using ih
  simp [createdFields, bundleFields, producerFields, Value.plain, Value.plainFields, hstrings, hrecords]

/-- The manifest is read back from where it was written. -/
theorem readJson_manifest :
    readJson sampleLibraries.toPython (treeFiles S.written) manifestPath = .ok (some (Value.dict S.manifest).sortKeys) := by
  have hfile : treeFiles S.written manifestPath = some (textBytes S.text) :=
    FileTree.read_eq (FileTree.lstat_ofFiles (h := S.compatible _) (List.mem_append_right _ List.mem_cons_self))
  rw [textBytes, ← Utf8.encode_ofList] at hfile
  exact readJson_append (JsonText.indented_lawful _) (JsonText.indented_noReturn _) (Value.plain_sortKeys (plain_createdFields _ _))
    (by simp) rfl hfile

/-- The documents of the sample are read back. -/
theorem readJson_document (manifest : Bytes) {p : List String × Fields} (hp : p ∈ sampleDocuments) :
    readJson sampleLibraries.toPython (treeFiles (S.tree manifest)) (placeOf ["in"] ⟨"", p.1⟩) = .ok (some (.dict p.2)) := by
  have hfile : treeFiles (S.tree manifest) (placeOf ["in"] ⟨"", p.1⟩) = some (documentBytes p.2) :=
    FileTree.read_eq (FileTree.lstat_ofFiles (h := S.compatible _)
      (List.mem_append_left _ (List.mem_append_left _ (List.mem_map_of_mem hp))))
  have hplain : ∀ p ∈ sampleDocuments, (Value.dict p.2).plain = true := by decide
  exact readJson_documentBytes rfl (hplain p hp) hfile

/-- The digest of anything is one: no number of the table is zero. -/
theorem isDigest_sample (bytes : Bytes) : isDigest (.str (sampleLibraries.hexdigest bytes)) = true := by
  have htable : ∀ n ∈ (2 ^ 256 - 1) :: sampleDigests.map (·.2), (Hex.encode (digestBytes n)).length = 64 ∧
      (∀ c ∈ Hex.encode (digestBytes n), (c.isDigit || ('a' ≤ c && c ≤ 'f')) = true) ∧
        Hex.encode (digestBytes n) ≠ List.replicate 64 '0' := by decide +kernel
  obtain ⟨hlength, hhex, hzero⟩ := htable ((sampleDigests.lookup bytes).getD (2 ^ 256 - 1)) (by
    cases hlookup : sampleDigests.lookup bytes with
    | none => exact List.mem_cons_self
    | some n =>
      obtain ⟨before, after, heq, _⟩ := List.lookup_eq_some_iff.1 hlookup
      exact List.mem_cons_of_mem _ (List.mem_map.2 ⟨(bytes, n), by simp [heq], rfl⟩))
  change isDigest (.str (String.ofList (Hex.encode (digestBytes _)))) = true
  have hne : String.ofList (Hex.encode (digestBytes ((sampleDigests.lookup bytes).getD (2 ^ 256 - 1)))) ≠
      String.ofList (List.replicate 64 '0') := fun h => hzero (String.ofList_inj.1 h)
  simp only [isDigest, isHex, String.toList_ofList, hlength, Bool.and_eq_true, beq_self_eq_true, List.all_eq_true, true_and, bne_iff_ne]
  exact ⟨hhex, hne⟩

/-- A document has the schema that its path asks for. -/
theorem schema_document {p : List String × Fields} (hp : p ∈ sampleDocuments) :
    ∀ expected ∈ coreSchema evidenceContract ⟨"", p.1⟩, field "schema_version" p.2 = .str expected := by
  have h : ∀ p ∈ sampleDocuments, ∀ expected ∈ coreSchema evidenceContract ⟨"", p.1⟩,
      (field "schema_version" p.2).pyEq (.str expected) = true := by decide
  exact fun expected hexpected => pyEq_str_iff.1 (h p hp expected hexpected)

theorem below_document {p : List String × Fields} (hp : p ∈ sampleDocuments) : ∃ root rest, p.1 = root :: rest ∧ rest ≠ [] ∧
    root ∈ evidenceContract.operatorIngressAllowedRoots := by
  have h : ∀ p ∈ sampleDocuments, p.1.tail ≠ [] ∧ p.1.head?.getD "" ∈ evidenceContract.operatorIngressAllowedRoots := by
    decide
  obtain ⟨hrest, hroot⟩ := h p hp
  obtain ⟨_ | ⟨root, rest⟩, _⟩ := p
  · exact absurd rfl hrest
  · exact ⟨root, rest, rfl, hrest, hroot⟩

/-- A document is a file of the operator. -/
theorem Clean.document (h : S.Clean) {p : List String × Fields} (hp : p ∈ sampleDocuments) :
    IsOperatorFile evidenceContract S.written ["in"] p.1 (documentBytes p.2) :=
  h.isOperatorFile_iff.2 ⟨below_document hp, List.mem_append_left _ (List.mem_map_of_mem hp)⟩

theorem Clean.requiredFileFailures (h : S.Clean) {path : String} (hpath : path ∈ sampleRequired) :
    requiredFileFailures sampleLibraries evidenceContract S.written ["in"] path = .ok [] := by
  obtain ⟨p, hp, rfl⟩ := List.mem_map.1 hpath
  have hfile := h.document hp
  have hread := PosixPath.ofString_toString hfile.names_ne_nil fun name hname =>
    ⟨(hfile.isName name hname).ne_empty, (hfile.isName name hname).ne_dot, (hfile.isName name hname).no_slash⟩
  have hsome : (treeFiles S.written (placeOf ["in"] ⟨"", p.1⟩)).isNone = false := by rw [hfile.read, Option.isNone_some]
  have hdocument := readJson_document (S := S) (textBytes S.text) hp
  unfold OperatorIngress.requiredFileFailures
  rw [hread]
  simp only [hsome, Bool.false_eq_true, if_false]
  rw [show treeFiles S.written = treeFiles (S.tree (textBytes S.text)) from rfl, hdocument, ok_bind]
  simp only [Except.ok.injEq, List.flatMap_eq_nil_iff, Option.mem_toList, failUnless_eq_nil, pyEq_str_iff]
  exact schema_document hp

/-- The manifest is created without failures. -/
theorem Clean.created (h : S.Clean) :
    Created sampleLibraries evidenceContract S.written sampleArgs sampleNow sampleRequired where
  required := sampleRequired_eq
  version := by decide +kernel
  run_id := by decide +kernel
  run_attempt := by decide +kernel
  scan := h.after
  core := by
    have haudit : (["release-governance", sampleVersion, "audit-log.json"], sampleAudit) ∈ sampleDocuments := by simp [sampleDocuments]
    have hregistry : (["release-governance", sampleVersion, "station-registry.json"],
      schemaDocument "suderra.lab-station-registry.v1") ∈ sampleDocuments := by simp [sampleDocuments]
    have hpath : ∀ name, versionedPath ["in"] "release-governance" sampleVersion name =
        placeOf ["in"] ⟨"", ["release-governance", sampleVersion, name]⟩ := by
      intro name
      rw [versionedPath, show PosixPath.ofString sampleVersion = ⟨"", [sampleVersion]⟩ by decide +kernel]
      rfl
    have hreadAudit := readJson_document (S := S) (textBytes S.text) haudit
    have hreadRegistry := readJson_document (S := S) (textBytes S.text) hregistry
    rw [← hpath] at hreadAudit hreadRegistry
    refine validateCoreFiles_eq_nil sampleRequired_eq (fun path hmem => ?_) hreadAudit (by decide +kernel) hreadRegistry rfl
      fun path hmem => h.requiredFileFailures hmem
    obtain ⟨p, hp, rfl⟩ := List.mem_map.1 hmem
    exact (mem_scannedPaths h.after).2 ⟨p.1, documentBytes p.2, h.document hp, rfl⟩
  bundle := by decide +kernel

theorem Clean.createManifest (h : S.Clean) :
    createManifest sampleLibraries evidenceContract S.written sampleArgs sampleNow = .ok (S.manifest, []) := by
  have hcreated := h.created
  have hrange : inRange (expiresAt sampleArgs sampleNow) = true := by decide
  simp only [OperatorIngress.createManifest, hcreated.core, ok_bind, hrange, hcreated.required, hcreated.bundle, hcreated.version,
    hcreated.run_id, hcreated.run_attempt, hcreated.scan, List.append_nil, h.manifest_eq]
  rfl

theorem fromisoformat_sample : ∀ t ∈ [sampleNow, expiresAt sampleArgs sampleNow],
    sampleLibraries.fromisoformat (sampleLibraries.isoformat t ++ "+00:00") = some ⟨some 0, t⟩ := by
  simp [expiresAt, sampleArgs, sampleNow, sampleLibraries]

/-- The validator accepts the manifest of the sample exactly when the tree agrees. -/
theorem Clean.validateManifest_eq_nil (h : S.Clean) {preflight : Bool} :
    validateManifest sampleLibraries evidenceContract S.written (sampleArgs.validateArgs manifestPath preflight) sampleNow = .ok [] ↔
      Agrees sampleLibraries evidenceContract S.written sampleArgs preflight := by
  have hread := readJson_manifest (S := S)
  rw [h.manifest_eq, sortKeys_created] at hread
  exact h.created.validateManifest_eq_nil hread (by decide) (by decide) (by decide) fromisoformat_sample

/-- A tree whose other files have no schema and which holds nothing forbidden agrees. -/
theorem Clean.agrees (h : S.Clean) (hextra : ∀ p ∈ S.extra, requiredSchemaVersionForPath evidenceContract ⟨"", p.1.tail⟩ = none)
    {preflight : Bool} (hroots : preflight = false → ∀ dirname ∈ forbiddenInputDirs evidenceContract, dirname ≠ "release-ingress" →
      S.written.stat ["in", dirname] = none)
    (hingress : preflight = false → S.written.stat ["in", "release-ingress", sampleVersion, "ingress-manifest.json"] = none) :
    Agrees sampleLibraries evidenceContract S.written sampleArgs preflight where
  schemas names bytes hfile := by
    intro expected hexpected
    rcases List.mem_append.1 (h.isOperatorFile_iff.1 hfile).2 with hmem | hmem
    · obtain ⟨p, hp, heq⟩ := List.mem_map.1 hmem
      obtain ⟨rfl, rfl⟩ : p.1 = names ∧ documentBytes p.2 = bytes := by simpa using heq
      refine ⟨p.2, readJson_document _ hp, schema_document hp expected ?_⟩
      simp [coreSchema, hexpected]
    · exact absurd (hexpected.symm.trans (hextra _ hmem)) (by simp)
  digests names bytes _ := isDigest_sample bytes
  roots := hroots
  ingress := by
    rw [show (versionedPath sampleArgs.inputRoot "release-ingress" sampleArgs.version "ingress-manifest.json").names =
      ["in", "release-ingress", sampleVersion, "ingress-manifest.json"] by decide]
    exact hingress

end Sample

/-- Nothing but the required evidence. -/
def candidate : Sample := ⟨[], [], by decide +kernel⟩

/-- A note beside the approvals. -/
def candidateWithNotes : Sample :=
  ⟨[(["in", "release-approvals", sampleVersion, "notes.txt"], textBytes "approved\n".toList)], [], by decide +kernel⟩

theorem scanned_candidates : candidate.Scanned ∧ candidateWithNotes.Scanned := by decide +kernel

theorem candidate_clean : candidate.Clean := ⟨by simp [candidate], scanned_candidates.1.1, scanned_candidates.1.2⟩

theorem candidateWithNotes_clean : candidateWithNotes.Clean :=
  ⟨by simp [candidateWithNotes], scanned_candidates.2.1, scanned_candidates.2.2⟩

theorem candidate_agrees : Agrees sampleLibraries evidenceContract candidate.written sampleArgs false :=
  candidate_clean.agrees (by simp [candidate]) (by decide +kernel) (by decide +kernel)

end SuderraOs.Evidence.OperatorIngress
