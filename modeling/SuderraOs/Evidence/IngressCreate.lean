import SuderraOs.Evidence.IngressRecords
import SuderraOs.Lib.FileWrite

/-!
# Creating a release ingress

`create` of `release-ingress.py`. It records the files that the binding lists and those below the roots of the profile, and then writes
the manifest, which may stand among them: the next run records what this one wrote and overwrites it (`records_match_iff`).
-/

namespace SuderraOs.Evidence.ReleaseIngress

open Value OperatorIngress BuildrootIdentity

/-- The arguments of `create`. The roots and the output are places, through links or not. -/
structure CreateArgs where
  bindingManifest : PosixPath
  artifactRoot : List String
  inputRoot : Option (List String)
  output : List String
  repository : String
  workflow : String
  runId : String
  runAttempt : String
  actor : String
  expiresDays : Int

/-- `role_for_artifact`. -/
def roleForArtifact (artifact : String) : String :=
  let endsWith (suffix : String) : Bool := suffix.toList.isSuffixOf artifact.toList
  if endsWith ".log" then "build-log"
  else if endsWith ".warnings.json" then "warning-classifier-evidence"
  else if endsWith ".img.xz" || endsWith ".img" then "release-image"
  else if artifact = "MANIFEST.txt" || endsWith ".manifest.txt" then "checksum"
  else if artifact = "manifest.json" || endsWith ".payload-manifest.json" then "payload-manifest"
  else if artifact = "manifest.sig" || endsWith ".payload-manifest.sig" then "payload-signature"
  else "build-artifact"

section Create

variable (L : BuildrootIdentity.Libraries) (floatText : Double → List Char) (C : Contract) (T : FileTree) (A : CreateArgs) (now : Int)

/-- `append_file_record`. -/
def fileRecord (source : String) (role defconfig target artifact : Value) (rel : PosixPath) (bytes : Bytes) : Fields :=
  [("source", .str source), ("role", role), ("defconfig", defconfig), ("target", target),
    ("artifact", artifact.orElse (.str rel.name)), ("path", .str (toString rel)), ("bytes", .int bytes.length),
    ("sha256", .str (L.hexdigest bytes))]

/-! ### What the binding lists -/

/-- The lists of a binding, each with the source that its records name. -/
def collections (binding : Fields) : List (Value × String) :=
  [((lookup "artifacts" binding).getD (.list []), "build-artifact"),
    ((lookup "build_evidence" binding).getD (.list []), "build-evidence"),
    ((lookup "installers" binding).getD (.list []), "installer-artifact"),
    (.list (if (field "image_build_contract" binding).truthy then [field "image_build_contract" binding] else []),
      "image-build-contract")]

/-- The record of an entry of the binding. -/
def artifactRecord (source : String) (artifact : Fields) (rel : PosixPath) (bytes : Bytes) : Fields :=
  let isContract := source = "image-build-contract"
  let role := (field "role" artifact).orElse
    (.str (roleForArtifact (((lookup "artifact" artifact).getD (.str "")).pyStr L.repr)))
  let defconfig := (field "defconfig" artifact).orElse (.str ("installer-" ++ (field "arch" artifact).pyStr L.repr))
  let target := (field "target" artifact).orElse (field "arch" artifact)
  fileRecord L source role (if isContract then .str "image-build-contract" else defconfig)
    (if isContract then .str "image-build-contract" else target) (field "artifact" artifact) rel bytes

/-- The file of an entry of the binding, if it has bytes. -/
def artifactFile (rel : PosixPath) : Option Bytes := (treeFiles T (placeOf A.artifactRoot rel)).filter fun bytes => !bytes.isEmpty

/-- The failures of an entry of the binding and its record. -/
def recordArtifact (source : String) (idx : Nat) : Value → List String × Option Fields
  | .dict artifact =>
    let path := s!"binding {source}[{idx}]"
    let failures := checkRelativePath s!"{path}.path" (field "path" artifact)
    match relativePath (field "path" artifact) with
    | none => (failures, none)
    | some rel =>
      let text := (field "path" artifact).pyStr L.repr
      let sha256 := (field "sha256" artifact).pyStr L.repr
      match artifactFile T A rel with
      | none => (failures ++ [s!"ingress artifact missing or empty: {text}"], none)
      | some bytes =>
        (failures ++ failUnless s!"ingress artifact sha mismatch for {text}: binding {sha256}, got {L.hexdigest bytes}" ((field "sha256" artifact).pyEq (.str (L.hexdigest bytes))),
          some (artifactRecord L source artifact rel bytes))
  | _ => ([s!"binding {source}[{idx}] must be an object"], none)

/-- The failures of a list of the binding and its records. -/
def recordCollection (p : Value × String) : List String × List Fields :=
  match p.1.asList with
  | some items =>
    let results := items.zipIdx.map fun q => recordArtifact L T A p.2 q.2 q.1
    (results.flatMap (·.1), results.filterMap (·.2))
  | none => ([s!"binding {p.2} collection must be a list"], [])

/-! ### What stands below the input root -/

/-- The regular files below a directory of the input root, with their paths from the input root; links to files count, and links to
directories are not gone down. -/
def inputFiles (inputRoot : List String) (dirname : String) : List (PosixPath × Bytes) :=
  match T.resolve (inputRoot ++ [dirname]) with
  | none => []
  | some real =>
    (T.rglob real).filterMap fun p =>
      let rel : PosixPath := ⟨"", dirname :: p.1.drop real.length⟩
      (treeFiles T (placeOf inputRoot rel)).map fun bytes => (rel, bytes)

/-- The target that a path below the lab inputs names. -/
def inputTarget (rel : PosixPath) : String :=
  if rel.names.length > 3 ∧ rootOf rel = "release-lab-input" then (rel.names[2]?).getD "" else "release-input"

/-- Whether a file below the input root may be recorded: only one of some roles may be empty. -/
def isRecordable (p : PosixPath × Bytes) : Bool := !p.2.isEmpty || preflightInputRoleForPath C p.1 = "qemu-stderr"

/-- The record of a file below the input root. -/
def inputRecord (p : PosixPath × Bytes) : Fields :=
  fileRecord L "preflight-input" (.str (preflightInputRoleForPath C p.1)) (.str (inputTarget p.1)) (.str (inputTarget p.1)) .null p.1 p.2

/-- The failures of the input root and its records. -/
def recordInputs (profile : String) (inputRoot : List String) : Except String (List String × List Fields) := do
  let roots ← C.preflightInputRoots profile
  let files := roots.flatMap (inputFiles T inputRoot)
  .ok ((C.outputTreeRoots.filter fun dirname =>
        dirname ≠ "build-artifacts" && !roots.contains dirname && (T.stat (inputRoot ++ [dirname])).isSome).map
      (fun dirname => s!"{dirname}: must not be present for preflight profile {profile}") ++
    (files.filter fun p => !isRecordable C p).map
      (fun p => s!"preflight input is empty and not allowlisted: {toString p.1}"),
    (files.filter (isRecordable C)).map (inputRecord L C))

/-! ### The manifest -/

/-- The order of the records: by `defconfig` and `artifact` as texts. -/
def recordLe (a b : Fields) : Bool :=
  let key (item : Fields) := [(field "defconfig" item).pyStr L.repr, (field "artifact" item).pyStr L.repr]
  FileTree.placeLe (key a) (key b)

/-- The fields that a manifest takes over from its binding. -/
def copiedFields : List String :=
  ["version", "profile", "source_sha", "build_workflow_name", "build_workflow_path", "matrix_sha256",
    "buildroot_source_identity_schema_version", "buildroot_index_sha", "buildroot_upstream_ref", "buildroot_source_mode",
    "buildroot_patchset_sha256", "buildroot_patch_files", "buildroot_effective_source_id", "buildroot_expected_patched",
    "buildroot_rust_version", "buildroot_rust_bin_version"]

/-- The fields that a manifest takes over where the binding has them and they are not null. -/
def optionalFields : List String :=
  ["buildroot_applied_diff_sha256", "buildroot_expected_diff_sha256", "buildroot_staged_diff_sha256", "buildroot_worktree_diff_sha256",
    "suderra_source_sha", "suderra_external_tree_sha256", "suderra_external_dirty_paths", "suderra_release_source_id"]

/-- The producer of a manifest. -/
def createdProducer : Fields :=
  [("provider", .str "github-actions"), ("repository", .str A.repository), ("workflow", .str A.workflow), ("run_id", .str A.runId),
    ("run_attempt", .str A.runAttempt), ("actor", .str A.actor)]

/-- The manifest of these records. -/
def createdFields (binding : Fields) (records : List Fields) : Fields :=
  (optionalFields.filter fun name => !(field name binding).pyEq .null).map (fun name => (name, field name binding)) ++
    ("schema_version", .str schemaVersion) :: (copiedFields.map (fun name => (name, field name binding)) ++
      [("source_run_id", .str ((field "source_run_id" binding).pyStr L.repr)),
        ("source_run_attempt", .str ((field "source_run_attempt" binding).pyStr L.repr)), ("producer", .dict (createdProducer A)),
        ("generated_at", .str (formatUtc L.toLibraries now)),
        ("expires_at", .str (formatUtc L.toLibraries (now + 86400 * A.expiresDays))),
        ("schema_roles", .dict ((schemaRoles C).map fun p => (p.1, .str p.2))),
        ("files", .list ((records.insertionSort fun a b => recordLe L a b = true).map .dict))])

/-- The failures of what the binding says of itself. -/
def bindingHeadFailures (binding : Fields) : List String :=
  failUnless s!"binding schema_version must be {bindingSchemaVersion}" ((field "schema_version" binding).pyEq (.str bindingSchemaVersion)) ++
  failUnless s!"binding build_workflow_name must be {imageBuildWorkflowName}"
    ((field "build_workflow_name" binding).pyEq (.str imageBuildWorkflowName)) ++
  failUnless s!"binding build_workflow_path must be {imageBuildWorkflowPath}"
    ((field "build_workflow_path" binding).pyEq (.str imageBuildWorkflowPath)) ++
  failUnless "binding image_build_contract must be an object" (field "image_build_contract" binding).asDict.isSome

/-- What is recorded of the input root, if there is one. -/
def recordInputRoot (binding : Fields) : Except String (List String × List Fields) :=
  (A.inputRoot.map (recordInputs L C T (textField L.toPython "profile" binding))).getD (.ok ([], []))

/-- The manifest of a binding, and the failures. A date that `datetime` cannot hold raises. -/
def manifestOf (binding : Fields) : Except String (Fields × List String) := do
  let identity ← validateBuildrootIdentity L "binding Buildroot source identity" binding
  guardError "OverflowError" (inRange (now + 86400 * A.expiresDays))
  let inputs ← recordInputRoot L C T A binding
  let listed := (collections binding).map (recordCollection L T A)
  .ok (createdFields L C A now binding (listed.flatMap (·.2) ++ inputs.2),
    bindingHeadFailures binding ++ identity ++ listed.flatMap (·.1) ++ inputs.1)

/-- `create_manifest`. -/
def createManifest : Except String (Fields × List String) := do
  let document ← readJson L.toPython (treeFiles T) A.bindingManifest
  let binding ← orError "OSError or JSONDecodeError" document
  match binding with
  | .dict binding => manifestOf L C T A now binding
  | _ => .ok ([], [s!"binding manifest must be a JSON object: {A.bindingManifest}"])

/-- The bytes that are written: `json.dumps(..., indent=2, sort_keys=True)` and a newline. -/
def manifestBytes (manifest : Fields) : Bytes :=
  Utf8.encode (String.ofList (JsonText.write (JsonText.indented floatText) 0 (Value.dict manifest).sortKeys ++ ['\n']))

/-- `write_text`, after the directories of the output are made. -/
def writeOutput (bytes : Bytes) : Option FileTree := (T.mkdirs A.output.dropLast).bind fun made => made.write A.output bytes

/-- `create_command`: the tree, the manifest and the failures; without failures it exits with 0. -/
def create : Except String (FileTree × Fields × List String) := do
  let created ← createManifest L C T A now
  let written ← orError "OSError" (writeOutput T A (manifestBytes floatText created.1))
  .ok (written, created.1, created.2)

end Create

/-! ## What a run records -/

section Records

variable {L : BuildrootIdentity.Libraries} {floatText : Double → List Char} {C : Contract} {T T' : FileTree} {A : CreateArgs} {now : Int}

/-- The arguments of `validate` for what `create` was asked for. -/
def CreateArgs.validateArgs (A : CreateArgs) : Args where
  manifest := ⟨"/", A.output⟩
  artifactRoot := some A.artifactRoot
  inputRoot := A.inputRoot
  bindingManifest := some A.bindingManifest
  expectedVersion := none
  expectedSourceSha := none
  requireSignature := false
  certificateIdentity := none
  certificateOidcIssuer := none
  requireEvidenceIngressSignature := false
  evidenceIngressCertificateIdentity := none
  evidenceIngressCertificateOidcIssuer := none

/-- An item records a file below a root. -/
structure Records (L : BuildrootIdentity.Libraries) (A : Args) (item : Fields) (root : List String) (rel : PosixPath) (bytes : Bytes) :
    Prop where
  path : pathOf item = some rel
  root : recordRoot A item = some root
  nonempty : bytes ≠ [] ∨ allowEmpty item = true
  size : field "bytes" item = .int bytes.length
  digest : field "sha256" item = .str (L.hexdigest bytes)

/-- The record of an entry of the binding records the file of the entry. -/
theorem records_artifactRecord {p : Value × String} {binding artifact : Fields} {rel : PosixPath} {bytes : Bytes}
    (hp : p ∈ collections binding) (hrel : relativePath (field "path" artifact) = some rel) (hfile : artifactFile T A rel = some bytes) :
    Records L A.validateArgs (artifactRecord L p.2 artifact rel bytes) A.artifactRoot rel bytes := by
  obtain ⟨hroot, hnames⟩ := relativePath_spec hrel
  have hsource : isPreflightInput (artifactRecord L p.2 artifact rel bytes) = false := by
    have hfield : field "source" (artifactRecord L p.2 artifact rel bytes) = .str p.2 := rfl
    have hsources : (collections binding).map (·.2) =
      ["build-artifact", "build-evidence", "installer-artifact", "image-build-contract"] := rfl
    have hmem := List.mem_map_of_mem (f := (·.2)) hp
    rw [isPreflightInput, hfield, pyEq_str, beq_eq_false_iff_ne]
    intro heq
    rw [hsources, heq] at hmem
    exact absurd hmem (by decide)
  refine ⟨relativePath_toString hroot hnames, ?_, .inl ?_, rfl, rfl⟩
  · rw [recordRoot, hsource]
    rfl
  · simpa using (Option.filter_eq_some_iff.1 hfile).2

/-- The names of the roots of the profiles. -/
theorem isName_of_root {profile dirname : String} {roots : List String} (h : evidenceContract.preflightInputRoots profile = .ok roots)
    (hmem : dirname ∈ roots) : IsName dirname := by
  have hpolicies : ∀ p ∈ evidenceContract.profiles, ∀ root ∈ p.2.requiredOutputTrees, IsName root := by decide
  have htrees : ∀ {q : OutputTree → Bool}, dirname ∈ evidenceContract.treesWhere q → IsName dirname := by
    intro q hq
    obtain ⟨tree, htree, _⟩ := Contract.mem_treesWhere _ |>.1 hq
    exact evidenceContract.roots_named _ htree
  obtain ⟨required, hrequired, h⟩ := bind_ok_iff.1 h
  obtain ⟨policy, hpolicy, hrequired⟩ := bind_ok_iff.1 hrequired
  rw [← Except.ok.inj h, mem_sortNames, List.mem_dedup, List.mem_append, List.mem_filter] at hmem
  rcases hmem with ⟨hmem, _⟩ | hmem
  · rw [← Except.ok.inj hrequired, mem_sortNames, List.mem_dedup, List.mem_append] at hmem
    rcases hmem with hmem | hmem
    · exact htrees hmem
    · obtain ⟨before, after, hprofiles, _⟩ := List.lookup_eq_some_iff.1 (orError_ok_iff.1 hpolicy)
      exact hpolicies (profile, policy) (by simp [hprofiles]) _ hmem
  · split_ifs at hmem
    · exact htrees hmem
    · exact htrees hmem

/-- A file below the input root has a path of names. -/
theorem names_of_inputFiles {inputRoot : List String} {dirname : String} {p : PosixPath × Bytes} (hdirname : IsName dirname)
    (h : p ∈ inputFiles T inputRoot dirname) :
    p.1.root = "" ∧ (∀ name ∈ p.1.names, IsName name) ∧ treeFiles T (placeOf inputRoot p.1) = some p.2 := by
  unfold inputFiles at h
  split at h
  · cases h
  · next real _ =>
    obtain ⟨⟨place, node⟩, hmem, hfile⟩ := List.mem_filterMap.1 h
    obtain ⟨bytes, hbytes, rfl⟩ := Option.map_eq_some_iff.1 hfile
    obtain ⟨hentry, ⟨rest, rfl⟩, _⟩ := FileTree.mem_rglob.1 hmem
    refine ⟨rfl, fun name hname => ?_, hbytes⟩
    rw [List.drop_left] at hname
    rcases List.mem_cons.1 hname with rfl | hname
    · exact hdirname
    · exact (T.names _ hentry).2 name (List.mem_append_right _ hname)

/-- The record of a file below the input root records it. -/
theorem records_inputRecord {inputRoot : List String} {dirname : String} {p : PosixPath × Bytes} (hinput : A.inputRoot = some inputRoot)
    (hdirname : IsName dirname) (h : p ∈ inputFiles T inputRoot dirname) (hrecordable : isRecordable C p = true) :
    Records L A.validateArgs (inputRecord L C p) inputRoot p.1 p.2 := by
  obtain ⟨hroot, hnames, _⟩ := names_of_inputFiles hdirname h
  have hsource : isPreflightInput (inputRecord L C p) = true := by
    have hfield : field "source" (inputRecord L C p) = .str "preflight-input" := rfl
    rw [isPreflightInput, hfield]
    decide
  refine ⟨relativePath_toString hroot hnames, ?_, ?_, rfl, rfl⟩
  · rw [recordRoot, hsource]
    exact hinput
  · have hrole : field "role" (inputRecord L C p) = .str (preflightInputRoleForPath C p.1) := rfl
    simp only [isRecordable, Bool.or_eq_true, Bool.not_eq_true', List.isEmpty_eq_false_iff, decide_eq_true_eq] at hrecordable
    refine hrecordable.imp_right fun hstderr => ?_
    rw [allowEmpty, hsource, hrole, hstderr]
    decide

/-- A place that a run with a binding records, or would if a file stood there. -/
def Recorded (L : BuildrootIdentity.Libraries) (T : FileTree) (A : CreateArgs) (binding : Fields) (place : List String) : Prop :=
  (∃ p ∈ collections binding, ∃ items, p.1 = .list items ∧ ∃ artifact, .dict artifact ∈ items ∧ ∃ rel,
      relativePath (field "path" artifact) = some rel ∧ place = A.artifactRoot ++ rel.names) ∨
    ∃ inputRoot roots, A.inputRoot = some inputRoot ∧
      evidenceContract.preflightInputRoots (textField L.toPython "profile" binding) = .ok roots ∧
      ∃ dirname ∈ roots, ∃ p ∈ inputFiles T inputRoot dirname, place = inputRoot ++ p.1.names

theorem placeOf_names {root : List String} {rel : PosixPath} (hrel : rel.root = "") : (placeOf root rel).names = root ++ rel.names := by
  simp [placeOf, PosixPath.join, PosixPath.isAbsolute, hrel]

/-- What a run without failures has read. -/
structure Created (L : BuildrootIdentity.Libraries) (T : FileTree) (A : CreateArgs) (now : Int) (binding manifest : Fields) : Prop where
  binding_eq : readJson L.toPython (treeFiles T) A.bindingManifest = .ok (some (.dict binding))
  listed : ∀ p ∈ collections binding, (recordCollection L T A p).1 = []
  inputs : ∃ records, recordInputRoot L evidenceContract T A binding = .ok ([], records) ∧
    manifest = createdFields L evidenceContract A now binding (((collections binding).map (recordCollection L T A)).flatMap (·.2) ++ records)

theorem created_of_createManifest {manifest : Fields} (h : createManifest L evidenceContract T A now = .ok (manifest, [])) :
    ∃ binding, Created L T A now binding manifest := by
  obtain ⟨document, hdocument, h⟩ := bind_ok_iff.1 h
  obtain ⟨value, hvalue, h⟩ := orError_bind_ok_iff.1 h
  rw [hvalue] at hdocument
  split at h
  · next binding =>
    obtain ⟨identity, _, h⟩ := bind_ok_iff.1 h
    obtain ⟨_, h⟩ := guardError_bind_ok_iff.1 h
    obtain ⟨inputs, hinputs, h⟩ := bind_ok_iff.1 h
    simp only [Except.ok.injEq, Prod.mk.injEq, List.append_eq_nil_iff, List.flatMap_eq_nil_iff, List.forall_mem_map] at h
    obtain ⟨rfl, ⟨_, hlisted⟩, hnone⟩ := h
    obtain ⟨failures, records⟩ := inputs
    obtain rfl : failures = [] := hnone
    exact ⟨binding, hdocument, hlisted, records, hinputs, rfl⟩
  · simp at h

/-- The records of a manifest, in their order. -/
theorem filesOf_createdFields (binding : Fields) (records : List Fields) :
    filesOf (createdFields L C A now binding records) = (records.insertionSort fun a b => recordLe L a b = true).map .dict := by
  have hfiles : field "files" (createdFields L C A now binding records) =
      .list ((records.insertionSort fun a b => recordLe L a b = true).map .dict) := by
    rw [field, createdFields, Value.lookup_append_of_some rfl]
    rfl
  rw [filesOf, hfiles]
  rfl

/-- An entry of a list without failures is recorded. -/
theorem recordArtifact_spec {source : String} {idx : Nat} {item : Value} (h : (recordArtifact L T A source idx item).1 = []) :
    ∃ artifact rel bytes, item = .dict artifact ∧ relativePath (field "path" artifact) = some rel ∧ artifactFile T A rel = some bytes ∧
      (recordArtifact L T A source idx item).2 = some (artifactRecord L source artifact rel bytes) := by
  cases item with
  | dict artifact =>
    simp only [recordArtifact] at h ⊢
    cases hrel : relativePath (field "path" artifact) with
    | none =>
      rw [hrel] at h
      simp only [checkRelativePath, hrel, List.append_eq_nil_iff, failUnless_eq_nil, Option.isSome_none, Bool.or_false, checkString] at h
      obtain ⟨s, hs, _⟩ := isString_spec h.1
      simp [hs, asStr] at h
    | some rel =>
      rw [hrel] at h
      cases hfile : artifactFile T A rel with
      | none => simp [hfile] at h
      | some bytes => exact ⟨artifact, rel, bytes, rfl, hrel, hfile, by simp [hfile]⟩
  | _ => simp [recordArtifact] at h

/-- What is recorded of a list without failures. -/
theorem mem_recordCollection {p : Value × String} (h : (recordCollection L T A p).1 = []) :
    ∃ items, p.1 = .list items ∧ (∀ item ∈ items, ∃ artifact rel bytes, item = .dict artifact ∧
        relativePath (field "path" artifact) = some rel ∧ artifactFile T A rel = some bytes) ∧
      ∀ record, record ∈ (recordCollection L T A p).2 ↔ ∃ artifact rel bytes, .dict artifact ∈ items ∧
        relativePath (field "path" artifact) = some rel ∧ artifactFile T A rel = some bytes ∧
        record = artifactRecord L p.2 artifact rel bytes := by
  unfold recordCollection at h ⊢
  split at h
  · next items hitems =>
    have hentries : ∀ q ∈ items.zipIdx, (recordArtifact L T A p.2 q.2 q.1).1 = [] := fun q hq =>
      List.flatMap_eq_nil_iff.1 h _ (List.mem_map_of_mem hq)
    have hspec := fun q hq => recordArtifact_spec (hentries q hq)
    refine ⟨items, asList_eq_some.1 hitems, fun item hitem => ?_, fun record => ?_⟩
    · obtain ⟨idx, hidx⟩ := exists_mem_zipIdx hitem
      obtain ⟨artifact, rel, bytes, hdict, hrel, hfile, _⟩ := hspec _ hidx
      exact ⟨artifact, rel, bytes, hdict, hrel, hfile⟩
    · simp only [List.mem_filterMap, List.mem_map, exists_exists_and_eq_and]
      constructor
      · rintro ⟨q, hq, hrecord⟩
        obtain ⟨artifact, rel, bytes, hdict, hrel, hfile, hmade⟩ := hspec q hq
        rw [hmade] at hrecord
        exact ⟨artifact, rel, bytes, hdict ▸ List.fst_mem_of_mem_zipIdx hq, hrel, hfile, (Option.some.inj hrecord).symm⟩
      · rintro ⟨artifact, rel, bytes, hmem, hrel, hfile, rfl⟩
        obtain ⟨idx, hidx⟩ := exists_mem_zipIdx hmem
        obtain ⟨artifact', rel', bytes', hdict, hrel', hfile', hmade⟩ := hspec _ hidx
        obtain rfl := Value.dict.inj hdict
        obtain rfl : rel' = rel := Option.some.inj (hrel'.symm.trans hrel)
        obtain rfl : bytes' = bytes := Option.some.inj (hfile'.symm.trans hfile)
        exact ⟨_, hidx, hmade⟩
  · cases h

/-- A record of the file at a place. -/
def RecordsPlace (L : BuildrootIdentity.Libraries) (T : FileTree) (A : CreateArgs) (record : Fields) (place : List String)
    (bytes : Bytes) : Prop :=
  ∃ root rel, Records L A.validateArgs record root rel bytes ∧ rel.root = "" ∧ place = root ++ rel.names ∧ T.read place = some bytes

/-- The file of an entry of the binding, by its place. -/
theorem read_artifactFile {rel : PosixPath} {bytes : Bytes} (hroot : rel.root = "") (h : artifactFile T A rel = some bytes) :
    T.read (A.artifactRoot ++ rel.names) = some bytes := by
  rw [← placeOf_names hroot]
  exact (Option.filter_eq_some_iff.1 h).1

/-- The inputs that a run without failures records. -/
theorem recordInputRoot_spec {binding : Fields} {records : List Fields}
    (h : recordInputRoot L evidenceContract T A binding = .ok ([], records)) :
    (∀ record ∈ records, ∃ place bytes, RecordsPlace L T A record place bytes ∧ Recorded L T A binding place) ∧
      ∀ inputRoot roots, A.inputRoot = some inputRoot →
        evidenceContract.preflightInputRoots (textField L.toPython "profile" binding) = .ok roots →
        ∀ dirname ∈ roots, ∀ p ∈ inputFiles T inputRoot dirname, ∃ record ∈ records,
          RecordsPlace L T A record (inputRoot ++ p.1.names) p.2 := by
  unfold recordInputRoot at h
  cases hinput : A.inputRoot with
  | none =>
    rw [hinput] at h
    obtain rfl : records = [] := (Prod.mk.inj (Except.ok.inj h)).2.symm
    exact ⟨by simp, by simp⟩
  | some inputRoot =>
    rw [hinput] at h
    obtain ⟨roots, hroots, h⟩ := bind_ok_iff.1 h
    simp only [Except.ok.injEq, Prod.mk.injEq, List.append_eq_nil_iff, List.map_eq_nil_iff, List.filter_eq_nil_iff] at h
    obtain ⟨⟨_, hrecordable⟩, rfl⟩ := h
    have hplace : ∀ dirname ∈ roots, ∀ p ∈ inputFiles T inputRoot dirname,
        RecordsPlace L T A (inputRecord L evidenceContract p) (inputRoot ++ p.1.names) p.2 := by
      intro dirname hdirname p hp
      have hname := isName_of_root hroots hdirname
      have hkept : isRecordable evidenceContract p = true := by
        simpa using hrecordable p (List.mem_flatMap.2 ⟨dirname, hdirname, hp⟩)
      obtain ⟨hroot, _, hread⟩ := names_of_inputFiles hname hp
      refine ⟨inputRoot, p.1, records_inputRecord hinput hname hp hkept, hroot, rfl, ?_⟩
      rw [← placeOf_names hroot]
      exact hread
    constructor
    · intro record hrecord
      obtain ⟨p, hp, rfl⟩ := List.mem_map.1 hrecord
      obtain ⟨dirname, hdirname, hp⟩ := List.mem_flatMap.1 (List.mem_filter.1 hp).1
      exact ⟨_, _, hplace dirname hdirname p hp, .inr ⟨inputRoot, roots, hinput, hroots, dirname, hdirname, p, hp, rfl⟩⟩
    · intro inputRoot' roots' heq hroots' dirname hdirname p hp
      obtain rfl := Option.some.inj heq
      obtain rfl : roots' = roots := Except.ok.inj (hroots'.symm.trans hroots)
      have hkept : isRecordable evidenceContract p = true := by
        simpa using hrecordable p (List.mem_flatMap.2 ⟨dirname, hdirname, hp⟩)
      exact ⟨_, List.mem_map_of_mem (List.mem_filter.2 ⟨List.mem_flatMap.2 ⟨dirname, hdirname, hp⟩, hkept⟩),
        hplace dirname hdirname p hp⟩

/-- The records of a run without failures are those of the recorded places. -/
theorem Created.files {binding manifest : Fields} (h : Created L T A now binding manifest) :
    (∀ item ∈ filesOf manifest, ∃ record place bytes, item = .dict record ∧ RecordsPlace L T A record place bytes ∧
        Recorded L T A binding place) ∧
      ∀ place, Recorded L T A binding place → ∃ record bytes, .dict record ∈ filesOf manifest ∧ RecordsPlace L T A record place bytes := by
  obtain ⟨records, hinputs, rfl⟩ := h.inputs
  obtain ⟨hof, hto⟩ := recordInputRoot_spec hinputs
  have hmem : ∀ item, item ∈ filesOf (createdFields L evidenceContract A now binding
      (((collections binding).map (recordCollection L T A)).flatMap (·.2) ++ records)) ↔
        ∃ record, item = .dict record ∧ ((∃ p ∈ collections binding, record ∈ (recordCollection L T A p).2) ∨ record ∈ records) := by
    intro item
    rw [filesOf_createdFields, List.mem_map]
    simp only [List.mem_insertionSort, List.mem_append, List.mem_flatMap, List.mem_map, exists_exists_and_eq_and]
    exact exists_congr fun record => by rw [and_comm, eq_comm]
  constructor
  · intro item hitem
    obtain ⟨record, rfl, ⟨p, hp, hrecord⟩ | hrecord⟩ := (hmem item).1 hitem
    · obtain ⟨items, hitems, _, hspec⟩ := mem_recordCollection (h.listed p hp)
      obtain ⟨artifact, rel, bytes, hartifact, hrel, hfile, rfl⟩ := (hspec record).1 hrecord
      have hroot := (relativePath_spec hrel).1
      exact ⟨_, _, _, rfl, ⟨_, rel, records_artifactRecord hp hrel hfile, hroot, rfl, read_artifactFile hroot hfile⟩,
        .inl ⟨p, hp, items, hitems, artifact, hartifact, rel, hrel, rfl⟩⟩
    · obtain ⟨place, bytes, hplace, hrecorded⟩ := hof record hrecord
      exact ⟨record, place, bytes, rfl, hplace, hrecorded⟩
  · rintro place (⟨p, hp, items, hitems, artifact, hartifact, rel, hrel, rfl⟩ | ⟨inputRoot, roots, hinput, hroots, dirname, hdirname, p, hp, rfl⟩)
    · obtain ⟨items', hitems', hfiles, hspec⟩ := mem_recordCollection (h.listed p hp)
      obtain rfl : items' = items := Value.list.inj (hitems'.symm.trans hitems)
      obtain ⟨artifact', rel', bytes, hdict, hrel', hfile⟩ := hfiles _ hartifact
      obtain rfl := Value.dict.inj hdict
      obtain rfl : rel' = rel := Option.some.inj (hrel'.symm.trans hrel)
      have hroot := (relativePath_spec hrel).1
      exact ⟨_, bytes, (hmem _).2 ⟨_, rfl, .inl ⟨p, hp, (hspec _).2 ⟨artifact, rel', bytes, hartifact, hrel, hfile, rfl⟩⟩⟩,
        A.artifactRoot, rel', records_artifactRecord hp hrel hfile, hroot, rfl, read_artifactFile hroot hfile⟩
    · obtain ⟨record, hrecord, hplace⟩ := hto inputRoot roots hinput hroots dirname hdirname p hp
      exact ⟨record, p.2, (hmem _).2 ⟨record, rfl, .inr hrecord⟩, hplace⟩

/-! ## What a run leaves -/

/-- Where the output comes to stand. -/
def outputPlace (T : FileTree) (A : CreateArgs) : Option (List String) :=
  (T.mkdirs A.output.dropLast).bind fun made => made.target A.output

/-- The output holds what was written, and every other file what it held. -/
theorem read_writeOutput {place : List String} {old written : Bytes} (h : writeOutput T A written = some T')
    (hread : T.read place = some old) :
    T'.read place = some (if T.resolve place = outputPlace T A then written else old) := by
  obtain ⟨made, hmade, hwrite⟩ := Option.bind_eq_some_iff.1 h
  obtain ⟨real, htarget, hreplaces, hwritten⟩ := FileTree.write_spec hwrite
  have hextends := FileTree.extends_mkdirs hmade
  have houtput : outputPlace T A = some real := by rw [outputPlace, hmade, Option.bind_some, htarget]
  obtain ⟨found, hresolve, hlstat⟩ := FileTree.read_eq_some.1 hread
  have hwhere : T.resolve place = outputPlace T A ↔ found = real := by rw [houtput, hresolve, Option.some.injEq]
  rw [FileTree.read_eq_some]
  refine ⟨found, (hextends.trans_replaces hreplaces).resolve hresolve, ?_⟩
  split_ifs with hplace
  · obtain rfl := hwhere.1 hplace
    refine hwritten.resolve_right fun hspecial => ?_
    rw [hextends _ _ hlstat] at hspecial
    cases hspecial.1
  · exact (hreplaces _ _ (hextends _ _ hlstat)).resolve_right fun hreal => hplace (hwhere.2 hreal.1)

/-- A record of the file at a place matches what is read there exactly when that has the size and the digest of the file. -/
theorem Records.matches_iff {record : Fields} {root : List String} {rel : PosixPath} {old bytes : Bytes}
    (h : Records L A.validateArgs record root rel old) (hroot : rel.root = "") (hne : bytes = old ∨ bytes ≠ [])
    (hread : T.read (root ++ rel.names) = some bytes) :
    FileMatches L T root record rel ↔ bytes.length = old.length ∧ L.hexdigest bytes = L.hexdigest old := by
  have hfile : treeFiles T (placeOf root rel) = some bytes := by
    rw [treeFiles, placeOf_names hroot]
    exact hread
  rw [FileMatches, h.size, h.digest]
  constructor
  · rintro ⟨bytes', hbytes', _, hsize, hdigest⟩
    obtain rfl : bytes' = bytes := Option.some.inj (hbytes'.symm.trans hfile)
    rw [pyEq_int, beq_iff_eq, Nat.cast_inj] at hsize
    exact ⟨hsize.symm, (Value.str.inj hdigest).symm⟩
  · rintro ⟨hsize, hdigest⟩
    refine ⟨bytes, hfile, ?_, by rw [pyEq_int]; simp [hsize], by rw [hdigest]⟩
    rcases hne with rfl | hne
    · exact h.nonempty
    · exact .inl hne

theorem manifestBytes_ne_nil (manifest : Fields) : manifestBytes floatText manifest ≠ [] := by
  rw [manifestBytes, Utf8.encode_ofList, List.flatMap_append, ne_eq, List.append_eq_nil_iff, not_and]
  intro _
  decide

/-- Every record of a manifest is of a file that stands where it says, with its size and its digest. -/
def RecordsMatch (L : BuildrootIdentity.Libraries) (T : FileTree) (A : CreateArgs) (manifest : Fields) : Prop :=
  ∀ item ∈ filesOf manifest, ∃ record root rel, item = .dict record ∧ pathOf record = some rel ∧
    recordRoot A.validateArgs record = some root ∧ ∀ path, recordFileFailures L T path root record rel = []

/-- A run spares the files that it records: where the output is one of them, it has the size and the digest of what is written. -/
def Spares (L : BuildrootIdentity.Libraries) (floatText : Double → List Char) (T : FileTree) (A : CreateArgs) (manifest : Fields) : Prop :=
  ∀ binding, readJson L.toPython (treeFiles T) A.bindingManifest = .ok (some (.dict binding)) →
    ∀ place old, Recorded L T A binding place → T.read place = some old → T.resolve place = outputPlace T A →
      (manifestBytes floatText manifest).length = old.length ∧ L.hexdigest (manifestBytes floatText manifest) = L.hexdigest old

/-- After one run without failures the records match exactly when the run spared them. -/
theorem recordsMatch_create_iff {manifest : Fields} (h : create L floatText evidenceContract T A now = .ok (T', manifest, [])) :
    RecordsMatch L T' A manifest ↔ Spares L floatText T A manifest := by
  obtain ⟨created, hcreated, h⟩ := bind_ok_iff.1 h
  obtain ⟨written, hwritten, h⟩ := orError_bind_ok_iff.1 h
  obtain ⟨fields, failures⟩ := created
  simp only [Except.ok.injEq, Prod.mk.injEq] at h hwritten
  obtain ⟨rfl, rfl, rfl⟩ := h
  obtain ⟨binding, hmanifest⟩ := created_of_createManifest hcreated
  obtain ⟨hof, hto⟩ := hmanifest.files
  have hmatches : ∀ {record place old root rel}, Records L A.validateArgs record root rel old → rel.root = "" →
      place = root ++ rel.names → T.read place = some old →
      ((∀ path, recordFileFailures L written path root record rel = []) ↔ (T.resolve place = outputPlace T A →
        (manifestBytes floatText fields).length = old.length ∧ L.hexdigest (manifestBytes floatText fields) = L.hexdigest old)) := by
    rintro record _ old root rel hrecords hroot rfl hread
    have hafter := read_writeOutput hwritten hread
    simp only [recordFileFailures_eq_nil, forall_const]
    split_ifs at hafter with houtput
    · rw [hrecords.matches_iff hroot (.inr (manifestBytes_ne_nil fields)) hafter]
      simp [houtput]
    · rw [hrecords.matches_iff hroot (.inl rfl) hafter]
      simp [houtput]
  constructor
  · intro hall binding' hbinding' place old hrecorded hread
    obtain rfl : binding' = binding := by
      have heq := hbinding'.symm.trans hmanifest.binding_eq
      simpa using heq
    obtain ⟨record, bytes, hmem, root, rel, hrecords, hroot, hplace, hread'⟩ := hto place hrecorded
    obtain rfl : bytes = old := Option.some.inj (hread'.symm.trans hread)
    obtain ⟨record', root', rel', hdict, hpath, hroot', hnone⟩ := hall _ hmem
    obtain rfl := Value.dict.inj hdict
    obtain rfl : rel' = rel := Option.some.inj (hpath.symm.trans hrecords.path)
    obtain rfl : root' = root := Option.some.inj (hroot'.symm.trans hrecords.root)
    exact (hmatches hrecords hroot hplace hread).1 hnone
  · intro hspares item hitem
    obtain ⟨record, place, bytes, rfl, ⟨root, rel, hrecords, hroot, hplace, hread⟩, hrecorded⟩ := hof item hitem
    exact ⟨record, root, rel, rfl, hrecords.path, hrecords.root, (hmatches hrecords hroot hplace hread).2
      (hspares binding hmanifest.binding_eq place bytes hrecorded hread)⟩

/-- Runs of `create` with the same arguments, one after the other, each without failures: their number, the tree before the last of
them and the one after it, and the manifest that it left. -/
inductive Runs (L : BuildrootIdentity.Libraries) (floatText : Double → List Char) (A : CreateArgs) (T₀ : FileTree) :
    Nat → FileTree → FileTree → Fields → Prop
  | first {T : FileTree} {manifest : Fields} (now : Int) (h : create L floatText evidenceContract T₀ A now = .ok (T, manifest, [])) :
    Runs L floatText A T₀ 1 T₀ T manifest
  | next {n : Nat} {T T' T'' : FileTree} {manifest manifest' : Fields} (hruns : Runs L floatText A T₀ n T T' manifest) (now : Int)
    (h : create L floatText evidenceContract T' A now = .ok (T'', manifest', [])) : Runs L floatText A T₀ (n + 1) T' T'' manifest'

/-- However often `create` has run, the records of the manifest that it left match the files exactly when the last run spared them. -/
theorem records_match_iff {T₀ : FileTree} {n : Nat} {manifest : Fields} (h : Runs L floatText A T₀ n T T' manifest) :
    RecordsMatch L T' A manifest ↔ Spares L floatText T A manifest := by
  cases h with
  | first now hcreate => exact recordsMatch_create_iff hcreate
  | next _ now hcreate => exact recordsMatch_create_iff hcreate

end Records

/-! ## A manifest among the files that it records -/

/-- An input root that holds a manifest of an earlier run. -/
def rerunFiles : List (List String × Bytes) :=
  [(["run", "binding.json"], documentBytes (sampleBinding "technical-dry-run")),
    (["artifacts", "image-build-contract.json"], contractBytes), (["artifacts", "suderra-qemu-x86_64.img.xz"], imageBytes),
    (["in", "release-ingress", sampleVersion, "ingress-manifest.json"], textBytes ['x'])]

def rerunTree : FileTree := .ofFiles rerunFiles (by decide)

def rerunArgs : CreateArgs where
  bindingManifest := ⟨"/", ["run", "binding.json"]⟩
  artifactRoot := ["artifacts"]
  inputRoot := some ["in"]
  output := ["in", "release-ingress", sampleVersion, "ingress-manifest.json"]
  repository := "suderra/os"
  workflow := "Release Preflight"
  runId := "7003"
  runAttempt := "1"
  actor := "release-manager"
  expiresDays := 30

/-- What stands in the tree of the second run. -/
theorem rerun_lstat {names : List String} {bytes : Bytes} (h : (names, bytes) ∈ rerunFiles) :
    rerunTree.lstat names = some (.file bytes) := FileTree.lstat_ofFiles h

theorem rerun_output : rerunTree.lstat rerunArgs.output = some (.file (textBytes ['x'])) :=
  rerun_lstat (List.mem_cons_of_mem _ (List.mem_cons_of_mem _ (List.mem_cons_of_mem _ List.mem_cons_self)))

theorem rerun_binding : readJson ingressLibraries.toPython (treeFiles rerunTree) rerunArgs.bindingManifest =
    .ok (some (.dict (sampleBinding "technical-dry-run"))) :=
  readJson_documentBytes rfl (by decide) (FileTree.read_eq (rerun_lstat List.mem_cons_self))

/-- An entry of the binding that names a file with its digest has no failures. -/
theorem recordArtifact_eq {T : FileTree} {A : CreateArgs} {source : String} {idx : Nat} {artifact : Fields} {rel : PosixPath} {bytes : Bytes}
    (hrel : relativePath (field "path" artifact) = some rel) (htext : isString (field "path" artifact) = true)
    (hfile : artifactFile T A rel = some bytes) (hsha : field "sha256" artifact = .str (ingressLibraries.hexdigest bytes)) :
    (recordArtifact ingressLibraries T A source idx (.dict artifact)).1 = [] := by
  simp [recordArtifact, hrel, hfile, hsha, checkRelativePath, checkString, htext, pyEq_str]

theorem rerun_artifact : artifactFile rerunTree rerunArgs ⟨"", ["suderra-qemu-x86_64.img.xz"]⟩ = some imageBytes := by
  have hread : treeFiles rerunTree (placeOf rerunArgs.artifactRoot ⟨"", ["suderra-qemu-x86_64.img.xz"]⟩) = some imageBytes :=
    FileTree.read_eq (rerun_lstat (List.mem_cons_of_mem _ (List.mem_cons_of_mem _ List.mem_cons_self)))
  rw [artifactFile, hread]
  decide

theorem rerun_contract : artifactFile rerunTree rerunArgs ⟨"", ["image-build-contract.json"]⟩ = some contractBytes := by
  have hread : treeFiles rerunTree (placeOf rerunArgs.artifactRoot ⟨"", ["image-build-contract.json"]⟩) = some contractBytes :=
    FileTree.read_eq (rerun_lstat (List.mem_cons_of_mem _ List.mem_cons_self))
  rw [artifactFile, hread]
  decide

def contractEntry : Fields :=
  [("path", .str "image-build-contract.json"), ("sha256", .str (ingressLibraries.hexdigest contractBytes))]

theorem collections_sample (profile : String) : collections (sampleBinding profile) =
    [(.list [.dict imageEntry], "build-artifact"), (.list [], "build-evidence"), (.list [], "installer-artifact"),
      (.list [.dict contractEntry], "image-build-contract")] := rfl

theorem rerun_listed : ∀ p ∈ collections (sampleBinding "technical-dry-run"), (recordCollection ingressLibraries rerunTree rerunArgs p).1 = [] := by
  have himage : (recordArtifact ingressLibraries rerunTree rerunArgs "build-artifact" 0 (.dict imageEntry)).1 = [] :=
    recordArtifact_eq (by decide) (by decide) rerun_artifact rfl
  have hcontract : (recordArtifact ingressLibraries rerunTree rerunArgs "image-build-contract" 0 (.dict contractEntry)).1 = [] :=
    recordArtifact_eq (by decide) (by decide) rerun_contract rfl
  rw [collections_sample]
  simp only [List.forall_mem_cons, recordCollection, asList, List.zipIdx_cons, List.zipIdx_nil, List.map_cons, List.map_nil,
    List.flatMap_cons, List.flatMap_nil, List.append_nil, himage, hcontract, true_and]
  simp

def rerunRoots : List String :=
  ["build-artifacts", "release-approvals", "release-governance", "release-ingress", "release-inputs", "release-lab-input", "release-ota",
    "release-reproducibility", "release-retention", "release-runtime", "release-security", "release-signing"]

def rerunInput : PosixPath × Bytes := (⟨"", ["release-ingress", sampleVersion, "ingress-manifest.json"]⟩, textBytes ['x'])

theorem rerun_roots : evidenceContract.preflightInputRoots "technical-dry-run" = .ok rerunRoots := by decide +kernel

theorem rerun_inputFiles : rerunRoots.flatMap (inputFiles rerunTree ["in"]) = [rerunInput] := by decide

theorem rerun_inputs : ∃ records,
    recordInputRoot ingressLibraries evidenceContract rerunTree rerunArgs (sampleBinding "technical-dry-run") = .ok ([], records) := by
  have hprofile : textField ingressLibraries.toPython "profile" (sampleBinding "technical-dry-run") = "technical-dry-run" := rfl
  have hothers : (evidenceContract.outputTreeRoots.filter fun dirname =>
    dirname ≠ "build-artifacts" && !rerunRoots.contains dirname && (rerunTree.stat (["in"] ++ [dirname])).isSome) = [] := by decide +kernel
  have hrecordable : isRecordable evidenceContract rerunInput = true := by decide
  refine ⟨[inputRecord ingressLibraries evidenceContract rerunInput], ?_⟩
  rw [recordInputRoot, hprofile, show rerunArgs.inputRoot = some ["in"] from rfl, Option.map_some, Option.getD_some, recordInputs,
    rerun_roots, ok_bind, rerun_inputFiles, hothers]
  simp [hrecordable]

theorem rerun_createManifest : ∃ manifest,
    createManifest ingressLibraries evidenceContract rerunTree rerunArgs sampleNow = .ok (manifest, []) := by
  obtain ⟨records, hinputs⟩ := rerun_inputs
  have hidentity : validateBuildrootIdentity ingressLibraries "binding Buildroot source identity" (sampleBinding "technical-dry-run") =
      .ok [] := by
    rw [validateBuildrootIdentity, show buildrootIdentity (sampleBinding "technical-dry-run") = sampleBuildroot from rfl]
    exact bind_ok_iff.2 ⟨[], metadataFailures_sample, rfl⟩
  have hhead : bindingHeadFailures (sampleBinding "technical-dry-run") = [] := by
    simp only [bindingHeadFailures, List.append_eq_nil_iff, failUnless_eq_nil]
    exact ⟨⟨⟨pyEq_str_iff.2 rfl, pyEq_str_iff.2 rfl⟩, pyEq_str_iff.2 rfl⟩, rfl⟩
  have hlisted : ((collections (sampleBinding "technical-dry-run")).map (recordCollection ingressLibraries rerunTree rerunArgs)).flatMap
      (·.1) = [] := by
    rw [List.flatMap_eq_nil_iff, List.forall_mem_map]
    exact rerun_listed
  have hrange : inRange (sampleNow + 86400 * rerunArgs.expiresDays) = true := by decide
  refine ⟨createdFields ingressLibraries evidenceContract rerunArgs sampleNow (sampleBinding "technical-dry-run")
    (((collections (sampleBinding "technical-dry-run")).map (recordCollection ingressLibraries rerunTree rerunArgs)).flatMap (·.2) ++
      records), ?_⟩
  rw [createManifest, rerun_binding, ok_bind, orError_some, ok_bind]
  change manifestOf _ _ _ _ _ _ = _
  rw [manifestOf, hidentity, ok_bind, guardError_bind_ok_iff]
  refine ⟨hrange, ?_⟩
  rw [hinputs, ok_bind, hhead]
  simp only [hlisted, List.append_nil]

/-- A run on the tree ends without failures. -/
theorem rerun_create : ∃ T' manifest,
    create ingressLibraries (fun _ => []) evidenceContract rerunTree rerunArgs sampleNow = .ok (T', manifest, []) := by
  obtain ⟨manifest, hmanifest⟩ := rerun_createManifest
  obtain ⟨T', hwrite⟩ := FileTree.exists_write (manifestBytes (fun _ => []) manifest) rerun_output
  have hdir := FileTree.lstat_dropLast (by decide) rerun_output
  refine ⟨T', manifest, ?_⟩
  rw [create, hmanifest, ok_bind, writeOutput, FileTree.mkdirs_eq hdir, Option.bind_some, hwrite]
  rfl

theorem records_match_iff_rerun : ∃ T' manifest, Runs ingressLibraries (fun _ => []) rerunArgs rerunTree 1 rerunTree T' manifest ∧
    (RecordsMatch ingressLibraries T' rerunArgs manifest ↔ Spares ingressLibraries (fun _ => []) rerunTree rerunArgs manifest) := by
  obtain ⟨T', manifest, h⟩ := rerun_create
  exact ⟨T', manifest, .first sampleNow h, records_match_iff (.first sampleNow h)⟩

/-- The manifest that a run leaves is longer than one byte. -/
theorem manifestBytes_length (manifest : Fields) : 1 < (manifestBytes (fun _ => []) manifest).length := by
  have hwrite : JsonText.write (JsonText.indented fun _ => []) 0 (Value.dict manifest).sortKeys ≠ [] := by
    have hdict : ∀ fields : Fields, JsonText.write (JsonText.indented fun _ => []) 0 (.dict fields) ≠ [] := by
      rintro (_ | ⟨⟨name, value⟩, fields⟩) <;> simp [JsonText.write]
    rw [Value.sortKeys]
    exact hdict _
  obtain ⟨c, cs, hcs⟩ := List.exists_cons_of_ne_nil hwrite
  have hnewline : (String.utf8EncodeChar '\n').length = 1 := by decide
  have hfirst : 0 < (String.utf8EncodeChar c).length := by
    rw [String.length_utf8EncodeChar]
    exact c.utf8Size_pos
  rw [manifestBytes, Utf8.encode_ofList, hcs, List.cons_append, List.flatMap_cons, List.length_append, List.flatMap_append,
    List.length_append, List.flatMap_singleton, hnewline]
  omega

/-- A run that finds a manifest below the input root where it writes its own leaves a record that does not match. -/
theorem rerun_leaves_mismatch : ∃ T' manifest, Runs ingressLibraries (fun _ => []) rerunArgs rerunTree 1 rerunTree T' manifest ∧
    ¬ RecordsMatch ingressLibraries T' rerunArgs manifest := by
  obtain ⟨T', manifest, h⟩ := rerun_create
  refine ⟨T', manifest, .first sampleNow h, fun hmatch => ?_⟩
  have hrecorded : Recorded ingressLibraries rerunTree rerunArgs (sampleBinding "technical-dry-run") rerunArgs.output := by
    have hmem : rerunInput ∈ rerunRoots.flatMap (inputFiles rerunTree ["in"]) := by
      rw [rerun_inputFiles]
      exact List.mem_singleton_self _
    obtain ⟨dirname, hdirname, hfile⟩ := List.mem_flatMap.1 hmem
    exact .inr ⟨["in"], rerunRoots, rfl, rerun_roots, dirname, hdirname, rerunInput, hfile, rfl⟩
  have houtput : rerunTree.resolve rerunArgs.output = outputPlace rerunTree rerunArgs := by
    have hdir := FileTree.lstat_dropLast (by decide) rerun_output
    rw [FileTree.resolve_eq rfl rerun_output, outputPlace, FileTree.mkdirs_eq hdir, Option.bind_some,
      FileTree.target_eq rfl rerun_output]
  have hlength := ((recordsMatch_create_iff h).1 hmatch _ rerun_binding _ _ hrecorded (FileTree.read_eq rerun_output) houtput).1
  have hlong := manifestBytes_length manifest
  rw [hlength] at hlong
  exact absurd hlong (by decide)

end SuderraOs.Evidence.ReleaseIngress
