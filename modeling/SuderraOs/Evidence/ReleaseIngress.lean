import SuderraOs.Evidence.BuildrootIdentity
import SuderraOs.Evidence.SubjectGraph

/-!
# The release ingress

`validate_manifest` of `release-ingress.py`: the manifest of the bytes that a release preflight accepted. It replays the identity of
the Buildroot source, the manifest of the operator and the subject graph, and looks at the file of every record. Of the binding it
compares fields that are texts and numbers; it never walks what the binding lists.
-/

namespace SuderraOs.Evidence.ReleaseIngress

open Value OperatorIngress BuildrootIdentity

def schemaVersion : String := "suderra.release-ingress.v1"

def bindingSchemaVersion : String := "suderra.release-input-binding.v2"

def imageBuildWorkflowName : String := "Image Build"

def imageBuildWorkflowPath : String := ".github/workflows/image-build.yml"

def placeholders : List String := ["TO_BE_COLLECTED", "NOT_COLLECTED", "not_collected", "pending", "PENDING", ""]

/-- `SCHEMA_ROLES`. -/
def schemaRoles (C : Contract) : List (String × String) :=
  [("evidence_ingress", "suderra.operator-evidence-ingress.v2"), ("binding_manifest", bindingSchemaVersion),
    ("approval", "suderra.release-approval.v2"), ("governance_role_bindings", C.schema "governance_role_bindings"),
    ("hardware_subject", C.schema "hardware_subject"), ("qemu_input", "suderra.qemu-acceptance.v4"),
    ("lab_input", C.schema "lab_evidence"), ("production_runtime_suite", C.schema "production_runtime_suite"),
    ("hsm_signing_session", C.schema "hsm_signing_session"), ("release_subject_graph", C.schema "release_subject_graph"),
    ("retention_manifest", C.schema "retention_manifest"), ("release_security_report", C.schema "release_security_report"),
    ("signing_manifest", C.schema "signing_manifest"), ("station_acquisition", C.schema "station_acquisition"),
    ("ota_artifacts", C.schema "ota_artifacts"), ("release_evidence", C.schema "release_evidence")]

/-- `STRICT_PREFLIGHT_PROFILES`. -/
def strictPreflightProfiles (C : Contract) : List String :=
  sortNames ((C.profiles.filter fun p => p.2.operatorIngressRequired).map (·.1))

def evidenceIngressManifest : String := "evidence-ingress-manifest.json"

def evidenceIngressSignatureSidecars : List String :=
  ["evidence-ingress-manifest.json.sig", "evidence-ingress-manifest.json.cert"]

/-! ## Checks of one value -/

/-- `parse_utc`. -/
def parseUtc (L : OperatorIngress.Libraries) (path : String) : Value → Except String DateTime
  | .str s =>
    if s.toList.getLast? = some 'Z' then
      orError s!"{path}: must be an ISO-8601 UTC timestamp" (L.fromisoformat (String.ofList s.toList.dropLast ++ "+00:00"))
    else .error s!"{path}: must be an ISO-8601 UTC timestamp ending in Z"
  | _ => .error s!"{path}: must be an ISO-8601 UTC timestamp ending in Z"

/-- Whether a value is a text that is neither blank nor a placeholder. -/
def isString (v : Value) : Bool := v.asStr.any fun s => !isBlank s && !isPlaceholder placeholders v

/-- `check_string`. -/
def checkString (path : String) (v : Value) : List String :=
  failUnless s!"{path}: must be a non-placeholder string" (isString v)

theorem isString_spec {v : Value} (h : isString v = true) : ∃ s, v = .str s ∧ isBlank s = false := by
  cases v with
  | str s =>
    simp only [isString, asStr, Option.any_some, Bool.and_eq_true, Bool.not_eq_true'] at h
    exact ⟨s, rfl, h.1⟩
  | _ => simp [isString, asStr] at h

/-- The failures of `check_relative_path`. -/
def checkRelativePath (path : String) (v : Value) : List String :=
  checkString path v ++
    failUnless s!"{path}: must be relative and must not contain '..'" (v.asStr.isNone || (relativePath v).isSome)

/-- `preflight_input_role_for_path`. -/
def preflightInputRoleForPath (C : Contract) (rel : PosixPath) : String :=
  let root := rootOf rel
  let name := rel.name
  if rel.names = [] then "preflight-input"
  else if root = "release-inputs" then "binding-manifest"
  else if root = "release-lab-input" ∧ name = "qemu.json" then "qemu-input"
  else if root = "release-lab-input" ∧ name = "qemu-semantic.json" then "qemu-semantic"
  else if root = "release-lab-input" ∧ (name = "qemu-stderr.log" ∨ name = "stderr.log") then "qemu-stderr"
  else if root = "release-lab-input" ∧ name = "lab.json" then "lab-input"
  else if root = "release-lab-input" ∧ name = "hardware-subject.json" then "hardware-subject"
  else if root = "release-lab-input" ∧ name = "station-acquisition.json" then "station-acquisition"
  else if root = "release-lab-input" ∧ name = "station-bundle.json" then "lab-station-bundle"
  else if root = "release-lab-input" ∧ name = "station-bundle.json.sig" then "lab-station-signature"
  else if root = "release-lab-input" ∧ name = "station-public.pem" then "lab-station-public-key"
  else if root = "release-governance" ∧ name = "role-bindings.json" then "governance-role-bindings"
  else if root = "release-governance" then "governance-snapshot"
  else if root = "release-approvals" then "approval"
  else if root = "release-security" then "security-report"
  else if root = "release-reproducibility" then "reproducibility-report"
  else if root = "release-runtime" ∧ name = "production-runtime.json" then "production-runtime-suite"
  else if root = "release-signing" ∧ name = "signing-manifest.json" then "signing-manifest"
  else if root = "release-signing" ∧ rel.suffix = ".json" then "hsm-signing-session"
  else if root = "release-retention" ∧ name = "retention-manifest.json" then "retention-manifest"
  else if root = "release-ota" ∧ name = "ota-artifacts.json" then "ota-artifacts"
  else if root = "release-subject-graph" ∧ name = "release-subject-graph.json" then "release-subject-graph"
  else if root = "release-ingress" ∧ name = evidenceIngressManifest then "evidence-ingress"
  else if root = "release-ingress" ∧ evidenceIngressSignatureSidecars.contains name then "evidence-ingress-signature"
  else if root = "release-dry-run" then "rc-evidence-dry-run"
  else ((C.outputTrees.lookup root).map (·.schemaRole)).getD "preflight-input"

/-! ## The identity of a manifest -/

/-- The fields that `buildroot_identity_payload_from_mapping` takes over. -/
def buildrootFields : List String :=
  ["buildroot_index_sha", "buildroot_upstream_ref", "buildroot_source_mode", "buildroot_patchset_sha256", "buildroot_patch_files",
    "buildroot_effective_source_id", "buildroot_expected_patched", "buildroot_rust_version", "buildroot_rust_bin_version",
    "buildroot_expected_diff_sha256", "buildroot_staged_diff_sha256", "buildroot_applied_diff_sha256",
    "buildroot_worktree_diff_sha256", "suderra_source_sha", "suderra_external_tree_sha256", "suderra_external_dirty_paths",
    "suderra_release_source_id"]

/-- `buildroot_identity_payload_from_mapping`. -/
def buildrootIdentity (payload : Fields) : Fields :=
  ((lookup "buildroot_source_identity_schema_version" payload).map fun version => ("schema_version", version)).toList ++
    buildrootFields.filterMap fun name => (lookup name payload).map fun value => (name, value)

/-- The fields that must be texts. -/
def textFields : List String :=
  ["version", "profile", "source_sha", "source_run_id", "source_run_attempt", "build_workflow_name", "build_workflow_path",
    "matrix_sha256", "buildroot_source_identity_schema_version", "buildroot_index_sha", "buildroot_upstream_ref",
    "buildroot_source_mode", "buildroot_patchset_sha256", "buildroot_effective_source_id", "buildroot_rust_version",
    "buildroot_rust_bin_version"]

/-- The fields that must be those of the binding. -/
def bindingFields : List String :=
  ["version", "profile", "source_sha", "source_run_id", "source_run_attempt", "build_workflow_name", "build_workflow_path",
    "matrix_sha256", "buildroot_source_identity_schema_version", "buildroot_index_sha", "buildroot_upstream_ref",
    "buildroot_source_mode", "buildroot_patchset_sha256", "buildroot_patch_files", "buildroot_effective_source_id",
    "buildroot_applied_diff_sha256", "buildroot_expected_patched", "buildroot_rust_version", "buildroot_rust_bin_version",
    "buildroot_expected_diff_sha256", "buildroot_staged_diff_sha256", "buildroot_worktree_diff_sha256", "suderra_source_sha",
    "suderra_external_tree_sha256", "suderra_external_dirty_paths", "suderra_release_source_id"]

/-- The failures of a field, if the manifest has it. -/
def ifPresent (name : String) (manifest : Fields) (failures : Value → List String) : List String :=
  (lookup name manifest).toList.flatMap failures

/-- The failures of a field, if the manifest has it and it is not null. -/
def ifNotNull (name : String) (manifest : Fields) (failures : Value → List String) : List String :=
  if (field name manifest).pyEq .null then [] else failures (field name manifest)

/-- The arguments of `validate`. The roots are real places. -/
structure Args where
  manifest : PosixPath
  artifactRoot : Option (List String)
  inputRoot : Option (List String)
  bindingManifest : Option PosixPath
  expectedVersion : Option String
  expectedSourceSha : Option String
  requireSignature : Bool
  certificateIdentity : Option String
  certificateOidcIssuer : Option String
  requireEvidenceIngressSignature : Bool
  evidenceIngressCertificateIdentity : Option String
  evidenceIngressCertificateOidcIssuer : Option String

section Validator

variable (L : BuildrootIdentity.Libraries) (C : Contract) (T : FileTree) (M : Matrix) (A : Args) (now : Int)

/-- The failures of what the manifest says of itself. -/
def headFailures (manifest : Fields) : List String :=
  failUnless s!"$.schema_version: must be {schemaVersion}" ((field "schema_version" manifest).pyEq (.str schemaVersion)) ++
  textFields.flatMap (fun name => checkString s!"$.{name}" (field name manifest)) ++
  failUnless s!"$.build_workflow_name: must be {imageBuildWorkflowName}"
    ((field "build_workflow_name" manifest).pyEq (.str imageBuildWorkflowName)) ++
  failUnless s!"$.build_workflow_path: must be {imageBuildWorkflowPath}"
    ((field "build_workflow_path" manifest).pyEq (.str imageBuildWorkflowPath)) ++
  failUnless "$.profile: must be technical-dry-run, rc-evidence-dry-run, release-candidate, or production-candidate"
    ((field "profile" manifest).isIn (C.profiles.map fun p => .str p.1)) ++
  expectText s!"$.version: must match {orEmpty A.expectedVersion}" (field "version" manifest) A.expectedVersion

/-- The failures of a manifest against the binding. -/
def bindingFailures (manifest binding : Fields) : List String :=
  (bindingFields.filter fun name => (lookup name binding).isSome || (lookup name manifest).isSome).flatMap fun name =>
    failUnless s!"$.{name}: must match binding manifest"
      ((field name manifest).pyStr L.repr = (field name binding).pyStr L.repr)

/-- The failures of the digests of a manifest. -/
def digestFailures (manifest : Fields) : List String :=
  (if isHexText 40 (field "source_sha" manifest) then
    expectText s!"$.source_sha: must match {orEmpty A.expectedSourceSha}" (field "source_sha" manifest) A.expectedSourceSha
  else ["$.source_sha: must be a lowercase git commit sha"]) ++
  checkSha256 "$.matrix_sha256" (field "matrix_sha256" manifest) ++
  failUnless "$.buildroot_index_sha: must be a lowercase git commit sha" (isHexText 40 (field "buildroot_index_sha" manifest)) ++
  checkSha256 "$.buildroot_patchset_sha256" (field "buildroot_patchset_sha256" manifest) ++
  checkSha256 "$.buildroot_effective_source_id" (field "buildroot_effective_source_id" manifest) ++
  ifPresent "suderra_source_sha" manifest (fun v =>
    failUnless "$.suderra_source_sha: must be a lowercase git commit sha" (isHexText 40 v)) ++
  ["suderra_external_tree_sha256", "suderra_release_source_id"].flatMap (fun name =>
    ifPresent name manifest (checkSha256 s!"$.{name}")) ++
  ["buildroot_applied_diff_sha256", "buildroot_expected_diff_sha256", "buildroot_staged_diff_sha256",
    "buildroot_worktree_diff_sha256"].flatMap (fun name => ifNotNull name manifest (checkSha256 s!"$.{name}")) ++
  failUnless "$.buildroot_expected_patched: must be a boolean"
    (match field "buildroot_expected_patched" manifest with
      | .bool _ => true
      | _ => false)

/-- `validate_buildroot_identity`. -/
def validateBuildrootIdentity (path : String) (payload : Fields) : Except String (List String) := do
  let failures ← validateMetadataPayload L (buildrootIdentity payload)
  .ok (failures.map fun failure => s!"{path}: {failure}")

/-- The failures of the patch files from a place on, after the paths before it. -/
def patchFilesFailuresFrom (seen : List String) (idx : Nat) : List Value → List String
  | [] => []
  | .dict patch :: items =>
    let path := s!"$.buildroot_patch_files[{idx}]"
    let rel := (relativePath (field "path" patch)).map toString
    checkRelativePath s!"{path}.path" (field "path" patch) ++
      failUnless s!"{path}.path: must be unique" (!rel.any seen.contains) ++
      checkSha256 s!"{path}.sha256" (field "sha256" patch) ++
      failUnless s!"{path}.bytes: must be a positive integer" (isIntFrom 1 (field "bytes" patch)) ++
      patchFilesFailuresFrom (rel.toList ++ seen) (idx + 1) items
  | _ :: items => s!"$.buildroot_patch_files[{idx}]: must be an object" :: patchFilesFailuresFrom seen (idx + 1) items

/-- The failures of the patches, of the window, of the producer and of the roles. -/
def bodyFailures (manifest : Fields) : List String :=
  (match field "buildroot_patch_files" manifest with
    | .list items => patchFilesFailuresFrom [] 0 items
    | _ => ["$.buildroot_patch_files: must be a list"]) ++
  errorOf (parseUtc L.toLibraries "$.generated_at" (field "generated_at" manifest)) ++
  (match parseUtc L.toLibraries "$.expires_at" (field "expires_at" manifest) with
    | .ok expiresAt => failUnless "$.expires_at: must be in the future" (now < expiresAt.seconds)
    | .error message => [message]) ++
  objectFailures (field "producer" manifest) "$.producer: must be an object" (fun producer =>
    ["provider", "repository", "workflow", "run_id", "run_attempt", "actor"].flatMap fun name =>
      checkString s!"$.producer.{name}" (field name producer)) ++
  objectFailures (field "schema_roles" manifest) "$.schema_roles: must be an object" fun roles =>
    (schemaRoles C).flatMap fun p => failUnless s!"$.schema_roles.{p.1}: must be {p.2}" ((field p.1 roles).pyEq (.str p.2))

/-! ### The records -/

/-- Whether a record is of an input of the preflight. -/
def isPreflightInput (item : Fields) : Bool := (field "source" item).pyEq (.str "preflight-input")

/-- Whether the file of a record may be empty. -/
def allowEmpty (item : Fields) : Bool := isPreflightInput item && (field "role" item).pyEq (.str "qemu-stderr")

/-- Where the file of a record stands, if the place is known. -/
def recordRoot (item : Fields) : Option (List String) := if isPreflightInput item then A.inputRoot else A.artifactRoot

/-- The failures of the file of a record. -/
def recordFileFailures (path : String) (root : List String) (item : Fields) (rel : PosixPath) : List String :=
  match (treeFiles T (placeOf root rel)).filter fun bytes => !bytes.isEmpty || allowEmpty item with
  | none => [s!"{path}.path: referenced file is missing or empty: {rel}"]
  | some bytes =>
    failUnless s!"{path}.bytes: does not match referenced file size" ((field "bytes" item).pyEq (.int bytes.length)) ++
      failUnless s!"{path}.sha256: does not match referenced file sha256" ((field "sha256" item).pyEq (.str (L.hexdigest bytes)))

/-- The failures of the path of a record that is an input of the preflight. A profile that the contract does not have raises. -/
def preflightFailures (path profile : String) (item : Fields) (rel : PosixPath) : Except String (List String) :=
  if isPreflightInput item then do
    let roots ← C.preflightInputRoots profile
    .ok (failUnless s!"{path}.path: preflight input must be under an allowed input tree" (rel.names.head?.any roots.contains) ++
      failUnless s!"{path}.role: does not match preflight input path role {preflightInputRoleForPath C rel}"
        ((field "role" item).pyEq (.str (preflightInputRoleForPath C rel))))
  else .ok []

/-- The failures of a record at a path, after the paths before it. -/
def recordPathFailures (path profile : String) (seen : List String) (item : Fields) (rel : PosixPath) :
    Except String (List String) := do
  let preflight ← preflightFailures C path profile item rel
  .ok (failUnless s!"{path}.path: must be unique" (!seen.contains (toString rel)) ++ preflight ++
    (recordRoot A item).toList.flatMap fun root => recordFileFailures L T path root item rel)

/-- The failures of a record, after the paths before it. A source or a role that cannot be hashed raises. -/
def recordFailures (profile : String) (seen : List String) (idx : Nat) (item : Fields) : Except String (List String) := do
  let path := s!"$.files[{idx}]"
  guardError "TypeError" ((field "source" item).isHashable && (!isPreflightInput item || (field "role" item).isHashable))
  let file ← ((relativePath (field "path" item)).map (recordPathFailures L C T A path profile seen item)).getD (.ok [])
  .ok (["role", "defconfig", "target", "artifact"].flatMap (fun name => checkString s!"{path}.{name}" (field name item)) ++
    failUnless (s!"{path}.source: must be build-artifact, build-evidence, installer-artifact, image-build-contract, " ++
      "or preflight-input")
      ((field "source" item).isIn
        [.str "build-artifact", .str "build-evidence", .str "installer-artifact", .str "image-build-contract",
          .str "preflight-input"]) ++
    checkRelativePath s!"{path}.path" (field "path" item) ++
    checkSha256 s!"{path}.sha256" (field "sha256" item) ++
    failUnless s!"{path}.bytes: must be a positive integer unless role allows empty evidence"
      (isIntFrom (if allowEmpty item then 0 else 1) (field "bytes" item)) ++
    file)

/-- The failures of the records from a place on, after the paths before it. -/
def recordsFailures (profile : String) (seen : List String) (idx : Nat) : List Value → Except String (List String)
  | [] => .ok []
  | .dict item :: items => do
    let here ← recordFailures L C T A profile seen idx item
    let rest ← recordsFailures profile (((relativePath (field "path" item)).map toString).toList ++ seen) (idx + 1) items
    .ok (here ++ rest)
  | _ :: items => do
    let rest ← recordsFailures profile seen (idx + 1) items
    .ok (s!"$.files[{idx}]: must be an object" :: rest)

/-- The records of a dry run. -/
def dryRunRecords (manifest : Fields) : List Fields :=
  ((filesOf manifest).filterMap asDict).filter fun item =>
    (field "path" item).asStr.any fun path =>
      !(PosixPath.ofString path).isAbsolute && (PosixPath.ofString path).names.head? = some "release-dry-run"

/-- The failures of the records of a dry run. -/
def dryRunFailures (manifest : Fields) : List String :=
  let profile := field "profile" manifest
  let version := textField L.toPython "version" manifest
  let missing := sortedDiff
    [s!"release-dry-run/{version}/dry-run-report.json", s!"release-dry-run/{version}/bundle-manifest.json",
      s!"release-dry-run/{version}/gaps.json"]
    ((dryRunRecords manifest).map fun item => (field "path" item).pyStr L.repr)
  failUnless "$.files: release-dry-run inputs are only valid for rc-evidence-dry-run"
    ((dryRunRecords manifest).isEmpty || profile.pyEq (.str "rc-evidence-dry-run")) ++
  failUnless ("$.files: rc-evidence-dry-run must preserve dry-run report, bundle manifest, and gap report: " ++
    ", ".intercalate missing) (!profile.pyEq (.str "rc-evidence-dry-run") || missing.isEmpty)

/-- Whether some record is the contract of the image build. -/
def hasImageBuildContract (manifest : Fields) : Bool :=
  ((filesOf manifest).filterMap asDict).any fun item =>
    (field "source" item).pyEq (.str "image-build-contract") && (field "role" item).pyEq (.str "image-build-contract")

/-- The records of inputs of the preflight at a path. -/
def preflightRecords (manifest : Fields) (path : String) : List Fields :=
  ((filesOf manifest).filterMap asDict).filter fun item =>
    isPreflightInput item && ((relativePath (field "path" item)).map toString) = some path

/-! ### What is replayed -/

/-- The arguments with which the manifest of the operator is replayed. -/
def operatorArgs (manifest : Fields) (inputRoot : List String) : OperatorIngress.Args where
  manifest := versionedPath inputRoot "release-ingress" (textField L.toPython "version" manifest) evidenceIngressManifest
  inputRoot := some inputRoot
  matrix := M
  expectedVersion := some (textField L.toPython "version" manifest)
  expectedSourceSha := some (textField L.toPython "source_sha" manifest)
  expectedRunId := some (textField L.toPython "source_run_id" manifest)
  expectedRunAttempt := some (textField L.toPython "source_run_attempt" manifest)
  requireSignature := A.requireEvidenceIngressSignature
  certificateIdentity := A.evidenceIngressCertificateIdentity
  certificateOidcIssuer := A.evidenceIngressCertificateOidcIssuer
  allowPreflightContext := true

/-- `validate_operator_evidence_ingress`. -/
def validateOperatorEvidenceIngress (manifest : Fields) (inputRoot : List String) : Except String (List String) := do
  let failures ← OperatorIngress.validateManifest L.toLibraries C T (operatorArgs L M A manifest inputRoot) now
  .ok (failures.map fun failure => s!"operator evidence ingress: {failure}")

/-- The query with which the subject graph is replayed. -/
def graphQuery (manifest binding : Fields) (inputRoot : List String) : SubjectGraph.Query where
  path := versionedPath inputRoot "release-subject-graph" (textField L.toPython "version" manifest) "release-subject-graph.json"
  version := textField L.toPython "version" manifest
  profile := (field "profile" manifest).pyStr L.repr
  sourceSha := some ((field "source_sha" manifest).pyStr L.repr)
  sourceRunId := some ((field "source_run_id" manifest).pyStr L.repr)
  matrix := M.defconfigs
  binding := some binding
  root := some ⟨"/", inputRoot⟩
  checkFiles := true

/-- The failures of the subject graph; an exception of its validator is one. -/
def graphFailures (manifest binding : Fields) (inputRoot : List String) : List String :=
  let query := graphQuery L M manifest binding inputRoot
  if ((treeFiles T query.path).filter (!·.isEmpty)).isNone then
    [s!"release ingress missing authoritative preflight subject graph: {query.path}"]
  else
    match SubjectGraph.validateSubjectGraph L.toPython C (treeFiles T) query with
    | .ok failures => failures
    | .error message => [s!"release subject graph semantic replay failed: {message}"]

/-- The failures of a manifest of a profile that needs the evidence of the operator. -/
def operatorFailures (manifest : Fields) (binding : Option Value) : Except String (List String) := do
  let version := textField L.toPython "version" manifest
  let expected := s!"release-ingress/{version}/{evidenceIngressManifest}"
  let once := (preflightRecords manifest expected).length = 1
  let operator ← ((A.inputRoot.filter fun _ => once).map (validateOperatorEvidenceIngress L C T M A now manifest)).getD (.ok [])
  .ok (failUnless ("$.files: release-candidate and production-candidate profiles must include exactly one " ++
      s!"operator evidence ingress manifest record at {expected}") once ++
    (evidenceIngressSignatureSidecars.map fun sidecar => s!"release-ingress/{version}/{sidecar}").flatMap (fun sidecar =>
      failUnless ("$.files: release-candidate and production-candidate profiles must include exactly one " ++
        s!"operator evidence ingress signature sidecar record at {sidecar}") ((preflightRecords manifest sidecar).length = 1)) ++
    failUnless ("release-candidate and production-candidate profiles require --input-root to validate " ++
      "operator evidence ingress") A.inputRoot.isSome ++
    operator ++
    if (field "profile" manifest).pyEq (.str "production-candidate") then
      A.inputRoot.toList.flatMap fun inputRoot =>
        (binding.bind asDict).toList.flatMap fun binding => graphFailures L C T M manifest binding inputRoot
    else [])

/-- Whether the profile of a manifest is one of those. -/
def isStrict (manifest : Fields) : Bool := (field "profile" manifest).isIn ((strictPreflightProfiles C).map .str)

/-- The failures that only a manifest of such a profile has. -/
def strictFailures (manifest : Fields) (binding : Option Value) : Except String (List String) :=
  if isStrict C manifest then operatorFailures L C T M A now manifest binding else .ok []

/-- The binding that is compared, if one is asked for and can be read. -/
def readBinding : Except String (Option Value) :=
  (A.bindingManifest.map (readJson L.toPython (treeFiles T))).getD (.ok none)

/-- The failures of a manifest that was read. -/
def manifestFailures (manifest : Fields) : Except String (List String) := do
  guardError "TypeError" (field "profile" manifest).isHashable
  let binding ← readBinding L T A
  let identity ← validateBuildrootIdentity L "$.buildroot_source_identity" manifest
  let records ← recordsFailures L C T A (textField L.toPython "profile" manifest) [] 0 (filesOf manifest)
  let strict ← strictFailures L C T M A now manifest binding
  .ok (headFailures C A manifest ++
    (A.bindingManifest.filter fun _ => binding.isNone).toList.map (fun path => s!"{path}: cannot read binding manifest") ++
    (binding.bind asDict).toList.flatMap (bindingFailures L manifest) ++
    digestFailures A manifest ++ identity ++ bodyFailures L C now manifest ++
    failUnless "$.files: must be a non-empty list" (filesOf manifest ≠ []) ++
    records ++ dryRunFailures L manifest ++
    failUnless "$.files: must include image-build-contract evidence" (hasImageBuildContract manifest) ++ strict ++
    if A.requireSignature then
      verifyManifestSignature L.toLibraries T A.manifest A.certificateIdentity A.certificateOidcIssuer
        "missing ingress manifest signature sidecar"
        "ingress signature verification requires certificate identity and OIDC issuer"
        "cosign ingress signature verification failed"
    else [])

/-- `validate_manifest`. -/
def validateManifest : Except String (List String) := do
  let manifest ← readJson L.toPython (treeFiles T) A.manifest
  match manifest with
  | none => .ok [s!"{A.manifest}: cannot read ingress manifest"]
  | some (.dict manifest) => manifestFailures L C T M A now manifest
  | some _ => .ok [s!"{A.manifest}: ingress manifest must be a JSON object"]

end Validator

end SuderraOs.Evidence.ReleaseIngress
