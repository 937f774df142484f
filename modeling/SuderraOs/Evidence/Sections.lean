import SuderraOs.Evidence.Approval
import SuderraOs.Evidence.Contract

/-!
# The sections of an `evidence.json`

The sections of a release evidence that are checked by themselves and against the files that they name. The sections with a validator
of their own are in `Replays`. Of a section that is accepted for a release, what later results use is stated after its checks.
-/

namespace SuderraOs.Evidence.ReleaseEvidence

open Value OperatorIngress

def assetManifestSchemaVersion : String := "suderra.release-assets.v1"

def topLevelFields : List String :=
  ["schema_version", "version", "target", "generated_at", "target_contract", "source", "asset_manifest", "artifacts", "sbom", "vex",
    "reproducibility", "security_scans", "machine_verification", "build_evidence", "preflight_inputs", "subject_graph", "governance",
    "governance_role_bindings", "qemu", "runtime_qemu", "runtime_observations", "hardware", "hardware_subjects", "station_acquisitions",
    "signing_manifests", "ota_artifacts", "hsm_signing_sessions", "release_image_scan_reports", "scanner_native_reports",
    "retention_manifest", "runtime_checks", "approvals", "residual_risk", "release_decision"]

def targetContractFields : List String :=
  ["defconfig", "target", "arch", "artifact", "release_artifact", "profile", "boot_mode", "partition_table", "root_partition",
    "root_identity", "signing", "acceptance", "production_required", "production_ready"]

def governanceChecks : List String :=
  ["policy_validation", "snapshot_manifest", "repo", "branch_protection", "rulesets", "release_sign_environment",
    "release_sign_environment_deployment_policy", "release_environment", "release_environment_deployment_policy",
    "workflow_permissions", "codeowners", "audit_log"]

def allowedReleaseAssetRoles : List String :=
  ["attestation", "certificate", "checksum", "evidence", "installer", "manifest", "payload-signature", "release-control",
    "release-image", "sbom", "signature"]

/-- What a script reads of the documents that it is started with. -/
structure Site where
  contract : Contract
  runtimeRequiredChecks : List String
  hardwareRequiredChecks : List String
  boardsByTarget : List (String × List String)

/-- How `validate_evidence` is called, with the matrix where one is asked for and, if it can be read, found. -/
structure Invocation where
  matrix : Option (Option Matrix)
  requirePass : Bool
  releaseTier : Option String
  allowTierOverride : Bool
  subjectGraphClosure : Bool

/-! ## What an evidence is about -/

/-- An object, or an empty one. -/
def objectAt (name : String) (fields : Fields) : Fields := (field name fields).asDict.getD []

/-- The objects of a list, if it is one. -/
def objectsAt (name : String) (fields : Fields) : List Fields := ((field name fields).asList.getD []).filterMap asDict

/-- `collected_workflow_identity`. -/
def collectedWorkflowIdentity (v : Value) : Bool :=
  v.asDict.any fun identity => ["run_id", "run_attempt"].all fun name => (field name identity).asStr.any (· ≠ "not_collected")

/-- `source_image_build_identity`. -/
def sourceImageBuildIdentity (evidence : Fields) : Fields :=
  let source := objectAt "source" evidence
  if collectedWorkflowIdentity (field "image_build" source) then objectAt "image_build" source else objectAt "ci" source

/-- The commit of the source, if it is a text. -/
def gitCommit (evidence : Fields) : Option String := (field "git_commit" (objectAt "source" evidence)).asStr

/-- `evidence_artifact_sha256s`. -/
def evidenceArtifactSha256s (evidence : Fields) : List String :=
  (objectsAt "artifacts" evidence).filterMap fun item => (field "sha256" item).asStr.filter (isHex 64)

/-- The objects of a list that is looped over; a value that is no collection raises. -/
def loopObjects (v : Value) : Except String (List Fields) :=
  match v with
  | .list items => .ok (items.filterMap asDict)
  | .dict _ => .ok []
  | .str _ => .ok []
  | _ => .error "TypeError"

section Strings

variable (Γ : Python) (evidence : Fields)

/-- `str(evidence.get("version"))`. -/
def versionText : String := (field "version" evidence).pyStr Γ.repr

/-- `str(evidence.get("target"))`. -/
def targetText : String := (field "target" evidence).pyStr Γ.repr

/-- The run that built the images, as a text, if there is one. -/
def runIdText : Option String :=
  match field "run_id" (sourceImageBuildIdentity evidence) with
  | .null => none
  | v => some (v.pyStr Γ.repr)

end Strings

/-! ## The contract of the target -/

/-- The row of the matrix that `targets_by_id` has under a key: the last of that target, or the first of that name. -/
def rowByKey (Γ : Python) (M : Matrix) (key : String) : Option Fields :=
  (M.defconfigs.filterMap asDict).foldl (fun found entry =>
    let found := if key ≠ "" ∧ textField Γ "target" entry = key then some entry else found
    if key ≠ "" ∧ textField Γ "name" entry = key then found.or (some entry) else found) none

/-- The names under which `contract_from_matrix` takes the fields of a row. -/
def matrixFields : List (String × String) :=
  ("defconfig", "name") :: (targetContractFields.filter (· ≠ "defconfig")).map fun name => (name, name)

section Target

variable (Γ : Python) (C : Contract) (evidence : Fields)

/-- The failures of a contract against the row of the matrix, which must have every field. -/
def rowFailures (contract row : Fields) : Except String (List String) := do
  guardError "KeyError" (matrixFields.all fun p => (lookup p.2 row).isSome)
  .ok (matrixFields.flatMap fun p =>
    failUnless s!"$.target_contract.{p.1}: does not match matrix value {(field p.2 row).pyStr Γ.repr}"
      ((field p.1 contract).pyEq (field p.2 row)))

/-- The failures of a contract against the matrix, where there is one. -/
def matrixFailures (contract : Fields) : Option Matrix → Except String (List String)
  | none => .ok []
  | some M =>
    match rowByKey Γ M (textField Γ "target" evidence) with
    | none => .ok ["$.target: must exist in ci/build-matrix.yml"]
    | some row => rowFailures Γ contract row

/-- `validate_target_contract`. -/
def validateTargetContract (M : Option Matrix) : Except String (List String) :=
  match field "target_contract" evidence with
  | .dict contract => do
    let missing := sortedDiff targetContractFields (contract.map (·.1))
    let extra := sortedDiff (contract.map (·.1)) targetContractFields
    let row ← matrixFailures Γ evidence contract M
    .ok (failUnless s!"$.target_contract: missing fields: {commaSeparated missing}" missing.isEmpty ++
      failUnless s!"$.target_contract: unknown fields: {commaSeparated extra}" extra.isEmpty ++
      failUnless "$.target_contract.target: must match evidence.target" ((field "target" contract).pyEq (field "target" evidence)) ++
      checkStrings "$.target_contract"
        (targetContractFields.filter fun name => name ≠ "production_required" ∧ name ≠ "production_ready") contract ++
      (["production_required", "production_ready"].flatMap fun name => checkBool s!"$.target_contract.{name}" (field name contract)) ++ row)
  | _ => .ok ["$.target_contract: must be an object"]

/-- The row of the target. -/
def targetRow (M : Option Matrix) : Option Fields := M.bind fun M => rowByKey Γ M (textField Γ "target" evidence)

/-- Whether a row is one of a release or of production. -/
def isReleaseRow (row : Fields) : Bool := (field "production_required" row).isTrue || (field "release" row).isTrue

/-- The failure of a target that is released without a policy. -/
def policyFailures (M : Option Matrix) : List String :=
  failUnless "$.target: release/production target must have ci/evidence-contract.yml policy"
    (!(targetRow Γ evidence M).any isReleaseRow || (C.targetPolicy (textField Γ "target" evidence)).isSome)

/-- What a release of a target needs. -/
structure Gates where
  qemu : Bool
  hardware : Bool
  runtime : Bool
  signing : Bool
  imageScan : Bool

/-- `expected_gate_requirements`. A released target without a policy needs what its contract says, every other one nothing. -/
def expectedGateRequirements (M : Option Matrix) : Gates :=
  match field "target_contract" evidence with
  | .dict contract =>
    let row := targetRow Γ evidence M
    let production := (field "production_required" contract).truthy
    let qemu := row.any fun row => (field "qemu_test" row).truthy
    match C.targetPolicy (textField Γ "target" evidence) with
    | some policy => ⟨qemu, policy.hardwareRequired, policy.runtimeRequired, policy.signingRequired, policy.releaseImageScanRequired⟩
    | none =>
      if row.any isReleaseRow then
        ⟨qemu, production || Text.contains "hardware".toList (textField Γ "acceptance" contract).toList, production, production, production⟩
      else ⟨qemu, false, false, false, false⟩
  | _ => ⟨false, false, false, false, false⟩

end Target

/-! ## The head of an evidence -/

/-- A full match of `SAFE_ID_RE`. -/
def isSafeId (s : String) : Bool :=
  match s.toList with
  | [] => false
  | c :: cs => c.isAlphanum && cs.all fun d => d.isAlphanum || ['.', '_', '+', '-'].contains d

/-- `release_tier_from_version`. -/
def releaseTierFromVersion (v : Value) : String := if v.asStr.any fun s => s.toList.contains '-' then "alpha" else "production"

/-- `path.as_posix().split("/")`. -/
def pathParts (path : PosixPath) : List String :=
  (if path.root = "" then [] else if path.root = "/" then [""] else ["", ""]) ++ path.names

section Head

variable (L : Libraries) (C : Contract) (B : Bundle) (I : Invocation) (evidence : Fields)

/-- The tier that an evidence is checked for; an empty text asks for none. -/
def effectiveTier : String := (I.releaseTier.filter (· ≠ "")).getD (releaseTierFromVersion (field "version" evidence))

/-- `check_path_contract`. -/
def checkPathContract : List String :=
  match (pathParts B.evidencePath).reverse with
  | name :: target :: version :: _ =>
    if name = "evidence.json" then
      failUnless "$path: version directory must match evidence.version" ((field "version" evidence).pyEq (.str version)) ++
        failUnless "$path: target directory must match evidence.target" ((field "target" evidence).pyEq (.str target))
    else ["$path: must end with <version>/<target>/evidence.json"]
  | _ => ["$path: must end with <version>/<target>/evidence.json"]

/-- The failures of the fields of an evidence and of where it stands. -/
def headFailures : List String :=
  let missing := sortedDiff topLevelFields (evidence.map (·.1))
  let extra := sortedDiff (evidence.map (·.1)) topLevelFields
  let schema := C.schema "release_evidence"
  let inferred := releaseTierFromVersion (field "version" evidence)
  failUnless s!"$: missing fields: {commaSeparated missing}" missing.isEmpty ++
    failUnless s!"$: unknown fields: {commaSeparated extra}" extra.isEmpty ++
    failUnless s!"$.schema_version: must be {schema}" ((field "schema_version" evidence).pyEq (.str schema)) ++
    checkStrings "$" ["version", "target", "generated_at"] evidence ++
    (parseTimestamp L.fromisoformat "$.generated_at" (field "generated_at" evidence) true).1 ++
    (["version", "target"].flatMap fun name =>
      failUnless s!"$.{name}: must be a safe path identifier" ((field name evidence).asStr.all isSafeId)) ++
    failUnless (s!"$.version: release tier must be {inferred} for version " ++ (field "version" evidence).pyStr L.repr)
      (I.releaseTier.all (· = inferred) || I.allowTierOverride) ++
    checkPathContract B evidence ++
    failUnless "$matrix: cannot read matrix" (I.matrix.all Option.isSome)

end Head

/-- `validate_source`. -/
def validateSource (requirePass : Bool) (evidence : Fields) : List String :=
  let workflow := ["provider", "workflow", "run_id", "run_attempt"]
  objectFailures (field "source" evidence) "$.source: must be an object" fun source =>
    checkStrings "$.source" ["repository", "git_commit", "git_tag"] source ++ checkBool "$.source.dirty" (field "dirty" source) ++
      failUnless "$.source.git_tag: must match evidence.version" ((field "git_tag" source).pyEq (field "version" evidence)) ++
      objectFailures (field "ci" source) "$.source.ci: must be an object" (checkStrings "$.source.ci" workflow) ++
      (["image_build", "release_preflight", "release_sign", "release_publish"].flatMap fun name =>
        if (field name source).pyEq .null then []
        else objectFailures (field name source) s!"$.source.{name}: must be an object" (checkStrings s!"$.source.{name}" workflow)) ++
      failUnless "$.source.image_build.run_id: must be collected for release-ready evidence"
        (!requirePass || collectedWorkflowIdentity (.dict (sourceImageBuildIdentity evidence))) ++
      failUnless "$.source.git_commit: must be a full git commit sha"
        (!requirePass || (field "git_commit" source).asStr.any (isHex 40)) ++
      failUnless "$.source.dirty: must be false for release-ready evidence" (!requirePass || isFalse (field "dirty" source))

/-! ## Artifacts and their documents -/

section Bundle

variable (L : Libraries) (B : Bundle) (requirePass : Bool) (evidence : Fields)

/-- The failures of the document in a file, if the file is there; those of a file that is no JSON are given. -/
def documentFailures (v : Value) (unreadable : List String) (failures : Value → Except String (List String)) :
    Except String (List String) :=
  match fileForRelativePath B v with
  | none => .ok []
  | some file => do
    let payload ← readJson L.toPython B.files file.1
    payload.elim (.ok unreadable) failures

/-- The failures of an entry of the asset manifest, after the names before it. -/
def assetFailuresFrom (seen : List String) (idx : Nat) : List Value → List String
  | [] => []
  | .dict entry :: items =>
    let path := s!"$.asset_manifest.files[{idx}]"
    let name := (field "name" entry).asStr
    checkStrings path ["name", "role"] entry ++ checkSha256 s!"{path}.sha256" (field "sha256" entry) true ++
      checkPositiveInt s!"{path}.bytes" (field "bytes" entry) true ++
      failUnless s!"{path}.role: must be one of: {commaSeparated allowedReleaseAssetRoles}"
        ((field "role" entry).asStr.all allowedReleaseAssetRoles.contains) ++
      failUnless s!"{path}.name: must be unique within release-assets.json" (!name.any seen.contains) ++
      assetFailuresFrom (name.toList ++ seen) (idx + 1) items
  | _ :: items => s!"$.asset_manifest.files[{idx}]: must be an object" :: assetFailuresFrom seen (idx + 1) items

/-- The last entry of a name. -/
def assetNamed (entries : List Fields) (name : String) : Option Fields :=
  entries.reverse.find? fun entry => (field "name" entry).pyEq (.str name)

/-- The failures of an artifact against its entry in the manifest. -/
def assetMismatches (idx : Nat) (artifact entry : Fields) : List String :=
  ["sha256", "bytes"].flatMap fun name =>
    failUnless s!"$.artifacts[{idx}].{name}: does not match release-assets.json entry"
      (!(field name artifact).truthy || (field name entry).pyEq (field name artifact))

/-- The failures of the artifacts against the entries of the manifest. A name that no set can hold raises. -/
def assetArtifactFailures (entries : List Fields) : Except String (List String) := do
  let artifacts ← loopObjects ((lookup "artifacts" evidence).getD (.list []))
  guardError "TypeError" (artifacts.all fun artifact => (field "name" artifact).isHashable)
  let names := entries.filterMap fun entry => (field "name" entry).asStr
  let missing := sortNames ((((artifacts.map (field "name")).filter fun name =>
    name.truthy && !name.asStr.any names.contains).map (pyStr L.repr)).dedup)
  .ok (failUnless s!"$.asset_manifest.path: missing release artifact subject(s): {commaSeparated missing}" missing.isEmpty ++
    ((((field "artifacts" evidence).asList.getD []).zipIdx.filterMap fun p => p.1.asDict.map (·, p.2)).flatMap fun p =>
      ((field "name" p.1).asStr.bind (assetNamed entries)).toList.flatMap (assetMismatches p.2 p.1)))

/-- The failures of the asset manifest that the bundle has. -/
def assetDocumentFailures : Value → Except String (List String)
  | .dict payload => do
    let head := failUnless s!"$.asset_manifest.path: schema_version must be {assetManifestSchemaVersion}"
        ((field "schema_version" payload).pyEq (.str assetManifestSchemaVersion)) ++
      failUnless "$.asset_manifest.path: version must match evidence.version" ((field "version" payload).pyEq (field "version" evidence))
    match field "files" payload with
    | .list (item :: items) => do
      let entries := ((item :: items).filterMap asDict).filter fun entry => (field "name" entry).asStr.isSome
      let artifacts ← assetArtifactFailures L evidence entries
      .ok (head ++ assetFailuresFrom [] 0 (item :: items) ++ artifacts)
    | _ => .ok (head ++ ["$.asset_manifest.path: files must be a non-empty list"])
  | _ => .error "AttributeError"

/-- `validate_asset_manifest`. -/
def validateAssetManifest : Except String (List String) :=
  match field "asset_manifest" evidence with
  | .dict manifest => do
    let found ← documentFailures L B (field "path" manifest) ["$.asset_manifest.path: must be readable JSON"]
      (assetDocumentFailures L evidence)
    .ok (checkRelativePath L.toPython B "$.asset_manifest.path" (field "path" manifest) true ++
      checkSha256 "$.asset_manifest.sha256" (field "sha256" manifest) requirePass ++
      checkFileSha256 L.toPython B "$.asset_manifest.sha256" (field "path" manifest) (field "sha256" manifest) ++
      checkBool "$.asset_manifest.verified" (field "verified" manifest) ++
      failUnless "$.asset_manifest.verified: must be true for release-ready evidence"
        (!requirePass || (field "verified" manifest).isTrue) ++ found)
  | _ => .ok ["$.asset_manifest: must be an object"]

/-- The failures of the files of a control of an artifact: they count where the control is required or verified. -/
def controlFailures (path : String) (files : List String) (control : Value) : List String :=
  objectFailures control s!"{path}: must be an object" fun control =>
    (files.flatMap fun name => checkRelativePath L.toPython B s!"{path}.{name}"
      (if requirePass || (field "verified" control).isTrue then field name control else .null) requirePass) ++
      checkBool s!"{path}.verified" (field "verified" control) ++
      failUnless s!"{path}.verified: must be true for release-ready evidence" (!requirePass || (field "verified" control).isTrue)

/-- The failures of an artifact. -/
def artifactFailures (path : String) (artifact : Fields) : List String :=
  checkStrings path ["name", "role"] artifact ++
    checkRelativePath L.toPython B s!"{path}.path" (field "path" artifact) true ++
    checkSha256 s!"{path}.sha256" (field "sha256" artifact) requirePass ++
    checkPositiveInt s!"{path}.bytes" (field "bytes" artifact) requirePass ++
    checkFileSha256 L.toPython B s!"{path}.sha256" (field "path" artifact) (field "sha256" artifact) ++
    checkFileSize B s!"{path}.bytes" (field "path" artifact) (field "bytes" artifact) ++
    controlFailures L B requirePass s!"{path}.signature" ["path", "certificate"] (field "signature" artifact) ++
    controlFailures L B requirePass s!"{path}.provenance" ["path"] (field "provenance" artifact)

/-- `validate_artifacts`. -/
def validateArtifacts : List String :=
  match field "artifacts" evidence with
  | .list (item :: items) => (item :: items).zipIdx.flatMap fun p =>
      objectFailures p.1 s!"$.artifacts[{p.2}]: must be an object" (artifactFailures L B requirePass s!"$.artifacts[{p.2}]")
  | _ => ["$.artifacts: must be a non-empty list"]

/-- The failures of the components of a CycloneDX document. -/
def componentFailures (count : Value) : Value → Except String (List String)
  | .dict payload =>
    let actual := ((field "components" payload).asList.getD []).length
    .ok (failUnless "$.sbom.component_count: CycloneDX components must be non-empty" (0 < actual) ++
      failUnless "$.sbom.component_count: does not match CycloneDX components length" (count.asInt.all (· = (actual : Int))))
  | _ => .error "AttributeError"

/-- `validate_sbom`. -/
def validateSbom : Except String (List String) :=
  match field "sbom" evidence with
  | .dict sbom => do
    let found ← documentFailures L B (field "path" sbom) ["$.sbom.path: must be readable CycloneDX JSON"]
      (componentFailures (field "component_count" sbom))
    .ok (failUnless "$.sbom.format: must be cyclonedx-json" ((field "format" sbom).pyEq (.str "cyclonedx-json")) ++
      checkRelativePath L.toPython B "$.sbom.path" (field "path" sbom) true ++
      checkSha256 "$.sbom.sha256" (field "sha256" sbom) requirePass ++
      checkPositiveInt "$.sbom.component_count" (field "component_count" sbom) requirePass ++
      checkFileSha256 L.toPython B "$.sbom.sha256" (field "path" sbom) (field "sha256" sbom) ++
      checkBool "$.sbom.signature_verified" (field "signature_verified" sbom) ++ found ++
      failUnless "$.sbom.signature_verified: must be true for release-ready evidence"
        (!requirePass || (field "signature_verified" sbom).isTrue))
  | _ => .ok ["$.sbom: must be an object"]

/-- `validate_vex`. -/
def validateVex (production : Bool) : Except String (List String) :=
  match field "vex" evidence with
  | .dict vex => do
    let status ← checkStatus "$.vex.status" (field "status" vex) vexStatusValues
    let present := (field "status" vex).pyEq (.str "present")
    .ok (status ++ checkRelativePath L.toPython B "$.vex.path" (field "path" vex) present ++
      checkSha256 "$.vex.sha256" (field "sha256" vex) present ++
      checkFileSha256 L.toPython B "$.vex.sha256" (field "path" vex) (field "sha256" vex) ++
      checkBool "$.vex.signature_verified" (field "signature_verified" vex) ++
      failUnless "$.vex.status: must be present for release-ready evidence" (!(requirePass && production) || present) ++
      failUnless "$.vex.signature_verified: must be true when VEX is present"
        (!(present && requirePass && production) || (field "signature_verified" vex).isTrue))
  | _ => .ok ["$.vex: must be an object"]

/-- `validate_reproducibility`. -/
def validateReproducibility : Except String (List String) :=
  match field "reproducibility" evidence with
  | .dict reproducibility => do
    let status ← checkStatus "$.reproducibility.status" (field "status" reproducibility) statusValues
    let comparison := field "comparison" reproducibility
    .ok (status ++ (if comparison.pyEq .null then [] else checkString "$.reproducibility.comparison" comparison) ++
      (match field "logs" reproducibility with
        | .list logs => logs.zipIdx.flatMap fun p => checkRelativePath L.toPython B s!"$.reproducibility.logs[{p.2}]" p.1 true
        | _ => ["$.reproducibility.logs: must be a list"]) ++
      failUnless "$.reproducibility.status: must be passed for release-ready evidence"
        (!requirePass || (field "status" reproducibility).pyEq (.str "passed")))
  | _ => .ok ["$.reproducibility: must be an object"]

/-! ## Scans -/

/-- The failures of an entry with a status and a report. -/
def statusEntryFailures (requireReport : Bool) (path : String) : Value → Except String (List String)
  | .dict entry => do
    let status ← checkStatus s!"{path}.status" (field "status" entry) statusValues
    let passed := (field "status" entry).pyEq (.str "passed")
    .ok (checkString s!"{path}.name" (field "name" entry) ++ status ++
      checkRelativePath L.toPython B s!"{path}.report" (field "report" entry) (requireReport || (requirePass && passed)) ++
      failUnless s!"{path}.status: must be passed for release-ready evidence" (!requirePass || passed))
  | _ => .ok [s!"{path}: must be an object"]

/-- The names of the entries of a list. -/
def entryNames (items : List Value) : List String :=
  (items.filterMap asDict).filterMap fun entry => (field "name" entry).asStr.filter fun s => !isBlank s

/-- `validate_status_list`. -/
def validateStatusList (basePath : String) (v : Value) (requireReport : Bool) (expectedNames : Option (List String)) :
    Except String (List String) :=
  match v with
  | .list items => do
    let found ← items.zipIdx.mapM fun p => statusEntryFailures L B requirePass requireReport s!"{basePath}[{p.2}]" p.1
    .ok ((expectedNames.toList.flatMap fun expected =>
        failUnless s!"{basePath}: must contain exactly: {commaSeparated (sortNames expected)}"
          (sortNames (entryNames items) = sortNames expected)) ++ found.flatten ++
      failUnless s!"{basePath}: must not be empty for release-ready evidence" (!requirePass || !items.isEmpty))
  | _ => .ok [s!"{basePath}: must be a list"]

/-! ## The build -/

/-- The failures of the warnings of a build. -/
def warningFailures (path : String) : Value → List String
  | .dict payload =>
    objectFailures (field "summary" payload) s!"{path}.path: warning summary must be an object" (fun summary =>
      failUnless s!"{path}.path: warning owned count must be 0" ((field "owned" summary).pyEq (.int 0)) ++
        failUnless s!"{path}.path: warning third-party count must be 0" ((field "third-party" summary).pyEq (.int 0))) ++
      ["failing", "policy_errors"].flatMap fun name =>
        failUnless s!"{path}.path: warning {name} must be empty" ((field name payload).pyEq (.list []))
  | _ => [s!"{path}.path: must be warning classifier JSON"]

end Bundle

/-- The failures of the identity of the source of a build. -/
def identityDocumentFailures (L : BuildrootIdentity.Libraries) (path : String) : Value → Except String (List String)
  | .dict payload => do
    let failures ← BuildrootIdentity.validateMetadataPayload L payload
    .ok ((failures.map fun failure => s!"{path}.path: {failure}") ++
      failUnless s!"{path}.path: patched Buildroot source identity must include buildroot_applied_diff_sha256"
        (!(field "buildroot_patch_files" payload).truthy || (field "buildroot_applied_diff_sha256" payload).truthy))
  | _ => .ok [s!"{path}.path: must be Buildroot source identity JSON"]

section Build

variable (L : BuildrootIdentity.Libraries) (B : Bundle) (requirePass : Bool) (evidence : Fields)

/-- The failures of what the file of a record says. -/
def buildDocumentFailures (collection path : String) (v : Value) : Except String (List String) :=
  match collection with
  | "warnings" => documentFailures L.toLibraries B v (warningFailures path .null) fun payload => .ok (warningFailures path payload)
  | "source_identity" =>
    documentFailures L.toLibraries B v [s!"{path}.path: must be Buildroot source identity JSON"] (identityDocumentFailures L path)
  | _ => .ok []

/-- The failures of a record of a build. -/
def buildItemFailures (collection path : String) : Value → Except String (List String)
  | .dict item => do
    let document ← buildDocumentFailures L B collection path (field "path" item)
    .ok (checkFile L.toPython B path item requirePass ++ document)
  | _ => .ok [s!"{path}: must be an object"]

/-- The failures of the records of one kind. -/
def buildCollectionFailures (build : Fields) (collection : String) : Except String (List String) :=
  match field collection build with
  | .list items => do
    let found ← items.zipIdx.mapM fun p => buildItemFailures L B requirePass collection s!"$.build_evidence.{collection}[{p.2}]" p.1
    .ok found.flatten
  | _ => .ok [s!"$.build_evidence.{collection}: must be a list"]

/-- `validate_build_evidence`. -/
def validateBuildEvidence : Except String (List String) :=
  match field "build_evidence" evidence with
  | .dict build => do
    let status ← checkStatus "$.build_evidence.status" (field "status" build) statusValues
    let found ← ["logs", "warnings", "source_identity"].mapM (buildCollectionFailures L B requirePass build)
    .ok (status ++ found.flatten ++
      failUnless "$.build_evidence.status: must be passed for release-ready evidence"
        (!requirePass || (field "status" build).pyEq (.str "passed")) ++
      failUnless "$.build_evidence: must include build logs, warning classifier evidence, and Buildroot source identity"
        (!requirePass || ["logs", "warnings", "source_identity"].all fun name => (field name build).truthy))
  | _ => .ok ["$.build_evidence: must be an object"]

end Build

/-! ## What runs on a device -/

section Runtime

variable (L : Libraries) (S : Site) (B : Bundle) (requirePass : Bool) (evidence : Fields)

/-- The failures of a runtime check. -/
def runtimeCheckFailures (production required : Bool) (path : String) : Value → Except String (List String)
  | .dict check => do
    let status ← checkStatus s!"{path}.status" (field "status" check) statusValues
    let needed := requirePass && production && required
    .ok (checkBool s!"{path}.required" (field "required" check) ++
      failUnless s!"{path}.required: must match matrix-derived requirement {required}"
        (!isBool (field "required" check) || (field "required" check).isTrue = required) ++ status ++
      checkRelativePath L.toPython B s!"{path}.evidence" (field "evidence" check) needed ++
      failUnless s!"{path}.status: must be passed for release-ready evidence"
        (!needed || (field "status" check).pyEq (.str "passed")))
  | _ => .ok [s!"{path}: must be an object"]

/-- `validate_runtime_checks`. -/
def validateRuntimeChecks (production required : Bool) : Except String (List String) :=
  match field "runtime_checks" evidence with
  | .dict checks => do
    let found ← (members checks).mapM fun p => runtimeCheckFailures L B requirePass production required s!"$.runtime_checks.{p.1}" p.2
    .ok ((S.runtimeRequiredChecks.flatMap fun name =>
      failUnless s!"$.runtime_checks: missing required check: {name}" (lookup name checks).isSome) ++ found.flatten)
  | _ => .ok ["$.runtime_checks: must be an object"]

/-- The scenario that an observation is of. -/
def observationKey (item : Fields) : String × String :=
  ((field "suite_target" item).pyStr L.repr, (field "scenario" item).pyStr L.repr)

/-- The failures of the observations from a place on, after the scenarios before it. -/
def observationsFailuresFrom (seen : List (String × String)) (idx : Nat) : List Value → List String
  | [] => []
  | .dict item :: items =>
    let path := s!"$.runtime_observations[{idx}]"
    checkStrings path ["suite_target", "scenario", "observed_outcome", "source", "schema_version", "suite_path", "suite_sha256"] item ++
      failUnless s!"{path}.schema_version: must be the runtime observation schema"
        ((field "schema_version" item).pyEq (.str (S.contract.schema "runtime_observation"))) ++
      (if (field "suite_sha256" item).asStr.isSome then checkSha256 s!"{path}.suite_sha256" (field "suite_sha256" item) true else []) ++
      failUnless s!"{path}: must be unique per suite_target and scenario" (!seen.contains (observationKey L item)) ++
      observationsFailuresFrom (observationKey L item :: seen) (idx + 1) items
  | _ :: items => s!"$.runtime_observations[{idx}]: must be an object" :: observationsFailuresFrom seen (idx + 1) items

/-- `validate_runtime_observations_section`. -/
def validateRuntimeObservations (production required : Bool) : List String :=
  match field "runtime_observations" evidence with
  | .list items =>
    failUnless "$.runtime_observations: must preserve typed runtime observations"
        (!(requirePass && production && required) || !items.isEmpty) ++
      observationsFailuresFrom L S [] 0 items
  | _ => ["$.runtime_observations: must be a list"]

/-! ## The reports of image scans -/

/-- The name, the digest and the size of a report or of a subject. -/
def identityOf (item : Fields) : List Value := [field "name" item, field "sha256" item, field "bytes" item]

/-- Whether two identities are one. -/
def sameIdentity (a b : List Value) : Bool := (a.zip b).all fun p => p.1.pyEq p.2

/-- The images among the artifacts. -/
def releaseSubjects (artifacts : List Fields) : List (List Value) :=
  (artifacts.filter fun item => (field "role" item).pyEq (.str "release-image") && (field "name" item).asStr.isSome &&
    (field "sha256" item).asStr.isSome && (field "bytes" item).asInt.isSome).map identityOf

/-- The identity of a scanned image. -/
def scannedIdentity (subject : Fields) : List Value :=
  [.str ((field "name" subject).pyStr L.repr), .str ((field "sha256" subject).pyStr L.repr), field "bytes" subject]

/-- The failures of what a report of an image scan says. A size that no set can hold raises. -/
def imageScanDocumentFailures (path : String) (subjects : List (List Value)) : Value → Except String (List String)
  | .dict payload => do
    let schema := failUnless s!"{path}.schema_version: must be the release security report schema"
      ((field "schema_version" payload).pyEq (.str (S.contract.schema "release_security_report")))
    match field "subjects" payload with
    | .list (item :: items) => do
      let images := ((item :: items).filterMap asDict).filter fun subject => (field "role" subject).pyEq (.str "release-image")
      guardError "TypeError" (images.all fun subject => (field "bytes" subject).isHashable)
      .ok (schema ++ failUnless s!"{path}.subjects: must bind a release-image subject name, sha256, and bytes from evidence.artifacts"
        (images.any fun subject => subjects.any (sameIdentity (scannedIdentity L subject))))
    | _ => .ok (schema ++ [s!"{path}.subjects: must include scanned subjects"])
  | _ => .ok [s!"{path}.path: must be scanner-native JSON"]

/-- `validate_release_image_scan_reports`. -/
def validateReleaseImageScanReports (production required : Bool) : Except String (List String) :=
  match field "release_image_scan_reports" evidence with
  | .list items => do
    let needed := requirePass && production && required
    let artifacts ← loopObjects ((lookup "artifacts" evidence).getD (.list []))
    let found ← items.zipIdx.mapM fun p => do
      let path := s!"$.release_image_scan_reports[{p.2}]"
      let document ← (if needed then
        documentFailures L B (field "path" (p.1.asDict.getD [])) [s!"{path}.path: must be scanner-native JSON"]
          (imageScanDocumentFailures L S path (releaseSubjects artifacts)) else .ok [])
      .ok (preservedRefFailures L.toPython B path p.1 requirePass ++ document)
    .ok (failUnless "$.release_image_scan_reports: must include scanner-native release image reports" (!needed || !items.isEmpty) ++
      found.flatten)
  | _ => .ok ["$.release_image_scan_reports: must be a list"]

/-- Whether a report of a scanner is one by its schema. -/
def isScannerNative (v : Value) : Bool :=
  v.asDict.any fun payload => (field "schema_version" payload).pyEq (.str (S.contract.schema "release_security_report"))

/-- `validate_scanner_native_reports_section`. A name, a digest or a size that no set can hold raises. -/
def validateScannerNativeReports (production required : Bool) : Except String (List String) :=
  match field "scanner_native_reports" evidence with
  | .list items => do
    let needed := requirePass && production && required
    let reports ← loopObjects ((lookup "release_image_scan_reports" evidence).getD (.list []))
    guardError "TypeError" ((reports ++ items.filterMap asDict).all fun item => (identityOf item).all isHashable)
    let found ← items.zipIdx.mapM fun p => do
      let path := s!"$.scanner_native_reports[{p.2}]"
      let message := s!"{path}.path: must be scanner-native release security report JSON"
      let document ← (if needed then documentFailures L B (field "path" (p.1.asDict.getD [])) [message]
        fun payload => .ok (failUnless message (isScannerNative S payload)) else .ok [])
      .ok (preservedRefFailures L.toPython B path p.1 requirePass ++
        (p.1.asDict.toList.flatMap fun item => failUnless s!"{path}: must mirror release_image_scan_reports"
          ((reports.map identityOf).any (sameIdentity (identityOf item)))) ++ document)
    .ok (failUnless "$.scanner_native_reports: must preserve scanner-native raw report records" (!needed || !items.isEmpty) ++
      found.flatten)
  | _ => .ok ["$.scanner_native_reports: must be a list"]

end Runtime

end SuderraOs.Evidence.ReleaseEvidence
