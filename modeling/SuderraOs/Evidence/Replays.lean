import SuderraOs.Evidence.Decision
import SuderraOs.Evidence.MachineRecord
import SuderraOs.Evidence.ReleaseInputs
import SuderraOs.Evidence.SecurityReport

/-!
# The sections that are replayed

The sections of an `evidence.json` whose files go through the validators of other scripts: the machine verification, the inputs of the
preflight, the subject graph and what closes it, the bindings of the roles and the retention. An exception of a replay is a failure of
the section.
-/

namespace SuderraOs.Evidence.ReleaseEvidence

open Value OperatorIngress

def machineVerificationChecks : List String := ["sha256sums", "cosign", "attestations"]

/-- What a release evidence asks of Python and of the programs around it. -/
structure Tools extends toIdentity : BuildrootIdentity.Libraries where
  /-- How `json.dumps` writes a double. -/
  float : Double → List Char
  /-- `datetime.fromisoformat`, in microseconds. -/
  microseconds : String → Option Int
  osError : PosixPath → String
  jsonError : List Char → String
  openssl : Option (Option Bytes → Option Bytes → Option Bytes → Option String)

/-- What the script knows beside the evidence. -/
structure Policies extends Site where
  retention : ReleaseInputs.RetentionPolicy
  /-- The rows of `ci/build-matrix.yml`, if it can be read. -/
  defaultMatrix : Except String (List Value)

/-- The failures of a replay at a path. -/
def replayed (path what : String) : Except String (List String) → List String
  | .ok failures => failures.map fun failure => s!"{path}: {failure}"
  | .error message => [s!"{path}: cannot {what}: {message}"]

@[simp] theorem replayed_eq_nil {path what : String} {result : Except String (List String)} :
    replayed path what result = [] ↔ result = .ok [] := by
  cases result <;> simp [replayed]

section Replay

variable (L : Tools) (P : Policies) (B : Bundle) (requirePass : Bool) (now : Int) (evidence : Fields)

/-- The failures of a document that is preserved and, for a release, replayed. -/
def preservedReplay (path what : String) (v : Value) (replay : PosixPath → Except String (List String)) : List String :=
  preservedRefFailures L.toPython B path v requirePass ++
    if requirePass then (preservedFile B v).toList.flatMap fun file => replayed s!"{path}.path" what (replay file.1) else []

/-! ## Machine verification -/

/-- The subjects that a record covers. -/
def recordSubjects (name : String) (payload : Fields) : List Attestation.Subject :=
  (objectsAt (if name = "attestations" then "verified_subjects" else "subjects") payload).filterMap fun subject =>
    (field "name" subject).asStr.bind fun name => (field "sha256" subject).asStr.map fun sha => (name, sha)

/-- The failures of the log of a record against the logs that are preserved. Logs that are no collection raise. -/
def recordLogFailures (path : String) (logs : Value) (payload : Fields) : Except String (List String) :=
  match field "path" (objectAt "log" payload), field "sha256" (objectAt "log" payload) with
  | .str name, .str sha => do
    let names ← SubjectGraph.iterStrings logs
    .ok (match names.filter fun log => (PosixPath.ofString log).name = name with
      | [] => [s!"{path}.record.path: record log path must match preserved logs"]
      | log :: _ => (fileForRelativePath B (.str log)).toList.flatMap fun file =>
        failUnless s!"{path}.record.path: record log sha256 must match preserved log" (L.hexdigest file.2 = sha))
  | _, _ => .ok []

/-- The failures of the material of an attestation. -/
def materialsFailures (path : String) : Value → List String
  | .list (item :: items) => (item :: items).zipIdx.flatMap fun p =>
      preservedRefFailures L.toPython B s!"{path}.materials[{p.2}]" p.1 true
  | _ => [s!"{path}.materials: must preserve raw attestation JSON material"]

/-- The failures of a record that was read. A schema version that no set can hold raises. -/
def recordFailures (name path : String) (check : Fields) : Option Value → Except String (List String)
  | some (.dict payload) => do
    let version := field "schema_version" payload
    let current := version.pyEq (.str MachineRecord.schemaVersion)
    guardError "TypeError" version.isHashable
    let log ← recordLogFailures L B path (field "logs" check) payload
    .ok ((if version.isIn ((MachineRecord.schemaVersion :: MachineRecord.legacySchemaVersions).map .str) then
        failUnless s!"{path}.record.path: release-ready evidence requires {MachineRecord.schemaVersion}" (!requirePass || current)
      else [s!"{path}.record.path: schema_version must be {MachineRecord.schemaVersion}"]) ++
      replayed s!"{path}.record.path" "validate machine verification JSON" (MachineRecord.validateRecord L.toPython payload (some name)) ++
      log ++ if name = "attestations" && requirePass then materialsFailures L B path (field "materials" check) else [])
  | _ => .ok [s!"{path}.record.path: must be machine verification JSON"]

/-- The failures of the record of a check, where its file is there. -/
def recordFileFailures (name path : String) (check : Fields) : Except String (List String) :=
  match preservedFile B (field "record" check) with
  | none => .ok []
  | some file => do
    let payload ← readJson L.toPython B.files file.1
    recordFailures L B requirePass name path check payload

/-- The failures of a check. -/
def machineCheckFailures (name : String) : Value → Except String (List String)
  | .dict check => do
    let path := s!"$.machine_verification.{name}"
    let status ← checkStatus s!"{path}.status" (field "status" check) statusValues
    let record ← recordFileFailures L B requirePass name path check
    .ok (status ++
      (match field "logs" check with
        | .list logs => logs.zipIdx.flatMap fun p => checkRelativePath L.toPython B s!"{path}.logs[{p.2}]" p.1 requirePass
        | _ => [s!"{path}.logs: must be a list"]) ++
      preservedRefFailures L.toPython B s!"{path}.record" (field "record" check) requirePass ++ record ++
      failUnless s!"{path}.status: must be passed for release-ready evidence"
        (!requirePass || (field "status" check).pyEq (.str "passed")) ++
      failUnless s!"{path}.logs: must include machine-verification logs" (!requirePass || (field "logs" check).truthy))
  | _ => .ok [s!"$.machine_verification.{name}: must be an object"]

/-- The subjects that the record of a check covers, if its file is there and its validator does not raise. -/
def coveredSubjects (checks : Fields) (name : String) : List Attestation.Subject :=
  ((preservedFile B (field "record" (objectAt name checks))).map fun file => readJson L.toPython B.files file.1).toList.flatMap fun read =>
    match read with
    | .ok (some (.dict payload)) =>
      if (MachineRecord.validateRecord L.toPython payload (some name)).isOk then recordSubjects name payload else []
    | _ => []

/-- The name and the digest of an artifact. -/
def artifactSubject (artifact : Fields) : Option Attestation.Subject :=
  (field "name" artifact).asStr.bind fun name => (field "sha256" artifact).asStr.map fun sha => (name, sha)

/-- The failures of artifacts that a check does not cover. -/
def coverageFailures (checks : Fields) : List String :=
  ((objectsAt "artifacts" evidence).filterMap artifactSubject).flatMap fun subject =>
    ["cosign", "attestations"].flatMap fun name =>
      failUnless s!"$.machine_verification.{name}.record: must cover artifact subject {subject.1}"
        ((coveredSubjects L B checks name).contains subject)

/-- `validate_machine_verification`. -/
def validateMachineVerification : Except String (List String) :=
  match field "machine_verification" evidence with
  | .dict checks => do
    let found ← (members checks).mapM fun p => machineCheckFailures L B requirePass p.1 p.2
    .ok ((machineVerificationChecks.flatMap fun name =>
        failUnless s!"$.machine_verification: missing required check: {name}" (lookup name checks).isSome) ++ found.flatten ++
      if requirePass then coverageFailures L B evidence checks else [])
  | _ => .ok ["$.machine_verification: must be an object"]

/-! ## The inputs of the preflight -/

/-- The replay of an approval. -/
def approvalReplay (path : PosixPath) : Except String (List String) := do
  let payload ← readJson L.toPython B.files path
  match payload with
  | some (.dict payload) =>
    Approval.validateApprovalPayload L.toLibraries now (.dict payload) (versionText L.toPython evidence) (targetText L.toPython evidence)
      (gitCommit evidence) true
  | _ => .ok ["must be approval JSON"]

/-- What an evidence asks of its reproducibility report. -/
def reproQuery (path : PosixPath) : ReleaseInputs.ReproQuery where
  path := path
  version := some (versionText L.toPython evidence)
  target := some (targetText L.toPython evidence)
  sourceSha := gitCommit evidence
  sourceRunId := (field "run_id" (sourceImageBuildIdentity evidence)).asStr
  checkFiles := true

/-- The failures of a record of raw evidence. -/
def rawEvidenceFailures (path : String) (v : Value) : List String :=
  preservedRefFailures L.toPython B path v requirePass ++
    (v.asDict.toList.flatMap fun item =>
      checkStrings path ["name", "source_path"] item ++
        failUnless s!"{path}.source_path: must be relative and must not contain '..'"
          ((field "source_path" item).asStr.all fun s => !(PosixPath.ofString s).isAbsolute && !(PosixPath.ofString s).hasParent) ++
        ((lookup "report_sha256" item).toList.flatMap fun sha =>
          checkSha256 s!"{path}.report_sha256" sha true ++
            failUnless s!"{path}.report_sha256: must match preserved raw evidence sha256" (sha.pyEq (field "sha256" item))) ++
        ((lookup "report_bytes" item).toList.flatMap fun size =>
          checkPositiveInt s!"{path}.report_bytes" size true ++
            failUnless s!"{path}.report_bytes: must match preserved raw evidence bytes" (size.pyEq (field "bytes" item))) ++
        failUnless s!"{path}: raw security evidence exceeds 10 MiB cap"
          ((preservedFile B v).all fun file => file.2.length ≤ 10 * 1024 * 1024))

/-- The last record of the raw evidence at a path with a digest. -/
def rawBySource (items : List Value) (sourcePath sha : String) : Option Fields :=
  (items.filterMap asDict).reverse.find? fun item =>
    (field "source_path" item).pyEq (.str sourcePath) && (field "sha256" item).pyEq (.str sha)

/-- The failures of a report whose raw evidence is not preserved. -/
def rawLinkFailures (rawItems : List Value) : Option Value → List String
  | some (.dict report) =>
    match field "evidence_path" report, field "evidence_sha256" report with
    | .str sourcePath, .str sha =>
      match rawBySource rawItems sourcePath sha with
      | none => ["must preserve matching raw security evidence"]
      | some raw => failUnless "raw security evidence bytes must match report"
          (!(field "evidence_bytes" report).asInt.isSome || (field "bytes" raw).pyEq (field "evidence_bytes" report))
    | _, _ => []
  | _ => []

/-- What an evidence asks of the report of a scan. -/
def reportQuery (path : PosixPath) (scan : Value) : SecurityReport.Query where
  path := path
  scan := scan.pyStr L.repr
  version := versionText L.toPython evidence
  sourceSha := gitCommit evidence
  sourceRunId := runIdText L.toPython evidence
  checkFiles := B.checkFiles

/-- The replay of the report of a scan. -/
def reportReplay (rawItems : List Value) (scan : Value) (path : PosixPath) : Except String (List String) := do
  let failures ← SecurityReport.validateSecurityReport L.toLibraries L.float B.tree (reportQuery L B evidence path scan)
  let payload ← readJson L.toPython B.files path
  .ok (failures ++ rawLinkFailures rawItems payload)

/-- The failures of the reports of scans. -/
def reportsFailures (inputs : Fields) : List String :=
  ((field "security_reports" inputs).asList.getD []).zipIdx.flatMap fun p =>
    preservedReplay L B requirePass s!"$.preflight_inputs.security_reports[{p.2}]" "validate security report" p.1
      (reportReplay L B evidence ((field "security_raw_evidence" inputs).asList.getD []) (field "name" (p.1.asDict.getD [])))

/-- `validate_preflight_inputs`. -/
def validatePreflightInputs : List String :=
  objectFailures (field "preflight_inputs" evidence) "$.preflight_inputs: must be an object" fun inputs =>
    preservedReplay L B requirePass "$.preflight_inputs.approval" "validate approval JSON" (field "approval" inputs)
        (approvalReplay L B now evidence) ++
      preservedReplay L B requirePass "$.preflight_inputs.reproducibility" "validate reproducibility input" (field "reproducibility" inputs)
        (fun path => ReleaseInputs.validateRepro L.toPython B.files (reproQuery L evidence path)) ++
      failUnless "$.preflight_inputs.security_reports: must be a list" (field "security_reports" inputs).asList.isSome ++
      failUnless "$.preflight_inputs.security_raw_evidence: must be a list" (field "security_raw_evidence" inputs).asList.isSome ++
      (((field "security_raw_evidence" inputs).asList.getD []).zipIdx.flatMap fun p =>
        rawEvidenceFailures L B requirePass s!"$.preflight_inputs.security_raw_evidence[{p.2}]" p.1) ++
      reportsFailures L B requirePass evidence inputs

/-! ## The subject graph -/

/-- `expected_subject_id_for_evidence`. -/
def expectedSubjectId : Except String (Option String) :=
  match (gitCommit evidence).filter (isHex 40),
    (field "run_id" (sourceImageBuildIdentity evidence)).asStr.filter fun id => id ≠ "" ∧ id ≠ "not_collected",
    (field "version" evidence).asStr, (field "target" evidence).asStr with
  | some sha, some runId, some version, some target => do
    let id ← P.contract.releaseSubjectId version target sha runId
    .ok (some id)
  | _, _, _, _ => .ok none

/-- `subject_graph_nodes`. -/
def subjectGraphNodes (payload : Fields) : List Fields :=
  match field "subjects" payload, field "nodes" payload with
  | .list items, _ => items.filterMap asDict
  | _, .list items => items.filterMap asDict
  | _, _ => if (field "subject_id" payload).asStr.isSome then [payload] else []

/-- The digest and the size of something that is preserved, if both are there. -/
def refIdentity (ref : Fields) : Option (String × Int) :=
  ((field "sha256" ref).asStr.filter (isHex 64)).bind fun sha => ((field "bytes" ref).asInt.filter (0 < ·)).map fun size => (sha, size)

/-- What an evidence preserves of a role: its digest and its size. -/
def graphRef (role : String) (v : Value) : List (String × String × Int) := ((v.asDict.bind refIdentity).map fun ref => (role, ref)).toList

/-- `final_evidence_graph_refs`. -/
def finalEvidenceGraphRefs : List (String × String × Int) :=
  let preflight := objectAt "preflight_inputs" evidence
  let each := fun (role : String) (items : List Fields) => items.flatMap fun item => graphRef role (.dict item)
  graphRef "release-input-binding" (field "release_input" preflight) ++ graphRef "reproducibility" (field "reproducibility" preflight) ++
    graphRef "retention-manifest" (field "retention_manifest" evidence) ++
    graphRef "governance-role-bindings" (field "governance_role_bindings" evidence) ++
    each "compressed-release-artifact" (objectsAt "artifacts" evidence) ++
    each "signing-manifest" (objectsAt "signing_manifests" evidence) ++ each "hardware-subject" (objectsAt "hardware_subjects" evidence) ++
    each "ota-artifacts" (objectsAt "ota_artifacts" evidence) ++
    each "runtime-suite" (objectsAt "production_suites" (objectAt "runtime_qemu" evidence)) ++
    each "scanner-native-report" (objectsAt "scanner_native_reports" evidence) ++
    each "scanner-native-report" (objectsAt "release_image_scan_reports" evidence) ++
    graphRef "station-registry" (field "station_registry" (objectAt "hardware" evidence)) ++
    graphRef "governance-snapshot" (field "policy_validation" (objectAt "checks" (objectAt "governance" evidence)))

/-- Whether an evidence needs nothing for a required node: raw images are not preserved, and an artifact has the digest. -/
def isExempt (node : Fields) : Bool :=
  (field "role" node).pyEq (.str "raw-image") ||
    ((field "role" node).pyEq (.str "compressed-release-artifact") &&
      (field "sha256" node).asStr.any (evidenceArtifactSha256s evidence).contains)

/-- The failures of a required node: the first that is found. -/
def closureNodeFailures (idx : Nat) (node : Fields) : List String :=
  let path := s!"$.subject_graph.evidence_nodes[{idx}]"
  if isExempt evidence node then []
  else if !isNonEmptyString (field "role" node) then [s!"{path}.role: must be a non-placeholder string"]
  else if !isDigest (field "sha256" node) then [s!"{path}.sha256: must be preserved for final closure"]
  else if !SubjectGraph.isSize (field "bytes" node) then [s!"{path}.bytes: must be preserved for final closure"]
  else failUnless (s!"{path}: required graph node is not preserved in final evidence: " ++ (field "role" node).pyStr L.repr ++ " " ++
      (field "path" node).pyStr L.repr)
    ((finalEvidenceGraphRefs evidence).any fun ref => (field "role" node).pyEq (.str ref.1) && (field "sha256" node).pyEq (.str ref.2.1) &&
      (field "bytes" node).pyEq (.int ref.2.2))

/-- `graph_required_evidence_nodes`. -/
def graphRequiredEvidenceNodes (graph : Fields) (subjectId : String) : List Fields :=
  (objectsAt "evidence_nodes" graph).filter fun item => (field "required" item).isTrue && (field "subject_id" item).pyEq (.str subjectId)

/-- `validate_subject_graph_closure`. A role that no set can hold raises. -/
def validateSubjectGraphClosure (graph node : Fields) : Except String (List String) :=
  match field "subject_id" node with
  | .str subjectId => do
    let nodes := graphRequiredEvidenceNodes graph subjectId
    guardError "TypeError" (nodes.all fun node => (field "role" node).isHashable)
    .ok (failUnless "$.subject_graph.evidence_nodes: must include required evidence closure nodes" (!nodes.isEmpty) ++
      nodes.zipIdx.flatMap fun p => closureNodeFailures L evidence p.2 p.1)
  | _ => .ok ["$.subject_graph.subject_id: must be present for closure validation"]

/-- The binding that an evidence preserves, if it can be read. -/
def preservedBinding : Except String (Option Fields) :=
  match preservedFile B (field "release_input" (objectAt "preflight_inputs" evidence)) with
  | none => .ok none
  | some file => do
    let payload ← readJson L.toPython B.files file.1
    .ok (payload.bind asDict)

/-- The query with which the graph of an evidence is replayed. -/
def closureQuery (path : PosixPath) (profile : String) (matrix : List Value) (binding : Fields) : SubjectGraph.Query where
  path := path
  version := versionText L.toPython evidence
  profile := profile
  sourceSha := gitCommit evidence
  sourceRunId := runIdText L.toPython evidence
  matrix := matrix
  binding := some binding
  root := none
  checkFiles := false

/-- The profile of a graph: that of the binding, or else its own. -/
def closureProfile (graph binding : Fields) : Option String :=
  ((field "profile" binding).asStr.or (field "profile" graph).asStr).filter (· ≠ "")

/-- The failures of the replay of a graph. -/
def closureReplay (path : PosixPath) (graph : Fields) : List String :=
  match (do
    let matrix ← P.defaultMatrix
    let binding ← preservedBinding L B evidence
    .ok (matrix, binding) : Except String (List Value × Option Fields)) with
  | .error message => [s!"$.subject_graph.path: cannot replay subject graph validation: {message}"]
  | .ok (_, none) => ["$.preflight_inputs.release_input: must preserve release input binding for subject graph replay"]
  | .ok (matrix, some binding) =>
    match closureProfile graph binding with
    | none => ["$.subject_graph.profile: must identify the release input profile"]
    | some profile => replayed "$.subject_graph.path" "replay subject graph validation"
        (SubjectGraph.validateSubjectGraph L.toPython P.contract B.files (closureQuery L evidence path profile matrix binding))

/-- The failures of the node of the target. A digest that no set can hold raises. -/
def graphNodeFailures (closure : Bool) (path : PosixPath) (graph node : Fields) : Except String (List String) := do
  let digests := evidenceArtifactSha256s evidence
  let compressed := (SubjectGraph.compressedArtifact node).1
  let expected ← expectedSubjectId P evidence
  guardError "TypeError" (digests.isEmpty || compressed.isHashable)
  let closed ← (if closure then validateSubjectGraphClosure L evidence graph node else .ok [])
  .ok (expectText "$.subject_graph.subject_id: must match canonical release subject id" (field "subject_id" node) expected ++
    failUnless "$.subject_graph.compressed_artifact_sha256: must bind an evidence artifact digest"
      (digests.isEmpty || compressed.isIn (digests.map .str)) ++
    (if closure then closureReplay L P B evidence path graph else []) ++ closed)

/-- The failures of a graph. A version that no set can hold raises. -/
def graphDocumentFailures (closure : Bool) (path : PosixPath) : Option Value → Except String (List String)
  | some (.dict graph) => do
    let schema := P.contract.schema "release_subject_graph"
    let target := textField L.toPython "target" evidence
    guardError "TypeError" ((field "version" graph).isHashable && (field "version" evidence).isHashable)
    let node ← ((subjectGraphNodes graph).find? fun node => (field "target" node).pyEq (.str target)).elim
      (.ok [s!"$.subject_graph.nodes: must include target {target}"]) (graphNodeFailures L P B evidence closure path graph)
    .ok (failUnless s!"$.subject_graph.schema_version: must be {schema}" ((field "schema_version" graph).pyEq (.str schema)) ++
      failUnless "$.subject_graph.version: must match evidence.version" ((field "version" graph).isIn [.null, field "version" evidence]) ++
      node)
  | _ => .ok ["$.subject_graph.path: must be release subject graph JSON"]

/-- `validate_subject_graph_section`. -/
def validateSubjectGraphSection (closure : Bool) : Except String (List String) := do
  let found ← ((preservedFile B (field "subject_graph" evidence)).filter fun _ => requirePass).elim (.ok []) fun file => do
    let payload ← readJson L.toPython B.files file.1
    graphDocumentFailures L P B evidence closure file.1 payload
  .ok (preservedRefFailures L.toPython B "$.subject_graph" (field "subject_graph" evidence) requirePass ++ found)

/-! ## Roles and retention -/

/-- `validate_governance_role_bindings_section`. -/
def validateGovernanceRoleBindingsSection : List String :=
  preservedReplay L B requirePass "$.governance_role_bindings" "replay governance role binding validation"
    (field "governance_role_bindings" evidence) fun path =>
      ReleaseInputs.validateGovernanceRoleBindings L.toLibraries P.contract B.files path (versionText L.toPython evidence)

/-- `validate_retention_manifest_section`. -/
def validateRetentionManifestSection : List String :=
  preservedReplay L B requirePass "$.retention_manifest" "replay retention manifest validation" (field "retention_manifest" evidence)
    fun path => ReleaseInputs.validateRetentionManifest L.toLibraries P.contract B.files path P.retention now
      (versionText L.toPython evidence) (gitCommit evidence) (runIdText L.toPython evidence)

end Replay

end SuderraOs.Evidence.ReleaseEvidence
