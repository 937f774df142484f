import Mathlib.Data.List.Dedup
import SuderraOs.Evidence.Common

/-!
# The evidence contract

`evidence_contract.py` and the contract it loads from `ci/evidence-contract.yml`: what `validate_contract` lets through is a record
with these fields. A template of `str.format` is the list of its parts.
-/

namespace SuderraOs.Evidence

open Value

/-- A part of a template: a text, or a field in braces. -/
inductive Part where
  | text (s : String)
  | field (name : String)
  deriving DecidableEq, Repr

abbrev Template := List Part

/-- `template.format(**args)`. -/
def Template.format (args : List (String × String)) (template : Template) : Except String String := do
  let parts ← template.mapM fun part =>
    match part with
    | .text s => .ok s
    | .field name => orError "KeyError" (args.lookup name)
  .ok (String.join parts)

structure ProfilePolicy where
  productionCandidate : Bool
  prereleaseOnly : Bool
  releaseAuthorizing : Bool
  publicationAllowed : Bool
  strictArtifactBinding : Bool
  subjectGraphRequired : Bool
  gapReportRequired : Bool
  operatorIngressRequired : Bool
  requiredOutputTrees : List String
  deriving DecidableEq, Repr

structure OutputTree where
  pathTemplate : Template
  schemaRole : String
  requiredByDefault : Bool
  promotable : Bool
  operatorIngressAllowed : Bool
  releaseTagAllowed : Bool
  dryRunInputAllowed : Bool
  gitignoreRequired : Bool
  deriving DecidableEq, Repr

structure TargetPolicy where
  hardwareRequired : Bool
  otaCapable : Bool
  productionGate : Bool
  releaseImageScanRequired : Bool
  releasePublic : Bool
  runtimeRequired : Bool
  signingRequired : Bool
  deriving DecidableEq, Repr

/-- Whether a release of the target needs its evidence: `production_gate` or `release_public`. -/
def TargetPolicy.governed (policy : TargetPolicy) : Bool := policy.productionGate || policy.releasePublic

/-- The schemas that `validate_contract` asks for. -/
def requiredSchemas : List String :=
  ["hsm_signing_session", "lab_evidence", "machine_verification", "hardware_subject", "ota_artifacts", "ota_target_contract",
    "production_runtime_suite", "release_evidence", "release_security_report", "release_subject_graph", "retention_manifest",
    "runtime_observation", "signing_manifest", "governance_role_bindings", "station_acquisition"]

structure Contract where
  schemaVersions : List (String × String)
  schemas_present : ∀ name ∈ requiredSchemas, (schemaVersions.lookup name).isSome = true
  profiles : List (String × ProfilePolicy)
  /-- The profile of production releases is one, and binds its artifacts. -/
  production_profile : ∃ policy, profiles.lookup "production-candidate" = some policy ∧ policy.productionCandidate = true ∧
    policy.strictArtifactBinding = true
  outputTrees : List (String × OutputTree)
  /-- The root of a tree is a name, and no path. -/
  roots_named : ∀ p ∈ outputTrees, IsName p.1
  roots_nodup : (outputTrees.map (·.1)).Nodup
  subjectIdTemplate : Template
  requiredSubjectExports : List (String × Template)
  suiteTargets : List (String × List String)
  signedArtifactRoles : List String
  retentionPolicyId : String
  retentionRequiredExports : List String
  targets : List (String × TargetPolicy)

namespace Contract

variable (C : Contract)

/-- `schema_version`. -/
def schemaVersion (name : String) : Except String String := orError "KeyError" (C.schemaVersions.lookup name)

/-- The version of a schema that the contract has. -/
def schema (name : String) : String := (C.schemaVersions.lookup name).getD ""

/-- `profile_policy`. -/
def profilePolicy (profile : String) : Except String ProfilePolicy :=
  orError s!"profile '{profile}' is missing from ci/evidence-contract.yml" (C.profiles.lookup profile)

/-- `target_policy`. -/
def targetPolicy (target : String) : Option TargetPolicy := C.targets.lookup target

/-- `release_subject_id`. -/
def releaseSubjectId (version target sourceSha sourceRunId : String) : Except String String :=
  C.subjectIdTemplate.format
    [("version", version), ("target", target), ("source_sha", sourceSha), ("source_run_id", sourceRunId)]

end Contract

/-- `sorted` of a list of names. -/
def sortNames (names : List String) : List String := names.insertionSort fun a b => nameLe a b = true

theorem mem_sortNames {names : List String} {name : String} : name ∈ sortNames names ↔ name ∈ names := List.mem_insertionSort _

/-- `sorted(a - b)` of two sets of names. -/
def sortedDiff (a b : List String) : List String := sortNames (a.dedup.filter fun name => !b.contains name)

theorem mem_sortedDiff {a b : List String} {name : String} : name ∈ sortedDiff a b ↔ name ∈ a ∧ name ∉ b := by
  rw [sortedDiff, mem_sortNames, List.mem_filter, List.mem_dedup]
  simp

theorem sortedDiff_eq_nil {a b : List String} : sortedDiff a b = [] ↔ ∀ name ∈ a, name ∈ b := by
  simp only [List.eq_nil_iff_forall_not_mem, mem_sortedDiff, not_and, not_not]

/-! ## Output trees -/

namespace Contract

variable (C : Contract)

/-- The roots of the trees that a condition holds of, in their order. -/
def treesWhere (p : OutputTree → Bool) : List String := sortNames ((C.outputTrees.filter fun tree => p tree.2).map (·.1))

/-- `output_tree_roots`. -/
def outputTreeRoots : List String := C.treesWhere fun _ => true

/-- `operator_ingress_allowed_roots`. -/
def operatorIngressAllowedRoots : List String := C.treesWhere OutputTree.operatorIngressAllowed

/-- `required_output_roots`. -/
def requiredOutputRoots (profile : String) : Except String (List String) := do
  let policy ← C.profilePolicy profile
  .ok (sortNames (C.treesWhere OutputTree.requiredByDefault ++ policy.requiredOutputTrees).dedup)

/-- `preflight_input_roots`. -/
def preflightInputRoots (profile : String) : Except String (List String) := do
  let required ← C.requiredOutputRoots profile
  let more :=
    if profile = "rc-evidence-dry-run" then C.treesWhere OutputTree.dryRunInputAllowed
    else C.treesWhere fun tree => tree.operatorIngressAllowed || tree.requiredByDefault
  .ok (sortNames ((required.filter fun root => root ≠ "build-artifacts") ++ more).dedup)

theorem nodup_treesWhere (p : OutputTree → Bool) : (C.treesWhere p).Nodup := by
  rw [treesWhere, sortNames, (List.perm_insertionSort _ _).nodup_iff]
  exact C.roots_nodup.sublist (List.filter_sublist.map _)

theorem mem_treesWhere {p : OutputTree → Bool} {root : String} :
    root ∈ C.treesWhere p ↔ ∃ tree, (root, tree) ∈ C.outputTrees ∧ p tree = true := by
  simp [treesWhere, mem_sortNames]

end Contract

/-! ## What the operator supplies -/

/-- The parts of `ci/build-matrix.yml` that the scripts read. -/
structure Matrix where
  defconfigs : List Value
  securityScans : List Value

/-- `_release_rows`. -/
def releaseRows (M : Matrix) : List Fields := (M.defconfigs.filterMap asDict).filter fun row => (field "release" row).isTrue

/-- `row.get(name, "")` as a text. -/
def textField (Γ : Python) (name : String) (row : Fields) : String := ((lookup name row).getD (.str "")).pyStr Γ.repr

theorem textField_eq {Γ : Python} {name s : String} {fields : Fields} (h : field name fields = .str s) : textField Γ name fields = s := by
  unfold field at h
  unfold textField
  cases hlookup : lookup name fields with
  | none => simp [hlookup] at h
  | some v =>
    rw [hlookup, Option.getD_some] at h
    rw [h]
    rfl

/-- Whether a row makes its target one that hardware must accept. -/
def needsHardware (Γ : Python) (row : Fields) : Bool :=
  (field "production_required" row).truthy || Text.contains "hardware".toList (textField Γ "acceptance" row).toList

/-- `_release_targets_requiring_hardware`. -/
def releaseTargetsRequiringHardware (Γ : Python) (M : Matrix) : List String :=
  ((releaseRows M).filter (needsHardware Γ)).map (textField Γ "target")

/-- Whether a version is one of a production release. -/
def isProductionVersion (version : String) : Bool := !version.toList.contains '-'

/-- One path, if there is a reason for it. -/
def pathIf (reason : Bool) (path : String) : List String := if reason then [path] else []

/-- The paths that a release row asks for. -/
def operatorRowPaths (Γ : Python) (C : Contract) (M : Matrix) (version : String) (row : Fields) : Except String (List String) := do
  let targetValue ← orError "KeyError" (lookup "target" row)
  let target := targetValue.pyStr Γ.repr
  let policy := C.targetPolicy target
  let production := isProductionVersion version
  .ok (pathIf (field "qemu_test" row).truthy s!"release-lab-input/{version}/{target}/qemu.json" ++
    pathIf ((releaseTargetsRequiringHardware Γ M).contains target) s!"release-lab-input/{version}/{target}/lab.json" ++
    pathIf (production && policy.any (·.hardwareRequired)) s!"release-lab-input/{version}/{target}/hardware-subject.json" ++
    pathIf (production && policy.any (·.hardwareRequired)) s!"release-lab-input/{version}/{target}/station-acquisition.json" ++
    pathIf (production && policy.any (·.signingRequired)) s!"release-signing/{version}/{target}/signing-manifest.json" ++
    [s!"release-approvals/{version}/{target}.json", s!"release-reproducibility/{version}/{target}.json"])

/-- The paths that a target which is not public asks for. -/
def operatorTargetPaths (version : String) (p : String × TargetPolicy) : List String :=
  if p.2.releasePublic then []
  else
    pathIf p.2.runtimeRequired s!"release-runtime/{version}/{p.1}/production-runtime.json" ++
      pathIf p.2.signingRequired s!"release-signing/{version}/{p.1}/signing-manifest.json" ++
      pathIf p.2.otaCapable s!"release-ota/{version}/{p.1}/ota-artifacts.json"

/-- `operator_required_evidence_paths`: a set, in no order. -/
def operatorRequiredEvidencePaths (Γ : Python) (C : Contract) (version : String) (M : Matrix) : Except String (List String) := do
  let rows ← (releaseRows M).mapM (operatorRowPaths Γ C M version)
  let production := isProductionVersion version
  .ok ([s!"release-governance/{version}/audit-log.json", s!"release-governance/{version}/station-registry.json"] ++
    (if production then
      [s!"release-governance/{version}/role-bindings.json", s!"release-retention/{version}/retention-manifest.json"] ++
        M.securityScans.map fun scan => s!"release-security/{version}/{scan.pyStr Γ.repr}.json"
    else []) ++
    rows.flatten ++ if production then C.targets.flatMap (operatorTargetPaths version) else [])

/-! ## Paths and placeholders -/

/-- `is_placeholder`, for the words of a script. -/
def isPlaceholder (words : List String) : Value → Bool
  | .str s => words.contains (String.ofList (PyText.strip s.toList))
  | _ => false

/-- Whether a text is blank: `not value.strip()`. -/
def isBlank (s : String) : Bool := (PyText.strip s.toList).isEmpty

/-- `_safe_relative_path` of `validate-release-inputs.py`. -/
def safeRelativePath : Value → Option PosixPath
  | .str s =>
    let rel := PosixPath.ofString s
    if isBlank s || rel.isAbsolute || rel.hasParent then none else some rel
  | _ => none

/-! ## The plan of a subject -/

/-- `_matrix_row_for_target`. -/
def matrixRowForTarget (matrix : List Value) (target : String) : Except String Fields :=
  orError s!"target '{target}' is missing from ci/build-matrix.yml"
    ((matrix.filterMap asDict).find? fun row => (field "target" row).pyEq (.str target))

/-- `_format_subject_export`: the scan stays open. -/
def formatSubjectExport (template : Template) (version target profile : String) : Except String String :=
  template.format [("version", version), ("target", target), ("profile", profile), ("scan", "\x7bscan\x7d")]

/-- A node of evidence in a plan. -/
structure EvidenceNode where
  nodeId : String
  subjectId : String
  target : String
  role : String
  path : String
  schemaRole : String
  schemaVersion : String
  required : Bool
  producer : String
  deriving DecidableEq, Repr

/-- An edge from a subject to a node of evidence. -/
structure EvidenceEdge where
  source : String
  target : String
  relationship : String
  role : String
  deriving DecidableEq, Repr

/-- An artifact of a subject: its measures are known for a profile that binds the artifacts. -/
structure PlannedArtifact where
  role : String
  name : Value
  sha256 : Option String
  bytes : Option Int

/-- The plan of a subject, without its copy of the OTA contract of the target. -/
structure SubjectPlan where
  schemaVersion : String
  subjectId : String
  version : String
  profile : String
  target : String
  defconfig : Value
  sourceSha : String
  sourceRunId : String
  artifact : Value
  releaseArtifact : Value
  releasePublic : Bool
  productionRequired : Bool
  productionReady : Bool
  rawImage : PlannedArtifact
  compressedReleaseArtifact : PlannedArtifact
  requiredEvidence : List (String × String)
  evidenceNodes : List EvidenceNode
  evidenceEdges : List EvidenceEdge
  retentionPolicyId : String
  retentionRequiredExports : List String
  targetPolicy : TargetPolicy
  runtimeSuiteTargets : List String
  signingRoles : List String

def exportSchemaRoles : List (String × String) :=
  [("release-inputs", "binding_manifest"), ("release-subject-graph", "release_subject_graph"),
    ("release-runtime", "production_runtime_suite"), ("release-signing", "signing_manifest"),
    ("release-lab-input", "hardware_subject"), ("release-security", "release_security_report"),
    ("release-governance", "governance_role_bindings"), ("release-retention", "retention_manifest"),
    ("release-ota", "ota_artifacts")]

/-- The schema versions of the exports; the contract has one for each but the binding. -/
def exportSchemaVersions (C : Contract) : Except String (List (String × String)) :=
  exportSchemaRoles.mapM fun p =>
    if p.1 = "release-inputs" then .ok (p.1, "suderra.release-input-binding.v2")
    else do
      let version ← C.schemaVersion p.2
      .ok (p.1, version)

/-- Whether the plan of a target marks the export of a name as required. -/
def TargetPolicy.requires (policy : TargetPolicy) (name : String) : Bool :=
  match name with
  | "release-inputs" => true
  | "release-subject-graph" => true
  | "release-runtime" => policy.runtimeRequired
  | "release-signing" => policy.signingRequired
  | "release-lab-input" => policy.hardwareRequired
  | "release-security" => policy.releaseImageScanRequired
  | "release-governance" => policy.productionGate
  | "release-retention" => policy.productionGate
  | "release-ota" => policy.otaCapable
  | _ => false

/-- The node of an export, by its name and its path. -/
def plannedNode (policy : TargetPolicy) (subjectId target : String) (versions : List (String × String)) (p : String × String) :
    EvidenceNode where
  nodeId := s!"{subjectId}:{p.1}"
  subjectId := subjectId
  target := target
  role := p.1
  path := p.2
  schemaRole := (exportSchemaRoles.lookup p.1).getD p.1
  schemaVersion := (versions.lookup p.1).getD "unknown"
  required := policy.requires p.1
  producer := "ci/evidence-contract.yml"

def EvidenceNode.edge (node : EvidenceNode) : EvidenceEdge where
  source := node.subjectId
  target := node.nodeId
  relationship := if node.required then "requires" else "observes"
  role := node.role

/-- The four measures of the artifacts of a subject. -/
structure Measures where
  rawImageSha256 : Option String
  rawImageBytes : Option Int
  compressedArtifactSha256 : Option String
  compressedArtifactBytes : Option Int

/-- A profile that binds its artifacts needs every measure. -/
def Measures.check (m : Measures) (strict : Bool) (profile : String) : Except String Unit := do
  guardError s!"--raw-image-sha256 is required for {profile}" (!strict || m.rawImageSha256.isSome)
  guardError s!"--raw-image-bytes is required for {profile}" (!strict || m.rawImageBytes.isSome)
  guardError s!"--compressed-artifact-sha256 is required for {profile}" (!strict || m.compressedArtifactSha256.isSome)
  guardError s!"--compressed-artifact-bytes is required for {profile}" (!strict || m.compressedArtifactBytes.isSome)

/-- `subject_plan`. -/
def subjectPlan (C : Contract) (version profile target sourceSha sourceRunId : String) (matrix : List Value) (m : Measures) :
    Except String SubjectPlan := do
  let profileObj ← C.profilePolicy profile
  m.check (profileObj.productionCandidate || profileObj.strictArtifactBinding) profile
  let row ← matrixRowForTarget matrix target
  let policy ← orError s!"target '{target}' is missing from ci/evidence-contract.yml" (C.targetPolicy target)
  let subjectId ← C.releaseSubjectId version target sourceSha sourceRunId
  let exports ← C.requiredSubjectExports.mapM fun p => do
    let path ← formatSubjectExport p.2 version target profile
    .ok (p.1, path)
  let versions ← exportSchemaVersions C
  let graphVersion ← C.schemaVersion "release_subject_graph"
  let nodes := (exports.insertionSort fun p q => nameLe p.1 q.1 = true).map (plannedNode policy subjectId target versions)
  .ok {
    schemaVersion := graphVersion
    subjectId := subjectId
    version := version
    profile := profile
    target := target
    defconfig := field "name" row
    sourceSha := sourceSha
    sourceRunId := sourceRunId
    artifact := field "artifact" row
    releaseArtifact := field "release_artifact" row
    releasePublic := (field "release" row).truthy
    productionRequired := (field "production_required" row).truthy
    productionReady := (field "production_ready" row).truthy
    rawImage := ⟨"raw-image", field "artifact" row, m.rawImageSha256, m.rawImageBytes⟩
    compressedReleaseArtifact := ⟨"compressed-release-artifact", field "release_artifact" row, m.compressedArtifactSha256,
      m.compressedArtifactBytes⟩
    requiredEvidence := exports
    evidenceNodes := nodes
    evidenceEdges := nodes.map EvidenceNode.edge
    retentionPolicyId := C.retentionPolicyId
    retentionRequiredExports := C.retentionRequiredExports
    targetPolicy := policy
    runtimeSuiteTargets := (C.suiteTargets.lookup target).getD []
    signingRoles := if policy.signingRequired then sortNames C.signedArtifactRoles.dedup else []
  }

/-! ## The contract of the repository -/

/-- The schema versions of `ci/evidence-contract.yml`. -/
def schemaVersionTable : List (String × String) :=
  [("hsm_signing_session", "suderra.hsm-signing-session.v2"), ("lab_evidence", "suderra.lab-evidence.v3"),
    ("machine_verification", "suderra.machine-verification.v3"), ("hardware_subject", "suderra.hardware-subject.v1"),
    ("ota_artifacts", "suderra.ota-artifacts.v1"), ("ota_target_contract", "suderra.ota-target-contract.v1"),
    ("production_runtime_suite", "suderra.qemu-production-runtime-suite.v2"),
    ("release_evidence", "suderra.release-evidence.v6"), ("release_security_report", "suderra.release-security-report.v2"),
    ("release_subject_graph", "suderra.release-subject-graph.v1"), ("retention_manifest", "suderra.retention-manifest.v1"),
    ("runtime_observation", "suderra.runtime-observation.v1"), ("signing_manifest", "suderra.signing-manifest.v2"),
    ("governance_role_bindings", "suderra.governance-role-bindings.v1"),
    ("station_acquisition", "suderra.station-acquisition.v2")]

/-- Its profiles. -/
def profileTable : List (String × ProfilePolicy) :=
  [("ci", ⟨false, false, false, false, false, false, false, false, []⟩),
    ("dev", ⟨false, false, false, false, false, false, false, false, []⟩),
    ("ga", ⟨true, false, true, true, true, true, false, true, ["release-subject-graph"]⟩),
    ("technical-dry-run", ⟨false, false, false, false, false, false, false, false, []⟩),
    ("rc-evidence-dry-run", ⟨false, true, false, false, true, true, true, false, ["release-subject-graph", "release-dry-run"]⟩),
    ("release-candidate", ⟨false, true, true, true, false, true, false, true, ["release-subject-graph"]⟩),
    ("production-candidate", ⟨true, false, true, true, true, true, false, true, ["release-subject-graph"]⟩)]

/-- The template of a directory for each version. -/
def inVersion (root : String) : Template := [.text (root ++ "/"), .field "version"]

/-- Its output trees. -/
def outputTreeTable : List (String × OutputTree) :=
  [("build-artifacts", ⟨[.text "build-artifacts"], "image_build_artifacts", true, true, false, true, false, false⟩),
    ("release-inputs", ⟨inVersion "release-inputs", "release_input_binding", true, true, false, true, true, false⟩),
    ("release-ingress", ⟨inVersion "release-ingress", "release_ingress", true, true, false, true, true, true⟩),
    ("release-subject-graph", ⟨inVersion "release-subject-graph", "release_subject_graph", false, true, false, true, true, true⟩),
    ("release-dry-run", ⟨inVersion "release-dry-run", "rc_evidence_dry_run", false, false, false, false, true, true⟩),
    ("release-lab-input", ⟨inVersion "release-lab-input", "lab_input", false, true, true, true, false, true⟩),
    ("release-governance", ⟨inVersion "release-governance", "governance_snapshot", false, true, true, true, true, true⟩),
    ("release-runtime", ⟨inVersion "release-runtime", "production_runtime", false, true, true, true, false, true⟩),
    ("release-signing", ⟨inVersion "release-signing", "signing_evidence", false, true, true, true, false, true⟩),
    ("release-retention", ⟨inVersion "release-retention", "retention_evidence", false, true, true, true, false, true⟩),
    ("release-ota", ⟨inVersion "release-ota", "ota_evidence", false, true, true, true, false, true⟩),
    ("release-approvals", ⟨inVersion "release-approvals", "release_approval", false, true, true, true, false, true⟩),
    ("release-security", ⟨inVersion "release-security", "security_evidence", false, true, true, true, true, true⟩),
    ("release-reproducibility", ⟨inVersion "release-reproducibility", "reproducibility_evidence", false, true, true, true, false, true⟩)]

/-- Its target policies. -/
def targetTable : List (String × TargetPolicy) :=
  [("pi-cm4-revpi-usb-installer", ⟨true, false, true, true, true, false, true⟩),
    ("qemu-x86_64-prod-ab", ⟨false, true, true, true, false, true, true⟩),
    ("qemu-x86_64", ⟨false, false, false, false, true, false, false⟩),
    ("revpi4", ⟨true, false, true, true, true, false, true⟩),
    ("rpi4", ⟨true, false, true, true, true, false, true⟩),
    ("rpi4-prod-ab", ⟨true, true, true, true, false, false, true⟩),
    ("revpi4-prod-ab", ⟨true, true, true, true, false, false, true⟩),
    ("x86_64", ⟨true, true, true, true, false, true, true⟩)]

/-- `load_contract()`: the contract that the scripts of the repository load. -/
def evidenceContract : Contract where
  schemaVersions := schemaVersionTable
  schemas_present := by decide
  profiles := profileTable
  production_profile := ⟨_, rfl, rfl, rfl⟩
  outputTrees := outputTreeTable
  roots_named := by decide
  roots_nodup := by decide
  subjectIdTemplate :=
    [.text "suderra-release:", .field "version", .text ":", .field "target", .text ":", .field "source_sha", .text ":",
      .field "source_run_id"]
  requiredSubjectExports :=
    [("release-inputs", [.text "release-inputs/", .field "version", .text "/", .field "profile", .text ".json"]),
      ("release-subject-graph", [.text "release-subject-graph/", .field "version", .text "/release-subject-graph.json"]),
      ("release-runtime", [.text "release-runtime/", .field "version", .text "/", .field "target", .text "/production-runtime.json"]),
      ("release-signing", [.text "release-signing/", .field "version", .text "/", .field "target", .text "/signing-manifest.json"]),
      ("release-lab-input",
        [.text "release-lab-input/", .field "version", .text "/", .field "target", .text "/hardware-subject.json"]),
      ("release-security", [.text "release-security/", .field "version", .text "/", .field "scan", .text ".json"]),
      ("release-governance", [.text "release-governance/", .field "version", .text "/role-bindings.json"]),
      ("release-retention", [.text "release-retention/", .field "version", .text "/retention-manifest.json"]),
      ("release-ota", [.text "release-ota/", .field "version", .text "/", .field "target", .text "/ota-artifacts.json"])]
  suiteTargets := [("pi-cm4-revpi-usb-installer", []), ("qemu-x86_64", []), ("qemu-x86_64-prod-ab", ["qemu-x86_64-prod-ab"]),
    ("revpi4", []), ("rpi4", []), ("x86_64", ["qemu-x86_64-prod-ab"])]
  signedArtifactRoles := ["rauc-bundle", "release-artifact", "release-image", "os-update-manifest"]
  retentionPolicyId := "suderra-enterprise-7y-immutable-evidence"
  retentionRequiredExports := ["release-inputs", "release-subject-graph", "release-runtime", "release-signing",
    "release-lab-input", "release-governance", "release-reproducibility", "release-security", "release-retention",
    "release-ota"]
  targets := targetTable

/-- A row of `ci/build-matrix.yml`: the fields that the scripts read. -/
def matrixRow (name target artifact releaseArtifact acceptance : String) (qemuTest release productionRequired : Bool) : Value :=
  .dict [("name", .str name), ("target", .str target), ("artifact", .str artifact), ("release_artifact", .str releaseArtifact),
    ("qemu_test", .bool qemuTest), ("release", .bool release), ("production_required", .bool productionRequired),
    ("production_ready", .bool false), ("acceptance", .str acceptance)]

/-- `ci/build-matrix.yml`. -/
def buildMatrix : Matrix where
  defconfigs :=
    [matrixRow "suderra_qemu_x86_64_defconfig" "qemu-x86_64" "disk.img" "suderra-qemu-x86_64.img.xz"
        "qemu-system-x86_64-ovmf" true true false,
      matrixRow "suderra_x86_64_defconfig" "x86_64" "disk.img" "suderra-x86_64-target.img.xz"
        "hardware-lab" false false true,
      matrixRow "suderra_qemu_x86_64_prod_ab_defconfig" "qemu-x86_64-prod-ab" "disk.img" "suderra-qemu-x86_64-prod-ab.img.xz"
        "qemu-system-x86_64-production-runtime-blocked" false false true,
      matrixRow "suderra_aarch64_defconfig" "generic-aarch64-template" "disk.img" "suderra-aarch64-target.img.xz"
        "none" false false false,
      matrixRow "suderra_aarch64_rpi4_defconfig" "rpi4" "suderra-rpi4-target.img" "suderra-rpi4-target.img.xz"
        "pi4-cm4-hardware-lab" false true true,
      matrixRow "suderra_aarch64_rpi4_usb_installer_defconfig" "pi-cm4-revpi-usb-installer" "suderra-pi-cm4-revpi-usb-installer.img"
        "suderra-pi-cm4-revpi-usb-installer.img.xz" "pi4-cm4-revpi-hardware-lab" false true true,
      matrixRow "suderra_aarch64_revpi4_defconfig" "revpi4" "suderra-revpi4-target.img" "suderra-revpi4-target.img.xz"
        "revpi-connect-4-hardware-lab" false true true,
      matrixRow "suderra_aarch64_rpi4_prod_ab_defconfig" "rpi4-prod-ab" "suderra-rpi4-target.img" "suderra-rpi4-prod-ab.img.xz"
        "pi4-cm4-hardware-lab" false false true,
      matrixRow "suderra_aarch64_revpi4_prod_ab_defconfig" "revpi4-prod-ab" "suderra-revpi4-target.img" "suderra-revpi4-prod-ab.img.xz"
        "revpi-connect-4-hardware-lab" false false true]
  securityScans :=
    ["actionlint", "shellcheck", "yamllint", "markdownlint", "hadolint", "gitleaks", "rust-fmt", "rust-clippy", "rust-test",
      "cargo-deny", "trivy", "grype"].map .str

end SuderraOs.Evidence
