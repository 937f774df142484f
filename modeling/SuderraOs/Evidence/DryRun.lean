import SuderraOs.Evidence.OperatorIngress
import SuderraOs.Evidence.SubjectGraph
import SuderraOs.Publish.ArtifactBindings

/-!
# The dry run of a release candidate

`validate_bundle_manifest` of `rc-evidence-dry-run.py`: the manifest of a bundle, the files that its records name, and the subject graph
that is replayed against the plans of the subjects. The texts of exceptions inside a message are left out.
-/

namespace SuderraOs.Evidence.DryRun

open Value Publish

def profile : String := "rc-evidence-dry-run"

def bundleSchemaVersion : String := "suderra.rc-evidence-dry-run-bundle.v1"

/-- `Path.parent`. -/
def parentOf (path : PosixPath) : PosixPath := ⟨path.root, path.names.dropLast⟩

/-- The arguments of `validate_bundle_manifest`. -/
structure Invocation where
  bundleManifestPath : PosixPath
  inputRoot : Option PosixPath

def Invocation.root (A : Invocation) : PosixPath := parentOf A.bundleManifestPath

def Invocation.resolvedInputRoot (A : Invocation) : PosixPath := A.inputRoot.getD (parentOf (parentOf A.root))

/-- What the documents of a bundle have to be about. -/
structure Identity where
  version : String
  sourceSha : String
  sourceRunId : String

/-- A list with an item at least. -/
def isFilledList (v : Value) : Bool := v.asList.any (!·.isEmpty)

/-! ## Sorted sets of records -/

/-- The order of two texts. -/
def textOrder (a b : String) : Ordering := if a = b then .eq else if nameLe a b then .lt else .gt

/-- Tuples of texts are compared from the left. -/
def textsOrder : List String → List String → Ordering
  | a :: as, b :: bs => (textOrder a b).then (textsOrder as bs)
  | _, _ => .eq

section

variable {ρ : Type} [DecidableEq ρ]

/-- `sorted(records)` of a set. -/
def sortedSet (order : ρ → ρ → Ordering) (records : List ρ) : List ρ :=
  records.dedup.insertionSort fun a b => (order a b).isLE = true

/-- `sorted(a - b)` of two sets. -/
def sortedMissing (order : ρ → ρ → Ordering) (a b : List ρ) : List ρ := sortedSet order (a.filter fun r => !b.contains r)

/-- The failure of the records that are missing, by their labels. -/
def missingFailures (message : String) (label : ρ → String) (missing : List ρ) : List String :=
  failUnless (message ++ ", ".intercalate (missing.map label)) missing.isEmpty

/-- The set of the records that items have. -/
def recordsOf (record : Value → Except String ρ) (items : List Value) : List ρ := items.filterMap fun item => (record item).toOption

/-- Whether the record of an item is one of an item before it. -/
def repeats (record : Value → Except String ρ) (before : List Value) (item : Value) : Bool :=
  (record item).toOption.any (recordsOf record before).contains

/-- The failures of the items of a list, after the items before them: the texts of an item follow its place. -/
def itemsFailures (itemFailures : List Value → Value → List String) (pre : String) (before : List Value) : List Value → List String
  | [] => []
  | item :: items =>
    ((itemFailures before item).map fun text => s!"{pre}[{before.length}]" ++ text) ++
      itemsFailures itemFailures pre (before ++ [item]) items

end

/-! ## Files and payloads -/

section Files

variable (Γ : Python) (files : Files)

/-- `read_json_file`; where there is nothing, it adds a failure. -/
def readJsonFile (path : PosixPath) : Option Value := (readJson Γ files path).toOption.join

/-- The failures of a document that is read: one that is no object is passed over. -/
def objectFailures (pre : String) (path : PosixPath) (failures : Fields → List String) : List String :=
  match readJsonFile Γ files path with
  | none => [s!"{pre}: cannot read JSON"]
  | some (.dict payload) => failures payload
  | some _ => []

/-- The bytes of a file that is not empty. -/
def filledFile (path : PosixPath) : Option Bytes := (files path).filter (!·.isEmpty)

/-- `verify_file_record`: the path, where there is a file at it, and the failures. -/
def verifyFileRecord (base : PosixPath) (pre : String) : Value → Option PosixPath × List String
  | .dict record =>
    match Bindings.safeRelativePath (field "path" record) with
    | none => (none, [s!"{pre}.path: must be a safe relative path"])
    | some rel =>
      match filledFile files (base.join rel) with
      | none => (none, [s!"{pre}.path: referenced file is missing or empty: {rel}"])
      | some bytes =>
        (some (base.join rel),
          failUnless s!"{pre}.bytes: does not match referenced file size" ((field "bytes" record).pyEq (.int bytes.length)) ++
          if isDigest (field "sha256" record) then
            failUnless s!"{pre}.sha256: does not match referenced file" ((field "sha256" record).pyEq (.str (Γ.hexdigest bytes)))
          else [s!"{pre}.sha256: must be a non-zero sha256"])
  | _ => (none, [s!"{pre}: must be an object"])

/-- `check_common_identity`. -/
def commonIdentityFailures (I : Identity) (pre : String) (profileRequired : Bool) (payload : Fields) : List String :=
  failUnless s!"{pre}.version: must match {I.version}" ((field "version" payload).pyEq (.str I.version)) ++
  failUnless s!"{pre}.source_sha: must match {I.sourceSha}" ((field "source_sha" payload).pyEq (.str I.sourceSha)) ++
  failUnless s!"{pre}.source_run_id: must match {I.sourceRunId}" ((field "source_run_id" payload).pyStr Γ.repr = I.sourceRunId) ++
  failUnless s!"{pre}.profile: must be {profile}" (!profileRequired || (field "profile" payload).pyEq (.str profile))

/-- The failures of an artifact of a subject plan. -/
def planArtifactFailures (artifacts : Fields) (name : String) : List String :=
  match field name artifacts with
  | .dict item =>
    failUnless s!"subject-plan: artifacts.{name}.sha256 must be a non-zero sha256" (isDigest (field "sha256" item)) ++
      failUnless s!"subject-plan: artifacts.{name}.bytes must be positive" (SubjectGraph.isSize (field "bytes" item))
  | _ => [s!"subject-plan: artifacts.{name} must be an object"]

def subjectPlanFailures (payload : Fields) : List String :=
  failUnless "subject-plan: subject_id must be present" (OperatorIngress.isText (field "subject_id" payload)) ++
    OperatorIngress.objectFailures (field "artifacts" payload) "subject-plan: artifacts must be an object" fun artifacts =>
      ["raw_image", "compressed_release_artifact"].flatMap (planArtifactFailures artifacts)

/-- What a role asks of its payload. -/
def roleFailures (I : Identity) (role : String) (payload : Fields) : List String :=
  match role with
  | "output-tree-plan" =>
    failUnless s!"output-tree-plan.version: must match {I.version}" ((field "version" payload).pyEq (.str I.version)) ++
    failUnless s!"output-tree-plan.profile: must be {profile}" ((field "profile" payload).pyEq (.str profile)) ++
    failUnless "output-tree-plan: must preserve non-promotable RC dry-run semantics"
      ((field "release_authorizing" payload).isFalse && (field "publication_allowed" payload).isFalse)
  | "runtime-plan-gaps" =>
    failUnless "runtime-plan-gaps: status must be blocked_for_production"
      ((field "status" payload).pyEq (.str "blocked_for_production")) ++
    failUnless "runtime-plan-gaps: must list runtime target blockers" (isFilledList (field "runtime_targets" payload))
  | "production-gap-report" =>
    failUnless "production-gap-report: must keep production_ready=false and blocked_for_production"
      ((field "production_ready" payload).isFalse && (field "status" payload).pyEq (.str "blocked_for_production")) ++
    failUnless "production-gap-report: must list remaining production evidence gaps" (isFilledList (field "gaps" payload))
  | "image-build-artifact-digests" =>
    failUnless "image-build-artifact-digests: artifacts must be a non-empty list" (isFilledList (field "artifacts" payload))
  | "subject-plan" => subjectPlanFailures payload
  | "governance-snapshot-manifest" =>
    failUnless "governance-snapshot-manifest: schema_version is invalid"
      ((field "schema_version" payload).pyEq (.str "suderra.github-governance-snapshot-manifest.v1")) ++
    failUnless s!"governance-snapshot-manifest: version must match {I.version}" ((field "version" payload).pyEq (.str I.version)) ++
    failUnless "governance-snapshot-manifest: files must be a non-empty list" (isFilledList (field "files" payload)) ++
    failUnless "governance-snapshot-manifest: failures must be empty" ((field "failures" payload).isIn [.list [], .null])
  | "governance-policy-validation" =>
    failUnless "governance-policy-validation: schema_version is invalid"
      ((field "schema_version" payload).pyEq (.str "suderra.github-governance-validation.v2")) ++
    failUnless "governance-policy-validation: status must be passed" ((field "status" payload).pyEq (.str "passed"))
  | _ => []

/-- The roles whose payloads have the identity of the bundle. -/
def identityRoles : List String :=
  ["retention-plan", "runtime-plan-gaps", "subject-plan", "image-build-artifact-digests", "production-gap-report",
    "release-subject-graph", "release-input-binding"]

/-- The roles whose payloads have its profile too. -/
def profileRoles : List String :=
  ["output-tree-plan", "runtime-plan-gaps", "subject-plan", "production-gap-report", "release-subject-graph"]

/-- `validate_role_payload`. -/
def validateRolePayload (I : Identity) (role : String) (path : PosixPath) (schemaVersion : Option String) : List String :=
  objectFailures Γ files s!"{role}:{path}" path fun payload =>
    (schemaVersion.toList.flatMap fun schema =>
      failUnless s!"{role}: schema_version must be {schema}" ((field "schema_version" payload).pyEq (.str schema))) ++
    (if identityRoles.contains role then commonIdentityFailures Γ I role (profileRoles.contains role) payload else []) ++
    roleFailures I role payload

/-- A record of the manifest: its role and its path, where its file is there, and the failures of the record and of its payload. -/
def checkRecord (I : Identity) (base : PosixPath) (pre : String) (skipped : List String) (item : Value) :
    Option (String × PosixPath) × List String :=
  let verified := verifyFileRecord Γ files base pre item
  match verified.1, item with
  | some path, .dict record =>
    let role := (field "role" record).pyStr Γ.repr
    (some (role, path), verified.2 ++
      if skipped.contains role then [] else validateRolePayload Γ files I role path (field "schema_version" record).asStr)
  | _, _ => (none, verified.2)

/-- The records of a list in the manifest. -/
def checkRecords (I : Identity) (base : PosixPath) (name : String) (skipped : List String) (items : List Value) :
    List (Option (String × PosixPath) × List String) :=
  items.zipIdx.map fun p => checkRecord Γ files I base s!"bundle-manifest.{name}[{p.2}]" skipped p.1

end Files

/-! ## The inventory of the artifacts -/

/-- A canonical record of an artifact. -/
structure ArtifactRecord where
  kind : String
  defconfig : String
  arch : String
  target : String
  role : String
  artifact : String
  path : String
  sha256 : String
  bytes : Int
  deriving DecidableEq

def ArtifactRecord.order (a b : ArtifactRecord) : Ordering :=
  (textsOrder [a.kind, a.defconfig, a.arch, a.target, a.role, a.artifact, a.path, a.sha256]
    [b.kind, b.defconfig, b.arch, b.target, b.role, b.artifact, b.path, b.sha256]).then (compare a.bytes b.bytes)

def ArtifactRecord.label (record : ArtifactRecord) : String := s!"{record.kind}:{record.artifact}:{record.path}"

/-- The size of a record, if it is positive. -/
def sizeOf? (v : Value) : Option Int := v.asInt.filter (0 < ·)

section Inventory

variable (Γ : Python) (files : Files)

/-- `_canonical_record`: the text of a failure follows the place of the record. -/
def canonicalRecord (kind : String) : Value → Except String ArtifactRecord
  | .dict record => do
    let rel ← orError ".path: must be a safe relative non-placeholder path" (Bindings.safeRelativePath (field "path" record))
    let digest ← orError ".sha256: must be a non-zero sha256" ((field "sha256" record).asStr.filter fun s => isDigest (.str s))
    let size ← orError ".bytes: must be positive" (sizeOf? (field "bytes" record))
    .ok {
      kind := kind
      defconfig := textField Γ "defconfig" record
      arch := textField Γ "arch" record
      target := textField Γ "target" record
      role := textField Γ "role" record
      artifact := textField Γ "artifact" record
      path := toString rel
      sha256 := digest
      bytes := size
    }
  | _ => .error ": must be an object"

/-- The lists of a document that hold records, each with their kind. -/
def recordLists : List (String × String) := [("artifacts", "artifact"), ("installers", "installer")]

/-- `_canonical_record_set`. -/
def canonicalRecordSet (payload : Fields) : List ArtifactRecord :=
  (recordLists.flatMap fun p => recordsOf (canonicalRecord Γ p.2) ((field p.1 payload).asList.getD [])) ++
    recordsOf (canonicalRecord Γ "image-build-contract") [field "image_build_contract" payload]

/-- Its failures: records of two lists differ in their kind, so only those of one list can repeat each other. -/
def canonicalRecordSetFailures (pre : String) (payload : Fields) : List String :=
  (recordLists.flatMap fun p =>
    match field p.1 payload with
    | .list items =>
      itemsFailures (fun before item => OperatorIngress.errorOf (canonicalRecord Γ p.2 item) ++
        failUnless ": duplicate canonical record" (!repeats (canonicalRecord Γ p.2) before item)) s!"{pre}.{p.1}" [] items
    | _ => [s!"{pre}.{p.1}: must be a list"]) ++
  (OperatorIngress.errorOf (canonicalRecord Γ "image-build-contract" (field "image_build_contract" payload))).map fun text =>
    s!"{pre}.image_build_contract" ++ text

/-- The failures of the file of a record below the artifacts of the build. -/
def artifactFileFailures (artifactRoot : PosixPath) (record : ArtifactRecord) : List String :=
  let rel := PosixPath.ofString record.path
  match filledFile files (artifactRoot.join rel) with
  | none => [s!"image-build-artifact-digests: referenced build artifact missing or empty: {rel}"]
  | some bytes =>
    failUnless s!"image-build-artifact-digests: byte mismatch for {rel}" ((bytes.length : Int) = record.bytes) ++
      failUnless s!"image-build-artifact-digests: sha256 mismatch for {rel}" (Γ.hexdigest bytes = record.sha256)

/-- `replay_artifact_inventory`, where the directory of the artifacts is there or not. -/
def replayArtifactInventory (artifactRootIsDir : Bool) (inputRoot inventoryPath : PosixPath) (binding : Fields) : List String :=
  objectFailures Γ files "image-build-artifact-digests" inventoryPath fun inventory =>
    let inventoryRecords := canonicalRecordSet Γ inventory
    let bindingRecords := canonicalRecordSet Γ binding
    canonicalRecordSetFailures Γ "image-build-artifact-digests" inventory ++
    canonicalRecordSetFailures Γ "release-input-binding" binding ++
    missingFailures "image-build-artifact-digests: missing binding records: " ArtifactRecord.label
      (sortedMissing ArtifactRecord.order bindingRecords inventoryRecords) ++
    missingFailures "image-build-artifact-digests: contains records not in binding: " ArtifactRecord.label
      (sortedMissing ArtifactRecord.order inventoryRecords bindingRecords) ++
    if artifactRootIsDir then
      (sortedSet ArtifactRecord.order inventoryRecords).flatMap (artifactFileFailures Γ files (inputRoot.child "build-artifacts"))
    else []

/-- The name of a file beside the manifest of a snapshot. -/
def snapshotName (item : Fields) : Option String :=
  (field "name" item).asStr.filter fun name => name ≠ "" && !name.toList.contains '/' && name ≠ "snapshot-manifest.json"

/-- The failures of the file of a snapshot that has a digest. -/
def snapshotFileFailures (dir : PosixPath) (name : String) (digest : Value) : List String :=
  match filledFile files (dir.join (PosixPath.ofString name)) with
  | none => [s!"governance-snapshot-manifest: referenced file missing or empty: {name}"]
  | some bytes =>
    failUnless s!"governance-snapshot-manifest: sha256 mismatch for {name}" (digest.pyEq (.str (Γ.hexdigest bytes)))

/-- The failures of the files of a snapshot from a place on, after the names before it. -/
def snapshotFilesFailures (dir : PosixPath) (seen : List String) (idx : Nat) : List Value → List String
  | [] => []
  | .dict item :: items =>
    let itemPath := s!"governance-snapshot-manifest.files[{idx}]"
    match snapshotName item with
    | none => s!"{itemPath}.name: must be a single relative filename" :: snapshotFilesFailures dir seen (idx + 1) items
    | some name =>
      failUnless s!"{itemPath}.name: duplicate file {name}" (!seen.contains name) ++
        (if isDigest (field "sha256" item) then snapshotFileFailures Γ files dir name (field "sha256" item)
          else [s!"{itemPath}.sha256: must be a non-zero sha256"]) ++
        snapshotFilesFailures dir (name :: seen) (idx + 1) items
  | _ :: items =>
    s!"governance-snapshot-manifest.files[{idx}]: must be an object" :: snapshotFilesFailures dir seen (idx + 1) items

/-- `replay_governance_snapshot`. -/
def replayGovernanceSnapshot (path : PosixPath) : List String :=
  objectFailures Γ files "governance-snapshot-manifest" path fun payload =>
    match field "files" payload with
    | .list (item :: items) => snapshotFilesFailures Γ files (parentOf path) [] 0 (item :: items)
    | _ => ["governance-snapshot-manifest: files must be a non-empty list"]

end Inventory

/-! ## The subject graph and the plans -/

/-- A canonical node of evidence. -/
structure NodeRecord where
  subjectId : String
  target : String
  role : String
  path : String
  schemaRole : String
  schemaVersion : String
  required : Bool
  sha256 : String
  bytes : Option Int
  deriving DecidableEq

/-- Records of the same texts, digest and flag are told apart by their sizes. -/
def NodeRecord.orderBeforeSize (a b : NodeRecord) : Ordering :=
  (textsOrder [a.subjectId, a.target, a.role, a.path, a.schemaRole, a.schemaVersion]
    [b.subjectId, b.target, b.role, b.path, b.schemaRole, b.schemaVersion]).then
    ((compare a.required b.required).then (textOrder a.sha256 b.sha256))

def NodeRecord.order (a b : NodeRecord) : Ordering := (a.orderBeforeSize b).then (compare (a.bytes.getD 0) (b.bytes.getD 0))

def NodeRecord.label (record : NodeRecord) : String := s!"{record.role}:{record.path}"

/-- Whether records can be sorted: a size cannot be compared with none. -/
def NodeRecord.sortable (records : List NodeRecord) : Bool :=
  records.all fun a => records.all fun b => a.orderBeforeSize b ≠ .eq || a.bytes.isSome = b.bytes.isSome

def edgeOrder (a b : EvidenceEdge) : Ordering :=
  textsOrder [a.source, a.target, a.relationship, a.role] [b.source, b.target, b.relationship, b.role]

def edgeLabel (edge : EvidenceEdge) : String := s!"{edge.role}:{edge.target}"

/-- An entry of the required evidence. -/
structure RequiredRecord where
  subjectId : String
  target : String
  role : String
  path : String
  required : Bool
  deriving DecidableEq

def RequiredRecord.order (a b : RequiredRecord) : Ordering :=
  (textsOrder [a.subjectId, a.target, a.role, a.path] [b.subjectId, b.target, b.role, b.path]).then (compare a.required b.required)

def RequiredRecord.label (record : RequiredRecord) : String := s!"{record.role}:{record.path}"

/-- The subjects of a graph, in the first of three places that holds a list. -/
def graphSubjects (graph : Fields) : List Fields :=
  (((field "subjects" graph).asList <|> (field "subject_nodes" graph).asList <|> (field "nodes" graph).asList).getD []).filterMap asDict

/-- `_graph_subjects_by_target`: a later subject takes the place of an earlier one. -/
def graphSubjectsByTarget (graph : Fields) : List (String × Fields) :=
  (graphSubjects graph).filterMap fun subject => (field "target" subject).asStr.map fun target => (target, subject)

def subjectOfTarget (graph : Fields) (target : String) : Option Fields :=
  ((graphSubjectsByTarget graph).reverse.find? fun p => p.1 = target).map (·.2)

/-- `_graph_evidence_nodes_by_subject`. -/
def graphEvidenceNodesBySubject (graph : Fields) (subjectId : String) : List Fields :=
  (SubjectGraph.evidenceNodes graph).filter fun node => (field "subject_id" node).pyEq (.str subjectId)

/-- The edges of a graph. -/
def graphEdges (graph : Fields) : List Fields := ((field "evidence_edges" graph).asList.getD []).filterMap asDict

/-- `_graph_edges_by_subject`. -/
def graphEdgesBySubject (graph : Fields) (subjectId : String) : List Fields :=
  (graphEdges graph).filter fun edge => (field "from" edge).pyEq (.str subjectId)

/-- `_artifact_identity`. -/
def artifactIdentity (artifacts : Value) (name : String) : Option (String × Int) := do
  let artifacts ← artifacts.asDict
  let item ← (field name artifacts).asDict
  let digest ← (field "sha256" item).asStr.filter fun s => isDigest (.str s)
  let size ← sizeOf? (field "bytes" item)
  some (digest, size)

/-- `isinstance(value, bool)`, with the truth value. -/
def asBool : Value → Option Bool
  | .bool b => some b
  | _ => none

/-- Whether an entry is required: it is, unless it says otherwise. -/
def requiredFlag : Value → Option Bool
  | .null => some true
  | required => asBool required

/-- The digest of a node: none is the empty text. -/
def nodeDigest (node : Fields) : Option String :=
  match field "sha256" node with
  | .null => some ""
  | digest => digest.asStr

/-- The size of a node: it may be left out. -/
def nodeSize (node : Fields) : Option (Option Int) :=
  match field "bytes" node with
  | .null => some none
  | size => (sizeOf? size).map some

section Graph

variable (Γ : Python) (files : Files)

/-- `_canonical_evidence_node`: the text of a failure follows the place of the node. -/
def canonicalEvidenceNode : Value → Except String NodeRecord
  | .dict node => do
    let rel ← orError ".path: must be a safe relative path" (Bindings.safeRelativePath (field "path" node))
    let required ← orError ".required: must be a boolean" (asBool (field "required" node))
    let digest ← orError ".sha256: must be a string when present" (nodeDigest node)
    guardError ".sha256: must be a non-zero sha256 when present" (digest = "" || isDigest (.str digest))
    let size ← orError ".bytes: must be positive when present" (nodeSize node)
    .ok {
      subjectId := textField Γ "subject_id" node
      target := textField Γ "target" node
      role := textField Γ "role" node
      path := toString rel
      schemaRole := textField Γ "schema_role" node
      schemaVersion := textField Γ "schema_version" node
      required := required
      sha256 := digest
      bytes := size
    }
  | _ => .error ": must be an object"

/-- The `node_id` of a node, if it is a text. -/
def nodeIdOf (node : Value) : Option String := node.asDict.bind fun node => (field "node_id" node).asStr

/-- The failures of a node after the nodes before it. -/
def evidenceNodeFailures (before : List Value) (node : Value) : List String :=
  failUnless ".node_id: duplicate node id" (!(nodeIdOf node).any (before.filterMap nodeIdOf).contains) ++
    OperatorIngress.errorOf (canonicalEvidenceNode Γ node) ++
    failUnless ": duplicate canonical evidence node" (!repeats (canonicalEvidenceNode Γ) before node)

/-- `_canonical_edge_set`: the record of an edge. -/
def canonicalEdge : Value → Except String EvidenceEdge
  | .dict edge =>
    let record : EvidenceEdge :=
      ⟨textField Γ "from" edge, textField Γ "to" edge, textField Γ "relationship" edge, textField Γ "role" edge⟩
    if record.source ≠ "" ∧ record.target ≠ "" ∧ record.relationship ≠ "" ∧ record.role ≠ "" then .ok record
    else .error ": from, to, relationship, and role are required"
  | _ => .error ": must be an object"

/-- The failures of an edge after the edges before it. -/
def evidenceEdgeFailures (before : List Value) (edge : Value) : List String :=
  OperatorIngress.errorOf (canonicalEdge Γ edge) ++
    failUnless ": duplicate canonical evidence edge" (!repeats (canonicalEdge Γ) before edge)

/-- The entries of the required evidence of a plan: an object has a path for each role. -/
def requiredItems : Value → Option (List Value)
  | .dict fields =>
    some ((members fields).map fun p => .dict [("role", .str p.1), ("path", p.2), ("required", .bool true)])
  | .list items => some items
  | _ => none

/-- `_canonical_required_evidence_set`: the record of an entry. -/
def canonicalRequiredEvidence (subjectId target : String) : Value → Except String RequiredRecord
  | .dict item => do
    let rel ← orError ".path: must be a safe relative path" (Bindings.safeRelativePath (field "path" item))
    let required ← orError ".required: must be a boolean" (requiredFlag (field "required" item))
    .ok ⟨subjectId, target, textField Γ "role" item, toString rel, required⟩
  | _ => .error ": must be an object"

/-- `_required_evidence_from_nodes`. -/
def requiredEvidenceFromNodes (nodes : List Fields) : List RequiredRecord :=
  nodes.filterMap fun node => (Bindings.safeRelativePath (field "path" node)).map fun rel =>
    ⟨textField Γ "subject_id" node, textField Γ "target" node, textField Γ "role" node, toString rel, (field "required" node).truthy⟩

/-- `_retention_closure_key`. -/
def retentionClosureKey : Value → Option (String × List String)
  | .dict payload =>
    (field "required_exports" payload).asList.map fun exports =>
      (textField Γ "policy_id" payload, sortNames (exports.map (·.pyStr Γ.repr)))
  | _ => none

/-- The failures of what a subject says of itself against its plan. -/
def subjectMismatches (target : String) (subject plan : Fields) : List String :=
  (["subject_id", "target", "defconfig", "source_sha", "source_run_id"].flatMap fun name =>
    failUnless s!"release-subject-graph: {target} {name} must match subject-plan"
      ((field name subject).pyStr Γ.repr = (field name plan).pyStr Γ.repr)) ++
  ["raw_image", "compressed_release_artifact"].flatMap fun name =>
    failUnless s!"release-subject-graph: {target} artifacts.{name} must match subject-plan"
      (artifactIdentity (field "artifacts" subject) name = artifactIdentity (field "artifacts" plan) name)

/-- The failures of what a plan retains, against what the graph retains. -/
def retentionMismatches (graph : Fields) (path : PosixPath) (target : String) (plan : Fields) : List String :=
  match retentionClosureKey Γ (field "retention_closure" plan) with
  | none => [s!"subject-plan:{path}: retention_closure must contain policy_id and required_exports"]
  | some key =>
    failUnless s!"release-subject-graph: {target} retention_closure must match subject-plan"
      ((retentionClosureKey Γ (field "retention_closure" graph)).all (· = key))

/-- The failures of the evidence that a plan requires, against the nodes of its subject. -/
def requiredMismatches (path : PosixPath) (subjectId target : String) (graphNodes : List Fields) (plan : Fields) : List String :=
  let record := canonicalRequiredEvidence Γ subjectId target
  let items := requiredItems (field "required_evidence" plan)
  let graphRequired := requiredEvidenceFromNodes Γ graphNodes
  let planRequired := recordsOf record (items.getD [])
  (match items with
    | none => [s!"subject-plan:{path}:required_evidence: must be an object or list"]
    | some items => itemsFailures (fun _ item => OperatorIngress.errorOf (record item)) s!"subject-plan:{path}:required_evidence" [] items) ++
  failUnless s!"subject-plan:{path}: required_evidence must be non-empty" (!planRequired.isEmpty) ++
  missingFailures s!"release-subject-graph: {target} required_evidence missing from subject-plan: " RequiredRecord.label
    (sortedMissing RequiredRecord.order graphRequired planRequired) ++
  missingFailures s!"release-subject-graph: {target} required_evidence not present in graph: " RequiredRecord.label
    (sortedMissing RequiredRecord.order planRequired graphRequired)

/-- The nodes of a plan, if it lists any. -/
def planNodes (plan : Fields) : List Value := (field "evidence_nodes" plan).asList.getD []

/-- The edges of a plan. -/
def planEdges (plan : Fields) : List Value := (field "evidence_edges" plan).asList.getD []

/-- The failures of the nodes of a plan against those of its subject. Sizes that cannot be sorted raise. -/
def nodeMismatches (path : PosixPath) (target : String) (graphNodes : List Fields) (plan : Fields) : Except String (List String) := do
  let graphSet := recordsOf (canonicalEvidenceNode Γ) (graphNodes.map .dict)
  let planSet := recordsOf (canonicalEvidenceNode Γ) (planNodes plan)
  let missing := sortedMissing NodeRecord.order graphSet planSet
  let extra := sortedMissing NodeRecord.order planSet graphSet
  guardError "TypeError" (NodeRecord.sortable missing && NodeRecord.sortable extra)
  .ok (failUnless s!"subject-plan:{path}: evidence_nodes must be non-empty" (!(planNodes plan).isEmpty) ++
    itemsFailures (evidenceNodeFailures Γ) s!"release-subject-graph:{target}:evidence_nodes" [] (graphNodes.map .dict) ++
    itemsFailures (evidenceNodeFailures Γ) s!"subject-plan:{path}:evidence_nodes" [] (planNodes plan) ++
    missingFailures s!"release-subject-graph: {target} evidence_nodes missing from subject-plan: " NodeRecord.label missing ++
    missingFailures s!"release-subject-graph: {target} evidence_nodes not present in graph: " NodeRecord.label extra)

/-- The failures of the edges of a plan against those of its subject. -/
def edgeMismatches (path : PosixPath) (target : String) (graphEdges : List Fields) (plan : Fields) : List String :=
  let graphSet := recordsOf (canonicalEdge Γ) (graphEdges.map .dict)
  let planSet := recordsOf (canonicalEdge Γ) (planEdges plan)
  itemsFailures (evidenceEdgeFailures Γ) s!"release-subject-graph:{target}:evidence_edges" [] (graphEdges.map .dict) ++
    failUnless s!"subject-plan:{path}:evidence_edges: must be a list" (field "evidence_edges" plan).asList.isSome ++
    itemsFailures (evidenceEdgeFailures Γ) s!"subject-plan:{path}:evidence_edges" [] (planEdges plan) ++
    missingFailures s!"release-subject-graph: {target} evidence_edges missing from subject-plan: " edgeLabel
      (sortedMissing edgeOrder graphSet planSet) ++
    missingFailures s!"release-subject-graph: {target} evidence_edges not present in graph: " edgeLabel
      (sortedMissing edgeOrder planSet graphSet)

/-- The failures of a plan against a graph. -/
def planFailures (graph : Fields) (path : PosixPath) (plan : Fields) : Except String (List String) :=
  let target := textField Γ "target" plan
  let subjectId := textField Γ "subject_id" plan
  match subjectOfTarget graph target with
  | none => .ok [s!"release-subject-graph: missing graph subject for subject-plan target {target}"]
  | some subject => do
    let nodes ← nodeMismatches Γ path target (graphEvidenceNodesBySubject graph subjectId) plan
    .ok (subjectMismatches Γ target subject plan ++ retentionMismatches Γ graph path target plan ++
      requiredMismatches Γ path subjectId target (graphEvidenceNodesBySubject graph subjectId) plan ++ nodes ++
      edgeMismatches Γ path target (graphEdgesBySubject graph subjectId) plan)

/-- The failures of the file of a plan against a graph. -/
def planFileFailures (graph : Fields) (path : PosixPath) : Except String (List String) :=
  match readJsonFile Γ files path with
  | none => .ok [s!"subject-plan:{path}: cannot read JSON"]
  | some (.dict plan) => planFailures Γ graph path plan
  | some _ => .ok []

/-- The plans that are objects. -/
def planObjects (plans : List Value) : List Fields := plans.filterMap asDict

/-- The documents at some paths that can be read. -/
def documentsAt (paths : List PosixPath) : List Value := paths.filterMap (readJsonFile Γ files)

/-- `replay_subject_graph_against_plans`. -/
def replaySubjectGraphAgainstPlans (graph : Fields) (planPaths : List PosixPath) : Except String (List String) := do
  let found ← planPaths.mapM (planFileFailures Γ files graph)
  let graphTargets := (graphSubjectsByTarget graph).map (·.1)
  let seenTargets := (planObjects (documentsAt Γ files planPaths)).map (textField Γ "target")
  let missingTargets := sortedDiff graphTargets seenTargets
  let extraTargets := sortedDiff seenTargets graphTargets
  .ok (failUnless "release-subject-graph: retention_closure must contain policy_id and required_exports"
      (retentionClosureKey Γ (field "retention_closure" graph)).isSome ++
    found.flatten ++
    failUnless ("release-subject-graph: graph subjects missing subject-plans: " ++ ", ".intercalate missingTargets)
      missingTargets.isEmpty ++
    failUnless ("release-subject-graph: subject-plan targets missing from graph: " ++ ", ".intercalate extraTargets)
      extraTargets.isEmpty)

/-- The objects that an iteration over a value gives; the names of an object and the characters of a text are none. -/
def iterObjects : Value → Except String (List Fields)
  | .list items => .ok (items.filterMap asDict)
  | .dict _ => .ok []
  | .str _ => .ok []
  | _ => .error "TypeError"

/-- The ids of the subjects among some objects. -/
def subjectIdsOf (nodes : List Fields) : List String := nodes.filterMap fun node => (field "subject_id" node).asStr

/-- The ids of the subjects of a graph: those of `nodes`, where there are no others. -/
def graphSubjectIds (graph : Fields) : Except String (List String) := do
  let nodes ← iterObjects ((lookup "subjects" graph).getD ((lookup "subject_nodes" graph).getD (.list [])))
  if subjectIdsOf nodes ≠ [] then .ok (subjectIdsOf nodes)
  else do
    let nodes ← iterObjects ((lookup "nodes" graph).getD (.list []))
    .ok (subjectIdsOf nodes)

end Graph

/-! ## The binding and the subjects -/

section Replay

variable (Γ : Python) (C : Contract) (T : FileTree) (M : Matrix)

/-- The artifacts of the build below the input root, as the contract looks at them. -/
def artifactStore (inputRoot : PosixPath) : Bindings.Store where
  artifactRoot := some (inputRoot.child "build-artifacts")
  isFile path := (OperatorIngress.treeFiles T path).isSome
  fileHasher := some fun path => Γ.hexdigest ((OperatorIngress.treeFiles T path).getD [])

/-- The digests of a target in the binding. -/
def targetDigests (binding : Fields) (target : String) : List String :=
  (((field "artifacts" binding).asList.getD []).filterMap asDict).filterMap fun item =>
    if (field "target" item).pyEq (.str target) then (field "sha256" item).asStr else none

/-- The failures of the artifacts of a plan against the binding. -/
def boundArtifactFailures (binding : Fields) (path : PosixPath) (plan : Fields) : List String :=
  ["raw_image", "compressed_release_artifact"].flatMap fun name =>
    let artifact := (field name ((field "artifacts" plan).asDict.getD [])).asDict.getD []
    failUnless s!"subject-plan:{path}: artifacts.{name}.sha256 must match release input binding"
      ((field "sha256" artifact).asStr.any (targetDigests binding ((field "target" plan).pyStr Γ.repr)).contains)

/-- What the manifest names for the replay. -/
structure ReplayPaths where
  binding : PosixPath
  artifactInventory : Option PosixPath
  subjectGraph : PosixPath
  subjectPlans : List PosixPath
  inputRoot : PosixPath

/-- What `validate_subject_graph` is asked. -/
def graphQuery (I : Identity) (P : ReplayPaths) (binding : Fields) : SubjectGraph.Query where
  path := P.subjectGraph
  version := I.version
  profile := profile
  sourceSha := some I.sourceSha
  sourceRunId := some I.sourceRunId
  matrix := M.defconfigs
  binding := some binding
  root := some P.inputRoot
  checkFiles := false

/-- The failures of `validate_subject_graph`: what it raises is one. -/
def semanticFailures (I : Identity) (P : ReplayPaths) (binding : Fields) : List String :=
  match SubjectGraph.validateSubjectGraph Γ C (OperatorIngress.treeFiles T) (graphQuery M I P binding) with
  | .ok failures => failures
  | .error _ => ["release-subject-graph: semantic replay failed"]

/-- The failures of a graph that was read against the plans. -/
def graphFailures (P : ReplayPaths) (graph : Fields) : Except String (List String) := do
  let files := OperatorIngress.treeFiles T
  let ids ← graphSubjectIds graph
  let missing := sortedDiff (subjectIdsOf (planObjects (documentsAt Γ files P.subjectPlans))) ids
  let replayed ← replaySubjectGraphAgainstPlans Γ files graph P.subjectPlans
  .ok (failUnless ("release-subject-graph: missing subject-plan subject IDs: " ++ ", ".intercalate missing) missing.isEmpty ++ replayed)

/-- The failures of the file of the graph. -/
def graphFileFailures (P : ReplayPaths) : Except String (List String) :=
  match readJsonFile Γ (OperatorIngress.treeFiles T) P.subjectGraph with
  | none => .ok ["release-subject-graph: cannot read JSON"]
  | some (.dict graph) => graphFailures Γ T P graph
  | some _ => .ok []

/-- The failures of a binding that was read. -/
def bindingFailures (I : Identity) (P : ReplayPaths) (binding : Fields) : Except String (List String) := do
  let files := OperatorIngress.treeFiles T
  let expected ← Bindings.expectedReleaseArtifactMap Γ M
  let graph ← graphFileFailures Γ T P
  .ok (failUnless "release-input-binding: schema_version must be suderra.release-input-binding.v2"
      ((field "schema_version" binding).pyEq (.str "suderra.release-input-binding.v2")) ++
    commonIdentityFailures Γ I "release-input-binding" true binding ++
    ((Bindings.validateReleaseArtifactBindings Γ (artifactStore Γ T P.inputRoot) expected (field "artifacts" binding)).map fun text =>
      "release-input-binding: " ++ text) ++
    (P.artifactInventory.toList.flatMap fun path =>
      replayArtifactInventory Γ files (T.stat (P.inputRoot.child "build-artifacts").names = some .dir) P.inputRoot path binding) ++
    (P.subjectPlans.flatMap fun path =>
      objectFailures Γ files s!"subject-plan:{path}" path (boundArtifactFailures Γ binding path)) ++
    semanticFailures Γ C T M I P binding ++ graph)

/-- `replay_binding_and_subjects`. -/
def replayBindingAndSubjects (I : Identity) (P : ReplayPaths) : Except String (List String) :=
  match readJsonFile Γ (OperatorIngress.treeFiles T) P.binding with
  | none => .ok ["release-input-binding: cannot read JSON"]
  | some (.dict binding) => bindingFailures Γ C T M I P binding
  | some _ => .ok []

end Replay

/-! ## The manifest -/

section Manifest

variable (Γ : Python) (C : Contract) (T : FileTree) (M : Matrix) (A : Invocation)

def identityOf (manifest : Fields) : Identity where
  version := (field "version" manifest).pyStr Γ.repr
  sourceSha := (field "source_sha" manifest).pyStr Γ.repr
  sourceRunId := (field "source_run_id" manifest).pyStr Γ.repr

/-- The failures of what a manifest says of itself. -/
def headerFailures (manifest : Fields) : List String :=
  let I := identityOf Γ manifest
  failUnless s!"bundle-manifest schema_version must be {bundleSchemaVersion}"
    ((field "schema_version" manifest).pyEq (.str bundleSchemaVersion)) ++
  failUnless "bundle-manifest profile must be rc-evidence-dry-run" ((field "profile" manifest).pyEq (.str profile)) ++
  failUnless "bundle-manifest version must be prerelease SemVer" (I.version.toList.contains '-') ++
  failUnless "bundle-manifest source_sha must be a lowercase git commit sha" (isHex 40 I.sourceSha) ++
  failUnless "bundle-manifest production_ready must be false" (field "production_ready" manifest).isFalse ++
  failUnless "bundle-manifest status must be non_promotable" ((field "status" manifest).pyEq (.str "non_promotable")) ++
  failUnless "bundle-manifest must be non release-authorizing and non-publishing"
    ((field "release_authorizing" manifest).isFalse && (field "publication_allowed" manifest).isFalse)

/-- The records under a role, of `records_by_role`. -/
def recordsByRole (records : Value) (role : String) : List Fields :=
  ((records.asList.getD []).filterMap asDict).filter fun item => (field "role" item).pyEq (.str role)

/-- The roles that a member must have. -/
def memberRoles : List String :=
  ["validate-join", "output-tree-plan", "retention-plan", "runtime-plan-gaps", "subject-plan", "image-build-artifact-digests",
    "production-gap-report"]

/-- The roles that one external reference must have. -/
def externalRoles : List String :=
  ["release-input-binding", "release-subject-graph", "governance-snapshot-manifest", "governance-policy-validation"]

/-- The members, with the paths of those whose files are there. -/
def checkedMembers (manifest : Fields) : List (Option (String × PosixPath) × List String) :=
  checkRecords Γ (OperatorIngress.treeFiles T) (identityOf Γ manifest) A.root "members" ["validate-join"]
    ((field "members" manifest).asList.getD [])

/-- The external references, with the paths of those whose files are there. -/
def checkedExternals (manifest : Fields) : List (Option (String × PosixPath) × List String) :=
  checkRecords Γ (OperatorIngress.treeFiles T) (identityOf Γ manifest) A.resolvedInputRoot "external_refs" []
    ((field "external_refs" manifest).asList.getD [])

/-- `member_paths_by_role.get(role, [])`. -/
def memberPaths (manifest : Fields) (role : String) : List PosixPath :=
  (((checkedMembers Γ T A manifest).filterMap (·.1)).filter fun p => p.1 = role).map (·.2)

/-- `external_paths_by_role.get(role)`: a later reference takes the place of an earlier one. -/
def externalPath (manifest : Fields) (role : String) : Option PosixPath :=
  (((checkedExternals Γ T A manifest).filterMap (·.1)).reverse.find? fun p => p.1 = role).map (·.2)

/-- The failures of the first report of the gaps. -/
def gapFailures (manifest : Fields) : List String :=
  (memberPaths Γ T A manifest "production-gap-report").head?.toList.flatMap fun path =>
    match readJsonFile Γ (OperatorIngress.treeFiles T) path with
    | some (.dict gaps) =>
      if (field "status" gaps).pyEq (.str "blocked_for_production") then
        failUnless "gaps.json must list remaining production evidence gaps" (isFilledList (field "gaps" gaps))
      else ["gaps.json must be blocked_for_production"]
    | some _ => ["gaps.json must be blocked_for_production"]
    | none => ["production-gap-report: cannot read JSON", "gaps.json must be blocked_for_production"]

/-- The replay, where the binding and the graph are there. -/
def replayFailures (manifest : Fields) : Except String (List String) :=
  match externalPath Γ T A manifest "release-input-binding", externalPath Γ T A manifest "release-subject-graph" with
  | some binding, some graph =>
    replayBindingAndSubjects Γ C T M (identityOf Γ manifest)
      ⟨binding, (memberPaths Γ T A manifest "image-build-artifact-digests").head?, graph, memberPaths Γ T A manifest "subject-plan",
        A.resolvedInputRoot⟩
  | _, _ => .ok []

/-- The failures of a manifest that was read. -/
def manifestFailures (manifest : Fields) : Except String (List String) := do
  let replayed ← replayFailures Γ C T M A manifest
  .ok (headerFailures Γ manifest ++
    failUnless "bundle-manifest members must be a non-empty list" (isFilledList (field "members" manifest)) ++
    (memberRoles.flatMap fun role =>
      failUnless s!"bundle-manifest must include member role {role}" (recordsByRole (field "members" manifest) role ≠ [])) ++
    (checkedMembers Γ T A manifest).flatMap (·.2) ++
    failUnless "bundle-manifest external_refs must be a non-empty list" (isFilledList (field "external_refs" manifest)) ++
    (externalRoles.flatMap fun role =>
      match (recordsByRole (field "external_refs" manifest) role).length with
      | 0 => [s!"bundle-manifest must include external ref role {role}"]
      | n => failUnless s!"bundle-manifest must include exactly one external ref role {role}" (n = 1)) ++
    (checkedExternals Γ T A manifest).flatMap (·.2) ++
    gapFailures Γ T A manifest ++
    ((externalPath Γ T A manifest "governance-snapshot-manifest").toList.flatMap fun path =>
      replayGovernanceSnapshot Γ (OperatorIngress.treeFiles T) path) ++
    replayed)

/-- `validate_bundle_manifest`: the manifest, if it is an object, and the failures. -/
def validateBundleManifest : Except String (Option Fields × List String) :=
  match readJsonFile Γ (OperatorIngress.treeFiles T) A.bundleManifestPath with
  | none => .ok (none, ["$.bundle_manifest: cannot read JSON"])
  | some (.dict manifest) => do
    let failures ← manifestFailures Γ C T M A manifest
    .ok (some manifest, failures)
  | some _ => .ok (none, [])

end Manifest

/-! ## The plans that are made -/

section Create

variable (Γ : Python)

/-- The texts of some fields, as `sorted` compares them. -/
def sortKey (names : List String) (fields : Fields) : List String := names.map fun name => (field name fields).pyStr Γ.repr

/-- Sorted by the texts of some fields. -/
def sortedBy (names : List String) (items : List Fields) : List Fields :=
  items.insertionSort fun a b => (textsOrder (sortKey Γ names a) (sortKey Γ names b)).isLE = true

/-- The entry of a node among the required evidence. -/
def requiredEntry (node : Fields) : Value :=
  .dict (["node_id", "role", "path", "schema_role", "schema_version", "required"].map fun name => (name, field name node))

/-- `subject_plan_from_graph_subject`. -/
def subjectPlanFromGraphSubject (graph subject : Fields) : Except String Fields := do
  let id ← orError "KeyError" (lookup "subject_id" subject)
  let subjectId := id.pyStr Γ.repr
  let nodes := sortedBy Γ ["role", "path", "node_id"] (graphEvidenceNodesBySubject graph subjectId)
  let edges := sortedBy Γ ["role", "to"] (graphEdgesBySubject graph subjectId)
  .ok [("schema_version", field "schema_version" graph), ("subject_id", .str subjectId), ("version", field "version" subject),
    ("profile", field "profile" subject), ("target", field "target" subject), ("defconfig", field "defconfig" subject),
    ("source_sha", field "source_sha" subject), ("source_run_id", field "source_run_id" subject),
    ("source_run_attempt", field "source_run_attempt" subject),
    ("matrix", .dict [("production_ready", field "production_ready" ((field "target_policy" subject).asDict.getD []))]),
    ("artifacts", field "artifacts" subject), ("required_evidence", .list (nodes.map requiredEntry)),
    ("evidence_nodes", .list (nodes.map .dict)), ("evidence_edges", .list (edges.map .dict)),
    ("retention_closure", field "retention_closure" graph),
    ("producer", .dict [("name", .str "rc-evidence-dry-run.py subject-plan"), ("source", .str "release-subject-graph")])]

/-- A subject of the graph, as `create_command` looks at it: its target and its plan. -/
def createSubjectPlan (graph : Fields) : Value → Except String (String × Fields)
  | .dict subject => do
    let target ← orError "release subject graph subjects must be objects with target" (field "target" subject).asStr
    guardError s!"release subject graph subject {target} must have non-null raw/compressed artifact identity"
      ((artifactIdentity (field "artifacts" subject) "raw_image").isSome &&
        (artifactIdentity (field "artifacts" subject) "compressed_release_artifact").isSome)
    let plan ← subjectPlanFromGraphSubject Γ graph subject
    .ok (target, plan)
  | _ => .error "release subject graph subjects must be objects with target"

/-- What the subjects are sorted by: `str(item.get("target", ""))` of an object. -/
def targetText (subject : Value) : String := (subject.asDict.map (textField Γ "target")).getD ""

/-- The plans that `create_command` writes, each under its target. -/
def createSubjectPlans (graph : Fields) : Except String (List (String × Fields)) :=
  match field "subjects" graph with
  | .list (subject :: subjects) =>
    ((subject :: subjects).insertionSort fun a b => nameLe (targetText Γ a) (targetText Γ b) = true).mapM (createSubjectPlan Γ graph)
  | _ => .error "release subject graph must contain subjects"

end Create

end SuderraOs.Evidence.DryRun
