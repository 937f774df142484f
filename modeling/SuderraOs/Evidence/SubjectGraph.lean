import SuderraOs.Evidence.Contract

/-!
# The release subject graph

`validate_subject_graph` of `validate-release-inputs.py`. The validator walks the nodes that a graph has and the targets that a
matrix governs; it never asks `subject_plan` which nodes there should be.
-/

namespace SuderraOs.Evidence.SubjectGraph

open Value

/-- What an invocation asks of a graph. -/
structure Query where
  path : PosixPath
  version : String
  profile : String
  sourceSha : Option String
  sourceRunId : Option String
  /-- The `defconfigs` of the matrix. -/
  matrix : List Value
  binding : Option Fields
  root : Option PosixPath
  checkFiles : Bool

def placeholderValues : List String := ["TO_BE_COLLECTED", "NOT_COLLECTED", "not_collected", "pending", "PENDING"]

/-- The subjects of a graph, in the first of the three places that has some. -/
def subjectNodes (payload : Fields) : Except String (List Fields) :=
  match field "subjects" payload with
  | .list items => .ok (items.filterMap asDict)
  | _ =>
    match field "nodes" payload with
    | .list items => do
      guardError "TypeError" ((items.filterMap asDict).all fun item => (field "role" item).isHashable)
      .ok ((items.filterMap asDict).filter fun item =>
        (field "role" item).isIn [.null, .str "release-subject", .str "root-subject"])
    | _ => .ok (if (field "subject_id" payload).asStr.isSome then [payload] else [])

/-- `_subject_graph_evidence_nodes`. -/
def evidenceNodes (payload : Fields) : List Fields := ((field "evidence_nodes" payload).asList.getD []).filterMap asDict

/-- `binding_artifact_refs_for_target`. -/
def bindingArtifactRefs (binding : Option Fields) (target : String) : List Fields :=
  match binding with
  | none => []
  | some binding =>
    (((field "artifacts" binding).asList.getD []).filterMap asDict).filter fun item =>
      (field "target" item).pyEq (.str target) && (field "sha256" item).asStr.any (isHex 64)

/-- The node of a target: the last one that names it. -/
def nodeOf (nodes : List Fields) (target : String) : Option Fields :=
  nodes.reverse.find? fun node => (field "target" node).pyEq (.str target)

/-- A number of bytes that is there. -/
def isSize (v : Value) : Bool := v.asInt.any (0 < ·)

/-- The compressed artifact of a subject: its digest and its size. -/
def compressedArtifact (node : Fields) : Value × Value :=
  match field "compressed_artifact_sha256" node with
  | .null =>
    match (field "compressed_release_artifact" ((field "artifacts" node).asDict.getD [])).asDict with
    | some ref => (field "sha256" ref, field "bytes" ref)
    | none => (.null, field "compressed_artifact_bytes" node)
  | digest => (digest, field "compressed_artifact_bytes" node)

section Validator

variable (Γ : Python) (C : Contract) (files : Files) (Q : Query)

/-- The failures of the node of a governed target. A name, a digest or a subject that cannot be hashed raises. -/
def nodeFailures (row : Fields) (target : String) (refs : List Fields) (sourceSha sourceRunId : String) (node : Fields) :
    Except String (List String) := do
  let expected ← C.releaseSubjectId Q.version target sourceSha sourceRunId
  guardError "TypeError" ((field "defconfig" node).isHashable && (field "name" row).isHashable)
  let production := Q.profile = "production-candidate"
  let compressed := compressedArtifact node
  guardError "TypeError" (refs.isEmpty || compressed.1.isHashable)
  .ok (failUnless s!"release subject graph subject_id mismatch for {target}: {Q.path}"
      ((field "subject_id" node).pyEq (.str expected)) ++
    failUnless s!"release subject graph source_sha mismatch for {target}: {Q.path}"
      ((field "source_sha" node).pyEq (.str sourceSha)) ++
    failUnless s!"release subject graph source_run_id mismatch for {target}: {Q.path}"
      ((field "source_run_id" node).pyStr Γ.repr = sourceRunId) ++
    failUnless s!"release subject graph defconfig mismatch for {target}: {Q.path}"
      ((field "defconfig" node).isIn [.null, field "name" row]) ++
    failUnless s!"release subject graph raw_image_sha256 must be bound for {target}: {Q.path}"
      (!production || isDigest (field "raw_image_sha256" node)) ++
    failUnless s!"release subject graph raw_image_bytes must be bound for {target}: {Q.path}"
      (!production || isSize (field "raw_image_bytes" node)) ++
    failUnless s!"release subject graph compressed_artifact_sha256 must be bound for {target}: {Q.path}"
      (!production || isDigest compressed.1) ++
    failUnless s!"release subject graph compressed_artifact_bytes must be bound for {target}: {Q.path}"
      (!production || isSize compressed.2) ++
    failUnless s!"release subject graph compressed artifact digest must bind release input for {target}: {Q.path}"
      (refs.isEmpty || refs.any fun item => (field "sha256" item).pyEq compressed.1))

/-- The failures of a row of the matrix: only the rows of governed targets have any. -/
def rowFailures (strictNonproduction : Bool) (nodes : List Fields) (sourceSha sourceRunId : String) (row : Fields) :
    Except String (List String) :=
  let target := (field "target" row).pyStr Γ.repr
  let refs := bindingArtifactRefs Q.binding target
  if !(field "target" row).truthy || !(C.targetPolicy target).any TargetPolicy.governed then .ok []
  else if strictNonproduction && !(field "release" row).isTrue && refs.isEmpty then .ok []
  else
    match nodeOf nodes target with
    | none => .ok [s!"release subject graph missing target node: {target}"]
    | some node => nodeFailures Γ C Q row target refs sourceSha sourceRunId node

/-- Whether a graph has an edge between two ids. -/
def hasEdge (payload : Fields) (source target : String) : Bool :=
  (((field "evidence_edges" payload).asList.getD []).filterMap asDict).any fun edge =>
    (field "from" edge).pyEq (.str source) && (field "to" edge).pyEq (.str target)

/-- The `node_id` of a node, if it is a text that is not blank. -/
def nodeId? (item : Fields) : Option String := (field "node_id" item).asStr.filter fun id => !isBlank id

/-- The failures of the file of a required node. -/
def fileFailures (nodePath : String) (actual : PosixPath) (item : Fields) : List String :=
  match (files actual).filter (!·.isEmpty) with
  | none => [s!"{nodePath}.path missing required evidence file: {actual}"]
  | some bytes =>
    (if isDigest (field "sha256" item) then
      failUnless s!"{nodePath}.sha256 mismatch for required evidence: {actual}"
        ((field "sha256" item).pyEq (.str (Γ.hexdigest bytes)))
    else [s!"{nodePath}.sha256 must be preserved for required evidence: {Q.path}"]) ++
    if isSize (field "bytes" item) then
      failUnless s!"{nodePath}.bytes mismatch for required evidence: {actual}" ((field "bytes" item).asInt = some bytes.length)
    else [s!"{nodePath}.bytes must be preserved for required evidence: {Q.path}"]

/-- The failures of a node at a path. -/
def relFailures (nodePath : String) (item : Fields) (rel : PosixPath) : Except String (List String) := do
  let production := Q.profile = "production-candidate"
  guardError "TypeError" (!production || (field "role" item).isHashable)
  let artifact := production && (field "role" item).isIn [.str "raw-image", .str "compressed-release-artifact"]
  .ok (failUnless s!"{nodePath}.sha256 must bind production artifact bytes: {Q.path}" (!artifact || isDigest (field "sha256" item)) ++
    failUnless s!"{nodePath}.bytes must bind production artifact bytes: {Q.path}" (!artifact || isSize (field "bytes" item)) ++
    match Q.root with
    | some root =>
      if Q.checkFiles && (field "required" item).isTrue then fileFailures Γ files Q nodePath (root.join rel) item else []
    | none => [])

/-- The failures of the path of a node and of what stands there. -/
def pathFailures (nodePath : String) (item : Fields) : Except String (List String) :=
  match safeRelativePath (field "path" item) with
  | none => .ok [s!"{nodePath}.path must be a relative non-placeholder path: {Q.path}"]
  | some rel => relFailures Γ files Q nodePath item rel

/-- The failures of a node of evidence that has an id. -/
def evidenceNodeFailures (payload : Fields) (subjects : List Fields) (nodePath nodeId : String) (item : Fields) :
    Except String (List String) := do
  guardError "TypeError" (field "subject_id" item).isHashable
  let found ← pathFailures Γ files Q nodePath item
  .ok (failUnless s!"{nodePath}.subject_id must reference a subject node: {Q.path}"
      (subjects.any fun node => (field "subject_id" node).asStr.any fun id => (field "subject_id" item).pyEq (.str id)) ++
    failUnless s!"{nodePath} must have a subject evidence edge: {Q.path}"
      (hasEdge payload ((field "subject_id" item).pyStr Γ.repr) nodeId) ++
    (["role", "schema_role", "schema_version", "producer"].flatMap fun name =>
      failUnless s!"{nodePath}.{name} must be non-placeholder: {Q.path}"
        (!isPlaceholder placeholderValues (field name item) && (field name item).asStr.isSome)) ++
    found)

/-- The failures of the nodes of evidence from a place on, after the ids before it. -/
def evidenceFailures (payload : Fields) (subjects : List Fields) (seen : List String) (idx : Nat) :
    List Fields → Except String (List String)
  | [] => .ok []
  | item :: items =>
    let nodePath := s!"release subject graph evidence_nodes[{idx}]"
    match nodeId? item with
    | none => do
      let rest ← evidenceFailures payload subjects seen (idx + 1) items
      .ok (s!"{nodePath}.node_id is required: {Q.path}" :: rest)
    | some nodeId => do
      let here ← evidenceNodeFailures Γ files Q payload subjects nodePath nodeId item
      let rest ← evidenceFailures payload subjects (nodeId :: seen) (idx + 1) items
      .ok (failUnless s!"{nodePath}.node_id must be unique: {Q.path}" (!seen.contains nodeId) ++ here ++ rest)

/-- The paths of the required nodes. -/
def requiredNodePaths (payload : Fields) : List String :=
  ((evidenceNodes payload).filter fun item => (field "required" item).isTrue).filterMap fun item => (field "path" item).asStr

/-- The failures of the paths that a graph lists as required. -/
def requiredPathFailures (payload : Fields) : List String :=
  match field "required_paths" payload with
  | .list (path :: paths) =>
    let missing := sortedDiff (requiredNodePaths payload) ((path :: paths).filterMap asStr)
    failUnless ("release subject graph required_paths missing node paths: " ++ ", ".intercalate missing) missing.isEmpty
  | _ => [s!"release subject graph required_paths must be non-empty: {Q.path}"]

/-- The strings that an iteration over a value gives. -/
def iterStrings : Value → Except String (List String)
  | .list items => .ok (items.filterMap asStr)
  | .dict fields => .ok (fields.map (·.1))
  | .str s => .ok (s.toList.map fun c => String.ofList [c])
  | _ => .error "TypeError"

/-- The failures of what a graph retains. -/
def retentionFailures (payload : Fields) : Except String (List String) :=
  match field "retention_closure" payload with
  | .dict closure => do
    let actual ← iterStrings ((lookup "required_exports" closure).getD (.list []))
    let missing := sortedDiff C.retentionRequiredExports actual
    .ok (failUnless ("release subject graph retention_closure missing exports: " ++ ", ".intercalate missing) missing.isEmpty)
  | _ => .ok [s!"release subject graph retention_closure is required: {Q.path}"]

/-- The failures of the nodes, the paths and the exports of a graph. -/
def nodesFailures (payload : Fields) (subjects : List Fields) : Except String (List String) := do
  let nodes ← evidenceFailures Γ files Q payload subjects [] 0 (evidenceNodes payload)
  let retention ← retentionFailures C Q payload
  .ok (failUnless s!"release subject graph must contain evidence_edges closure: {Q.path}"
      ((field "evidence_edges" payload).asList.any (!·.isEmpty)) ++
    nodes ++ requiredPathFailures Q payload ++ retention)

/-- The failures of what a graph must close over: without nodes of evidence nothing else is looked at. -/
def closureFailures (payload : Fields) (subjects : List Fields) : Except String (List String) :=
  if evidenceNodes payload = [] then .ok [s!"release subject graph must contain evidence_nodes closure: {Q.path}"]
  else nodesFailures Γ C files Q payload subjects

/-- The failures of a graph with these subjects. -/
def subjectFailures (payload : Fields) (sourceSha sourceRunId : String) (subjects : List Fields) : Except String (List String) := do
  let policy ← C.profilePolicy Q.profile
  let rows ← (Q.matrix.filterMap asDict).mapM
    (rowFailures Γ C Q (policy.strictArtifactBinding && !policy.productionCandidate) subjects sourceSha sourceRunId)
  let closure ← closureFailures Γ C files Q payload subjects
  .ok (rows.flatten ++ closure)

/-- The failures of the subjects of a graph: without the ids of the source, or without subjects, nothing else is looked at. -/
def sourceFailures (payload : Fields) : Except String (List String) :=
  match Q.sourceSha, Q.sourceRunId with
  | some sourceSha, some sourceRunId => do
    let subjects ← subjectNodes payload
    if subjects = [] then .ok [s!"release subject graph must contain subject nodes: {Q.path}"]
    else subjectFailures Γ C files Q payload sourceSha sourceRunId subjects
  | _, _ => .ok ["release subject graph validation requires source_sha and source_run_id"]

/-- The failures of a graph that was read. -/
def graphFailures (payload : Fields) : Except String (List String) := do
  let schemaVersion ← C.schemaVersion "release_subject_graph"
  guardError "TypeError" ((field "version" payload).isHashable && (field "profile" payload).isHashable)
  let found ← sourceFailures Γ C files Q payload
  .ok (failUnless s!"release subject graph schema_version must be {schemaVersion}: {Q.path}"
      ((field "schema_version" payload).pyEq (.str schemaVersion)) ++
    failUnless s!"release subject graph version mismatch: {Q.path}" ((field "version" payload).isIn [.null, .str Q.version]) ++
    failUnless s!"release subject graph profile mismatch: {Q.path}" ((field "profile" payload).isIn [.null, .str Q.profile]) ++
    found)

/-- `validate_subject_graph`. -/
def validateSubjectGraph : Except String (List String) := do
  let payload ← readJson Γ files Q.path
  match payload with
  | some (.dict payload) => graphFailures Γ C files Q payload
  | _ => .ok [s!"release subject graph missing or invalid JSON: {Q.path}"]

/-! ## What an accepted graph closes over -/

/-- The rows of the matrix that a graph must have a subject for. -/
structure Governed (row : Fields) (target : String) : Prop where
  row_mem : .dict row ∈ Q.matrix
  named : (field "target" row).truthy = true
  target_eq : target = (field "target" row).pyStr Γ.repr
  governed : (C.targetPolicy target).any TargetPolicy.governed = true

/-- What is checked of the node of a governed target under the profile of production releases. -/
structure SubjectBound (subjects : List Fields) (sourceSha sourceRunId : String) (row : Fields) (target : String) (node : Fields) :
    Prop where
  last : nodeOf subjects target = some node
  subject_id : ∃ id, C.releaseSubjectId Q.version target sourceSha sourceRunId = .ok id ∧ field "subject_id" node = .str id
  source_sha : field "source_sha" node = .str sourceSha
  source_run_id : (field "source_run_id" node).pyStr Γ.repr = sourceRunId
  defconfig : (field "defconfig" node).isIn [.null, field "name" row] = true
  raw_image_sha256 : isDigest (field "raw_image_sha256" node) = true
  raw_image_bytes : isSize (field "raw_image_bytes" node) = true
  compressed_sha256 : isDigest (compressedArtifact node).1 = true
  compressed_bytes : isSize (compressedArtifact node).2 = true
  released : bindingArtifactRefs Q.binding target = [] ∨
    ∃ item ∈ bindingArtifactRefs Q.binding target, (field "sha256" item).pyEq (compressedArtifact node).1 = true

/-- A required file is there, with the digest and the size that its node records. -/
def FileBound (item : Fields) (actual : PosixPath) : Prop :=
  ∃ bytes, files actual = some bytes ∧ bytes ≠ [] ∧ field "sha256" item = .str (Γ.hexdigest bytes) ∧
    (field "bytes" item).asInt = some bytes.length

/-- What is checked of a node of evidence. -/
structure NodeBound (payload : Fields) (subjects : List Fields) (item : Fields) : Prop where
  subject : ∃ node ∈ subjects, ∃ subjectId nodeId, field "subject_id" node = .str subjectId ∧
    field "subject_id" item = .str subjectId ∧ nodeId? item = some nodeId ∧ hasEdge payload subjectId nodeId = true
  named : ∀ name ∈ ["role", "schema_role", "schema_version", "producer"],
    isPlaceholder placeholderValues (field name item) = false ∧ (field name item).asStr.isSome = true
  file : ∃ rel, safeRelativePath (field "path" item) = some rel ∧
    ∀ root, Q.root = some root → Q.checkFiles = true → (field "required" item).isTrue = true → FileBound Γ files item (root.join rel)
  artifact : (field "role" item).isIn [.str "raw-image", .str "compressed-release-artifact"] = true →
    isDigest (field "sha256" item) = true ∧ isSize (field "bytes" item) = true

/-- What an accepted graph closes over: the governed targets, the nodes it has, the paths it lists and the exports it retains. -/
structure Closed (payload : Fields) (subjects : List Fields) (sourceSha sourceRunId : String) : Prop where
  targets : ∀ row target, Governed Γ C Q row target →
    ∃ node, SubjectBound Γ C Q subjects sourceSha sourceRunId row target node
  nodes : ∀ item ∈ evidenceNodes payload, NodeBound Γ files Q payload subjects item
  node_ids : ((evidenceNodes payload).map nodeId?).Nodup
  required_paths : ∃ paths, field "required_paths" payload = .list paths ∧
    ∀ path ∈ requiredNodePaths payload, .str path ∈ paths
  exports : ∃ closure exports, field "retention_closure" payload = .dict closure ∧
    iterStrings ((lookup "required_exports" closure).getD (.list [])) = .ok exports ∧
    ∀ name ∈ C.retentionRequiredExports, name ∈ exports

variable {Γ C files Q}

/-- A node of a governed target without failures is bound. -/
theorem subjectBound_of_nodeFailures (hprofile : Q.profile = "production-candidate") {subjects : List Fields} {row node : Fields}
    {target sourceSha sourceRunId : String} (hlast : nodeOf subjects target = some node)
    (h : nodeFailures Γ C Q row target (bindingArtifactRefs Q.binding target) sourceSha sourceRunId node = .ok []) :
    SubjectBound Γ C Q subjects sourceSha sourceRunId row target node := by
  obtain ⟨id, hid, h⟩ := bind_ok_iff.1 h
  obtain ⟨_, h⟩ := guardError_bind_ok_iff.1 h
  obtain ⟨_, h⟩ := guardError_bind_ok_iff.1 h
  simp only [Except.ok.injEq, List.append_eq_nil_iff, failUnless_eq_nil, pyEq_str_iff, hprofile, decide_true, Bool.not_true,
    Bool.false_or, decide_eq_true_eq, Bool.or_eq_true, List.isEmpty_iff, List.any_eq_true] at h
  obtain ⟨⟨⟨⟨⟨⟨⟨⟨hsubject, hsha⟩, hrun⟩, hdefconfig⟩, hraw⟩, hrawBytes⟩, hcompressed⟩, hcompressedBytes⟩, hreleased⟩ := h
  exact ⟨hlast, ⟨id, hid, hsubject⟩, hsha, hrun, hdefconfig, hraw, hrawBytes, hcompressed, hcompressedBytes, hreleased⟩

/-- Under the profile of production releases no governed target is left out. -/
theorem subjectBound_of_rowFailures (hprofile : Q.profile = "production-candidate") {subjects : List Fields} {row : Fields}
    {target sourceSha sourceRunId : String} (hrow : Governed Γ C Q row target)
    (h : rowFailures Γ C Q false subjects sourceSha sourceRunId row = .ok []) :
    ∃ node, SubjectBound Γ C Q subjects sourceSha sourceRunId row target node := by
  obtain ⟨_, hnamed, rfl, hgoverned⟩ := hrow
  unfold rowFailures at h
  simp only [hnamed, hgoverned, Bool.not_true, Bool.or_self, Bool.false_and, Bool.false_eq_true, if_false] at h
  split at h
  · cases h
  · next node hnode => exact ⟨node, subjectBound_of_nodeFailures hprofile hnode h⟩

/-- A file without failures is bound. -/
theorem fileBound_of_fileFailures {nodePath : String} {actual : PosixPath} {item : Fields}
    (h : fileFailures Γ files Q nodePath actual item = []) : FileBound Γ files item actual := by
  unfold fileFailures at h
  split at h
  · cases h
  · next bytes hbytes =>
    obtain ⟨hfile, hne⟩ := Option.filter_eq_some_iff.1 hbytes
    split_ifs at h with hsha hsize hsize
    · simp only [List.append_eq_nil_iff, failUnless_eq_nil, pyEq_str_iff, decide_eq_true_eq] at h
      exact ⟨bytes, hfile, by simpa using hne, h.1, h.2⟩
    all_goals simp at h

/-- A node of evidence without failures is bound. -/
theorem nodeBound_of_evidenceNodeFailures (hprofile : Q.profile = "production-candidate") {payload item : Fields}
    {subjects : List Fields} {nodePath nodeId : String} (hid : nodeId? item = some nodeId)
    (h : evidenceNodeFailures Γ files Q payload subjects nodePath nodeId item = .ok []) :
    NodeBound Γ files Q payload subjects item := by
  obtain ⟨_, h⟩ := guardError_bind_ok_iff.1 h
  obtain ⟨found, hfound, h⟩ := bind_ok_iff.1 h
  simp only [Except.ok.injEq, List.append_eq_nil_iff, failUnless_eq_nil, List.any_eq_true, List.flatMap_eq_nil_iff,
    Bool.and_eq_true, Bool.not_eq_true'] at h
  obtain ⟨⟨⟨⟨node, hnode, hsubject⟩, hedge⟩, hnamed⟩, rfl⟩ := h
  obtain ⟨subjectId, hnodeId, hitem⟩ := (Option.any_eq_true _ _).1 hsubject
  rw [pyEq_str_iff] at hitem
  rw [hitem] at hedge
  unfold pathFailures at hfound
  split at hfound
  · cases hfound
  · next rel hrel =>
    obtain ⟨_, hfound⟩ := guardError_bind_ok_iff.1 hfound
    simp only [hprofile, decide_true, Bool.true_and, Except.ok.injEq, List.append_eq_nil_iff, failUnless_eq_nil, Bool.or_eq_true,
      Bool.not_eq_true'] at hfound
    obtain ⟨⟨hsha, hsize⟩, hfile⟩ := hfound
    refine ⟨⟨node, hnode, subjectId, nodeId, asStr_eq_some.1 hnodeId, hitem, hid, hedge⟩, hnamed, ⟨rel, hrel, ?_⟩, ?_⟩
    · intro root hroot hcheck hrequired
      simp only [hroot, hcheck, hrequired, Bool.and_self, if_true] at hfile
      exact fileBound_of_fileFailures hfile
    · intro hrole
      exact ⟨hsha.resolve_left (by simp [hrole]), hsize.resolve_left (by simp [hrole])⟩

/-- The nodes of evidence without failures are bound, and their ids differ from each other and from the ones before them. -/
theorem nodeBound_of_evidenceFailures (hprofile : Q.profile = "production-candidate") {payload : Fields} {subjects : List Fields} :
    ∀ {items : List Fields} {seen : List String} {idx : Nat}, evidenceFailures Γ files Q payload subjects seen idx items = .ok [] →
      (∀ item ∈ items, NodeBound Γ files Q payload subjects item) ∧ (items.map nodeId?).Nodup ∧
        ∀ id ∈ seen, some id ∉ items.map nodeId?
  | [], _, _, _ => by simp
  | item :: items, seen, idx, h => by
    unfold evidenceFailures at h
    simp only at h
    split at h
    · obtain ⟨_, _, h⟩ := bind_ok_iff.1 h
      cases h
    · next nodeId hid =>
      obtain ⟨here, hhere, h⟩ := bind_ok_iff.1 h
      obtain ⟨rest, hrest, h⟩ := bind_ok_iff.1 h
      simp only [Except.ok.injEq, List.append_eq_nil_iff, failUnless_eq_nil, Bool.not_eq_true', List.contains_eq_mem,
        decide_eq_false_iff_not] at h
      obtain ⟨⟨hnew, rfl⟩, rfl⟩ := h
      obtain ⟨hbound, hnodup, hseen⟩ := nodeBound_of_evidenceFailures hprofile hrest
      refine ⟨List.forall_mem_cons.2 ⟨nodeBound_of_evidenceNodeFailures hprofile hid hhere, hbound⟩, ?_, ?_⟩
      · rw [List.map_cons, hid, List.nodup_cons]
        exact ⟨hseen nodeId List.mem_cons_self, hnodup⟩
      · intro id hidSeen hmem
        rw [List.map_cons, hid, List.mem_cons] at hmem
        rcases hmem with heq | hmem
        · exact hnew (Option.some.inj heq ▸ hidSeen)
        · exact hseen id (List.mem_cons_of_mem _ hidSeen) hmem

/-- What an accepted graph lists as required are the paths of its required nodes, at least. -/
theorem requiredPaths_of_failures {payload : Fields} (h : requiredPathFailures Q payload = []) :
    ∃ paths, field "required_paths" payload = .list paths ∧ ∀ path ∈ requiredNodePaths payload, .str path ∈ paths := by
  unfold requiredPathFailures at h
  split at h
  · next path paths hpaths =>
    refine ⟨path :: paths, hpaths, fun p hp => ?_⟩
    rw [failUnless_eq_nil, List.isEmpty_iff, sortedDiff_eq_nil] at h
    obtain ⟨item, hitem, hstr⟩ := List.mem_filterMap.1 (h p hp)
    rwa [← asStr_eq_some.1 hstr]
  · cases h

/-- An accepted graph retains every export that the contract requires. -/
theorem exports_of_retentionFailures {payload : Fields} (h : retentionFailures C Q payload = .ok []) :
    ∃ closure exports, field "retention_closure" payload = .dict closure ∧
      iterStrings ((lookup "required_exports" closure).getD (.list [])) = .ok exports ∧
      ∀ name ∈ C.retentionRequiredExports, name ∈ exports := by
  unfold retentionFailures at h
  split at h
  · next closure hclosure =>
    obtain ⟨exports, hexports, h⟩ := bind_ok_iff.1 h
    rw [Except.ok.injEq, failUnless_eq_nil, List.isEmpty_iff, sortedDiff_eq_nil] at h
    exact ⟨closure, exports, hclosure, hexports, h⟩
  · cases h

/-- The subjects of an accepted graph close over the governed targets and over its nodes. -/
theorem closed_of_subjectFailures (hprofile : Q.profile = "production-candidate") {payload : Fields} {subjects : List Fields}
    {sourceSha sourceRunId : String} (h : subjectFailures Γ C files Q payload sourceSha sourceRunId subjects = .ok []) :
    Closed Γ C files Q payload subjects sourceSha sourceRunId := by
  obtain ⟨policy, hpolicy, h⟩ := bind_ok_iff.1 h
  obtain ⟨rows, hrows, h⟩ := bind_ok_iff.1 h
  obtain ⟨closure, hclosure, h⟩ := bind_ok_iff.1 h
  obtain ⟨hrowsNil, rfl⟩ := List.append_eq_nil_iff.1 (Except.ok.inj h)
  obtain ⟨policy', hlookup, hproduction, _⟩ := C.production_profile
  obtain rfl : policy' = policy := by
    rw [Contract.profilePolicy, orError_ok_iff, hprofile, hlookup] at hpolicy
    exact Option.some.inj hpolicy
  rw [hproduction, Bool.not_true, Bool.and_false] at hrows
  unfold closureFailures at hclosure
  split_ifs at hclosure with hnone
  · cases hclosure
  obtain ⟨nodes, hnodes, hclosure⟩ := bind_ok_iff.1 hclosure
  obtain ⟨retention, hretention, hclosure⟩ := bind_ok_iff.1 hclosure
  simp only [Except.ok.injEq, List.append_eq_nil_iff] at hclosure
  obtain ⟨⟨⟨_, rfl⟩, hpaths⟩, rfl⟩ := hclosure
  obtain ⟨hbound, hnodup, _⟩ := nodeBound_of_evidenceFailures hprofile hnodes
  refine ⟨?_, hbound, hnodup, requiredPaths_of_failures hpaths, exports_of_retentionFailures hretention⟩
  intro row target hrow
  have hmem : row ∈ Q.matrix.filterMap asDict := List.mem_filterMap.2 ⟨_, hrow.row_mem, rfl⟩
  exact subjectBound_of_rowFailures hprofile hrow (mapM_flatten_eq_nil hrows hrowsNil row hmem)

end Validator

/-! ## What an accepted graph may leave out -/

/-- A graph has a required node for every export that the plan of a target requires, at the planned path. -/
def HasPlannedNodes (payload : Fields) (plan : SubjectPlan) : Prop :=
  ∀ node ∈ plan.evidenceNodes, node.required = true → ∃ item ∈ evidenceNodes payload,
    field "subject_id" item = .str plan.subjectId ∧ field "role" item = .str node.role ∧
      (field "required" item).isTrue = true ∧ field "path" item = .str node.path

/-- A target has one subject node. -/
def HasOneSubject (subjects : List Fields) (target : String) : Prop :=
  (subjects.filter fun node => (field "target" node).pyEq (.str target)).length = 1

def samplePython : Python where
  sha256 := fun _ => []
  loads := JsonText.read
  repr := fun _ => ""

def sampleSha : String := "0123456789abcdef0123456789abcdef01234567"

def sampleDigest : String := "e3b0c44298fc1c149afbf4c8996fb92427ae41e4649b934ca495991b7852b855"

/-- The subject of the target that the sample binds. -/
def sampleSubject : Value :=
  .dict [("target", .str "x86_64"), ("subject_id", .str ("suderra-release:2.0.0:x86_64:" ++ sampleSha ++ ":7")),
    ("source_sha", .str sampleSha), ("source_run_id", .str "7"), ("raw_image_sha256", .str sampleDigest), ("raw_image_bytes", .int 7),
    ("compressed_artifact_sha256", .str sampleDigest), ("compressed_artifact_bytes", .int 7)]

/-- The only node of evidence in the sample: it belongs to the other subject of the target. -/
def sampleNode : Value :=
  .dict [("node_id", .str "other:log"), ("subject_id", .str "other"), ("role", .str "log"), ("schema_role", .str "log"),
    ("schema_version", .str "v1"), ("producer", .str "operator"), ("path", .str "log.txt")]

def sampleGraph : Fields :=
  [("schema_version", .str "suderra.release-subject-graph.v1"),
    ("subjects", .list [.dict [("target", .str "x86_64"), ("subject_id", .str "other")], sampleSubject]),
    ("evidence_nodes", .list [sampleNode]),
    ("evidence_edges", .list [.dict [("from", .str "other"), ("to", .str "other:log")]]),
    ("required_paths", .list [.str "log.txt"]),
    ("retention_closure", .dict [("required_exports", .list (evidenceContract.retentionRequiredExports.map .str))])]

/-- The text of the sample graph; there is no other file. -/
def sampleFiles : Files := fun path =>
  if path = ⟨"/", ["graph.json"]⟩ then
    some (Utf8.encode (String.ofList (JsonText.write (JsonText.compact fun _ => []) 0 (.dict sampleGraph))))
  else none

def sampleQuery : Query where
  path := ⟨"/", ["graph.json"]⟩
  version := "2.0.0"
  profile := "production-candidate"
  sourceSha := some sampleSha
  sourceRunId := some "7"
  matrix := [.dict [("name", .str "suderra_x86_64_defconfig"), ("target", .str "x86_64")]]
  binding := none
  root := some ⟨"/", ["evidence"]⟩
  checkFiles := true

theorem sample_read : readJson samplePython sampleFiles sampleQuery.path = .ok (some (.dict sampleGraph)) :=
  readJson_write (JsonText.compact_lawful _) (JsonText.compact_noReturn _) (by decide) rfl (if_pos rfl)

theorem sample_accepted : validateSubjectGraph samplePython evidenceContract sampleFiles sampleQuery = .ok [] := by
  have hgraph : graphFailures samplePython evidenceContract sampleFiles sampleQuery sampleGraph = .ok [] := by decide +kernel
  exact bind_ok_iff.2 ⟨_, sample_read, hgraph⟩

/-- The plan of the target of the sample. -/
def samplePlan : Except String SubjectPlan :=
  subjectPlan evidenceContract "2.0.0" "production-candidate" "x86_64" sampleSha "7" sampleQuery.matrix
    ⟨some sampleDigest, some 7, some sampleDigest, some 7⟩

end SuderraOs.Evidence.SubjectGraph
