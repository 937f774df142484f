import SuderraOs.Evidence.ReleaseInputs
import SuderraOs.Evidence.SourceIdentity
import SuderraOs.Lib.Sha256
import SuderraOs.Publish.ArtifactBindings

/-!
# The build evidence that a release binds

`validate_binding` of `validate-release-inputs.py`: the manifest that binds a release to the files of its build. Which file a record
stands for is told by its defconfig and its artifact, and which check the file has to pass by its role, and nothing ties the two to each
other. The warnings and the identity of the source are those that an accepted binding promises exactly when the records that are found
under their names with another role hold such files as well (`checked_iff`).
-/

namespace SuderraOs.Publish.BuildEvidence

open Value Evidence OperatorIngress BuildrootIdentity Staged Bindings

/-- What the script asks of git as well: what it writes for some arguments, or what `git_output` raises. -/
structure Tools extends toIdentity : BuildrootIdentity.Libraries where
  gitOutput : List String → Except String String

/-- The arguments of the script. -/
structure Args where
  version : String
  profile : String
  matrix : PosixPath
  sourceSha : Option String
  sourceRunId : Option String
  sourceRunAttempt : Option String
  buildWorkflowName : String
  buildWorkflowPath : String
  artifactRoot : Option PosixPath

/-- `BUILDROOT_IDENTITY_SCHEMA_FIELD`. -/
def identitySchemaField : String := "buildroot_source_identity_schema_version"

/-- The fields of an identity that a binding has under the same names. -/
def identityFields : List String :=
  ["buildroot_index_sha", "buildroot_upstream_ref", "buildroot_source_mode", "buildroot_patchset_sha256", "buildroot_patch_files",
    "buildroot_effective_source_id", "buildroot_expected_patched", "buildroot_rust_version", "buildroot_rust_bin_version",
    "buildroot_expected_diff_sha256", "buildroot_staged_diff_sha256", "buildroot_applied_diff_sha256", "buildroot_worktree_diff_sha256",
    "suderra_source_sha", "suderra_external_tree_sha256", "suderra_external_dirty_paths", "suderra_release_source_id"]

/-- The fields of an identity beside those of the binding that they have to agree with. -/
def fieldPairs : List (String × String) := ("schema_version", identitySchemaField) :: identityFields.map fun name => (name, name)

/-- `buildroot_identity_payload_from_binding`. -/
def identityPayload (binding : Fields) : Fields :=
  fieldPairs.filterMap fun p => (lookup p.2 binding).map fun v => (p.1, v)

/-- `compare_buildroot_identity_to_binding`. -/
def compareIdentityToBinding (payload binding : Fields) (path : PosixPath) : List String :=
  fieldPairs.flatMap fun p =>
    failUnless s!"{path}: {p.1} must match release input binding" ((field p.1 payload).pyEq (field p.2 binding))

section Validator

variable (L : Tools) (files : Files) (A : Args) (binding : Fields)

/-! ## What a binding says of itself -/

/-- `int(str(value))`, and nothing where it raises. -/
def attempt (v : Value) : Int := (PyText.parseInt L.unicode (v.pyStr L.repr).toList).getD 0

/-- The failures of the run that a binding is about. -/
def runFailures : List String :=
  failUnless "binding version must match requested version" ((field "version" binding).pyEq (.str A.version)) ++
  failUnless "binding profile must match requested profile" ((field "profile" binding).pyEq (.str A.profile)) ++
  expectText "binding source_sha must match --source-sha" (field "source_sha" binding) A.sourceSha ++
  ReleaseInputs.expectRunId L.toPython "binding source_run_id must match --source-run-id" (field "source_run_id" binding) A.sourceRunId ++
  failUnless "binding source_run_attempt must be a positive run attempt" (0 < attempt L (field "source_run_attempt" binding)) ++
  ReleaseInputs.expectRunId L.toPython "binding source_run_attempt must match --source-run-attempt"
    (field "source_run_attempt" binding) A.sourceRunAttempt ++
  failUnless s!"binding build_workflow_name must be {A.buildWorkflowName}"
    ((field "build_workflow_name" binding).pyEq (.str A.buildWorkflowName)) ++
  failUnless s!"binding build_workflow_path must be {A.buildWorkflowPath}"
    ((field "build_workflow_path" binding).pyEq (.str A.buildWorkflowPath)) ++
  failUnless "binding source_sha must be a lowercase git commit sha" (isHexText 40 (field "source_sha" binding))

def matrixFailures : List String :=
  if isHexText 64 (field "matrix_sha256" binding) then
    failUnless "binding matrix_sha256 does not match current ci/build-matrix.yml"
      ((files A.matrix).all fun bytes => (field "matrix_sha256" binding).pyEq (.str (L.hexdigest bytes)))
  else ["binding matrix_sha256 must be a lowercase sha256"]

/-- The commit of Buildroot in the tree of a source. -/
def submoduleSha (sourceSha : String) : Except String String := do
  let line ← L.gitOutput ["ls-tree", sourceSha, "buildroot"]
  let sha ← orError "list index out of range" (PyText.splitSpace line.toList)[2]?
  .ok (String.ofList sha)

/-- The failures of the Buildroot of a binding. -/
def buildrootFailures : List String :=
  (match field "source_sha" binding with
    | .str sha =>
      if isHex 40 sha then
        match submoduleSha L sha with
        | .error exc => [s!"cannot resolve Buildroot submodule for binding source_sha: {exc}"]
        | .ok expected => failUnless "binding buildroot_index_sha does not match source_sha tree"
            ((field "buildroot_index_sha" binding).pyEq (.str expected))
      else []
    | _ => []) ++
  (match validateMetadataPayload L.toIdentity (identityPayload binding) with
    | .error exc => [s!"cannot validate binding Buildroot source identity: {exc}"]
    | .ok failures => failures.map fun failure => s!"binding Buildroot source identity: {failure}") ++
  ["userspace_cargo_lock_sha256", "userspace_rust_toolchain_sha256"].flatMap fun name =>
    failUnless s!"binding {name} must be a non-zero sha256" (isDigest (field name binding))

/-! ## The build matrix -/

/-- What the script makes of the build matrix: what it complains of, the release rows if it has any, and the expected artifacts. -/
structure MatrixContract where
  failures : List String
  rows : Option (List Fields)
  artifacts : Expected

def matrixContract (matrix : Except String Matrix) : MatrixContract :=
  match matrix with
  | .error exc => ⟨[s!"cannot load expected release artifact contract: {exc}"], none, []⟩
  | .ok M =>
    -- a row that is no object has no `get`
    if M.defconfigs.all fun row => row.asDict.isSome then
      match expectedReleaseArtifactMap L.toPython M with
      | .error exc => ⟨[s!"cannot load expected release artifact contract: {exc}"], some (Staged.releaseRows M), []⟩
      | .ok expected => ⟨[], some (Staged.releaseRows M), expected⟩
    else ⟨["cannot load expected release artifact contract: AttributeError"], none, []⟩

def warningsName (defconfig : String) : String := s!"build-logs/{defconfig}.warnings.json"

def sourceIdentityName (defconfig : String) : String := s!"build-logs/{defconfig}.source-identity.json"

/-- The files of the build of a row. -/
def evidenceNames (defconfig : String) (prebuild : Bool) : List String :=
  [s!"build-logs/{defconfig}.log", warningsName defconfig, sourceIdentityName defconfig, s!"build-logs/{defconfig}.build-time.log",
    s!"build-logs/{defconfig}.build-performance.json"] ++
  if prebuild then
    [s!"build-logs/{defconfig}.payload-inputs.json", s!"build-logs/{defconfig}.payload-package.json",
      s!"build-logs/{defconfig}.usb-installer-base.json"]
  else []

/-- `expected_build_evidence`. -/
def expectedBuildEvidence (rows : List Fields) : Except String (List Key) := do
  let keys ← rows.mapM fun row => do
    let defconfig ← rowText L.toPython "name" row
    .ok ((evidenceNames defconfig (field "prebuild_defconfigs" row).truthy).map fun artifact => (defconfig, artifact))
  .ok keys.flatten

/-! ## Records of files -/

/-- Whether a value is the text of a relative path that was filled in. -/
def isSafePath (v : Value) : Bool := (relativePath v).isSome && !isPlaceholder SubjectGraph.placeholderValues v

/-- The failures of the file of a record, and of what it holds once it is known to be the file that is bound. -/
def fileFailures (label : String) (record : Fields) (content : PosixPath → Except String (List String)) : Except String (List String) :=
  match A.artifactRoot, field "path" record with
  | some root, .str rel =>
    let path := root.join (PosixPath.ofString rel)
    match files path with
    | none => .ok [s!"{label} file missing: {path}"]
    | some bytes =>
      if (field "sha256" record).asStr.any (· ≠ L.hexdigest bytes) then .ok [s!"{label} sha mismatch: {path}"] else content path
  | _, _ => .ok []

/-- What a list of records is called and what its records are told apart by. -/
structure RecordKind where
  list : String
  noun : String
  first : String
  missing : String

def RecordKind.keyOf (kind : RecordKind) (record : Fields) : Key :=
  ((field kind.first record).pyStr L.repr, (field "artifact" record).pyStr L.repr)

/-- The expected keys that the loop has not seen. -/
def missingRecords (kind : RecordKind) (expected seen : List Key) : List String :=
  let missing := (expected.dedup.filter fun key => !seen.contains key).insertionSort fun a b => keyLe a b = true
  failUnless (s!"binding {kind.list} {kind.missing}: " ++ commaSeparated (missing.map fun key => s!"{key.1}:{key.2}")) missing.isEmpty

/-- The loop over the records and what follows it. -/
def checkRecords (kind : RecordKind) (expected : List Key) (check : Key → Fields → Except String (List String)) :
    Nat → List Key → List Value → Except String (List String)
  | _, seen, [] => .ok (missingRecords kind expected seen)
  | index, seen, .dict record :: records => do
    let key := kind.keyOf L record
    let found ← check key record
    let rest ← checkRecords kind expected check (index + 1) (key :: seen) records
    .ok (failUnless s!"unexpected binding {kind.noun}: {key.1} {key.2}" (expected.isEmpty || expected.contains key) ++
      failUnless s!"duplicate binding {kind.noun}: {key.1} {key.2}" (!seen.contains key) ++ found ++ rest)
  | index, seen, _ :: records => do
    let rest ← checkRecords kind expected check (index + 1) seen records
    .ok (s!"binding {kind.list}[{index}] must be an object" :: rest)

/-- The failures of a list of records, which must have some. -/
def listFailures (kind : RecordKind) (expected : List Key) (check : Key → Fields → Except String (List String)) (records : Value) :
    Except String (List String) :=
  match records with
  | .list (record :: records) => checkRecords L kind expected check 0 [] (record :: records)
  | _ => .ok [s!"binding {kind.list} must be a non-empty list"]

/-! ## Build evidence -/

def buildEvidence : RecordKind where
  list := "build_evidence"
  noun := "build evidence"
  first := "defconfig"
  missing := "missing matrix-required files"

def roles : List String :=
  ["build-log", "warning-classifier-evidence", "buildroot-source-identity", "build-time-log", "build-performance", "payload-inputs",
    "payload-package", "usb-installer-base"]

/-- The failures of a summary of warnings. -/
def warningsFailures (path : PosixPath) : Option Value → List String
  | some (.dict payload) =>
    (match field "summary" payload with
      | .dict summary =>
        failUnless s!"warning evidence owned count must be 0: {path}" ((field "owned" summary).pyEq (.int 0)) ++
          failUnless s!"warning evidence third-party count must be 0: {path}" ((field "third-party" summary).pyEq (.int 0))
      | _ => [s!"warning evidence summary must be an object: {path}"]) ++
    ["failing", "policy_errors"].flatMap fun name =>
      failUnless s!"warning evidence {name} must be empty: {path}" ((field name payload).pyEq (.list []))
  | _ => [s!"warning evidence must be JSON: {path}"]

/-- The failures of the identity of a source. -/
def sourceIdentityFailures (path : PosixPath) : Option Value → List String
  | some (.dict payload) =>
    match validateMetadataPayload L.toIdentity payload with
    | .error exc => [s!"cannot validate Buildroot source identity {path}: {exc}"]
    | .ok failures => (failures.map fun failure => s!"{path}: {failure}") ++ compareIdentityToBinding payload binding path
  | _ => [s!"Buildroot source identity must be JSON: {path}"]

/-- The fields of a document, if it is one of the schema. -/
def ofSchema (schema : String) (payload : Option Value) : Option Fields :=
  (payload.bind asDict).filter fun fields => (field "schema_version" fields).pyEq (.str schema)

def performanceFailures (path : PosixPath) (payload : Option Value) : List String :=
  match ofSchema "suderra.buildroot-build-performance.v1" payload with
  | none => [s!"build performance evidence must be v1 JSON: {path}"]
  | some fields => failUnless s!"build performance timing must be collected: {path}"
      ((field "timing" fields).asDict.any fun timing => (field "status" timing).pyEq (.str "collected"))

def payloadPackageFailures (path : PosixPath) (payload : Option Value) : List String :=
  match ofSchema "suderra.usb-installer-payload-package.v1" payload with
  | none => [s!"payload package evidence must be v1 JSON: {path}"]
  | some fields => ["base_manifest_sha256", "payload_inputs_sha256"].flatMap fun name =>
      failUnless s!"payload package evidence {name} must be sha256: {path}" (isHexText 64 (field name fields))

def payloadInputsFailures (path : PosixPath) (payload : Option Value) : List String :=
  failUnless s!"payload inputs evidence must be v1 JSON: {path}" (ofSchema "suderra.payload-inputs.v1" payload).isSome

def installerBaseFailures (path : PosixPath) (payload : Option Value) : List String :=
  failUnless s!"USB installer base evidence must be v1 JSON: {path}" (ofSchema "suderra.usb-installer-base.v1" payload).isSome

/-- The check that a role asks of the document in a file; the logs have none. -/
def contentCheck (role : Value) : Option (PosixPath → Option Value → List String) :=
  if role.pyEq (.str "warning-classifier-evidence") then some warningsFailures
  else if role.pyEq (.str "buildroot-source-identity") then some (sourceIdentityFailures L binding)
  else if role.pyEq (.str "build-performance") then some performanceFailures
  else if role.pyEq (.str "payload-package") then some payloadPackageFailures
  else if role.pyEq (.str "payload-inputs") then some payloadInputsFailures
  else if role.pyEq (.str "usb-installer-base") then some installerBaseFailures
  else none

def contentFailures (role : Value) (path : PosixPath) : Except String (List String) :=
  match contentCheck L binding role with
  | none => .ok []
  | some check => do
    let payload ← readJson L.toPython files path
    .ok (check path payload)

/-- The failures of a record of build evidence. A role that cannot be hashed raises. -/
def evidenceFailures (key : Key) (record : Fields) : Except String (List String) := do
  let role := field "role" record
  guardError "TypeError" role.isHashable
  let found ← fileFailures L files A "binding build evidence" record (contentFailures L files binding role)
  .ok (failUnless s!"binding build evidence {key.1} {key.2} has invalid role" (role.isIn (roles.map .str)) ++
    (if isHexText 64 (field "sha256" record) then
      failUnless s!"binding build evidence {key.1} {key.2} must not use all-zero sha256" (isDigest (field "sha256" record))
    else [s!"binding build evidence {key.1} {key.2} has invalid sha256"]) ++
    failUnless s!"binding build evidence {key.1} {key.2} must have positive byte size" (isIntFrom 1 (field "bytes" record)) ++
    failUnless s!"binding build evidence {key.1} {key.2} path must be a relative non-placeholder path" (isSafePath (field "path" record)) ++
    found)

/-! ## Installers -/

def installers : RecordKind where
  list := "installers"
  noun := "installer artifact"
  first := "arch"
  missing := "missing required files"

def expectedInstallers : List Key :=
  [("x86_64", "suderra-installer-x86_64"), ("x86_64", "suderra-installer-x86_64.sha256"), ("aarch64", "suderra-installer-aarch64"),
    ("aarch64", "suderra-installer-aarch64.sha256")]

def installerFailures (key : Key) (record : Fields) : Except String (List String) := do
  let role := field "role" record
  guardError "TypeError" role.isHashable
  let found ← fileFailures L files A "binding installer" record fun _ => .ok []
  .ok (failUnless s!"binding installer {key.1} {key.2} has invalid role" (role.isIn [.str "installer", .str "checksum"]) ++
    failUnless s!"binding installer {key.1} {key.2} must have a non-zero sha256" (isDigest (field "sha256" record)) ++
    failUnless s!"binding installer {key.1} {key.2} must have positive byte size" (isIntFrom 1 (field "bytes" record)) ++
    failUnless s!"binding installer {key.1} {key.2} path must be a relative non-placeholder path" (isSafePath (field "path" record)) ++
    found)

/-! ## The contract of the image build -/

def imageContractFailures : Except String (List String) :=
  match field "image_build_contract" binding with
  | .dict contract => do
    let found ← fileFailures L files A "image build contract" contract fun _ => .ok []
    .ok (failUnless "binding image_build_contract role must be image-build-contract"
        ((field "role" contract).pyEq (.str "image-build-contract")) ++
      failUnless "binding image_build_contract must have a non-zero sha256" (isDigest (field "sha256" contract)) ++
      failUnless "binding image_build_contract must have positive byte size" (isIntFrom 1 (field "bytes" contract)) ++
      failUnless "binding image_build_contract path must be relative and non-placeholder" (isSafePath (field "path" contract)) ++ found)
  | _ => .ok ["binding image_build_contract must be an object"]

/-- The files under the root, for the loop over the artifacts. -/
def store : Store where
  artifactRoot := A.artifactRoot
  isFile := fun path => (files path).isSome
  fileHasher := some fun path => L.hexdigest ((files path).getD [])

/-- `validate_binding` for a binding that is there, and a matrix as `load_matrix` has it. -/
def validateBinding (matrix : Except String Matrix) : Except String (List String) := do
  let contract := matrixContract L matrix
  let expected ← expectedBuildEvidence L (contract.rows.getD [])
  let evidence ← listFailures L buildEvidence expected (evidenceFailures L files A binding) (field "build_evidence" binding)
  let installers ← listFailures L installers expectedInstallers (installerFailures L files A) (field "installers" binding)
  let image ← imageContractFailures L files A binding
  .ok (runFailures L A binding ++ matrixFailures L files A binding ++ buildrootFailures L binding ++ contract.failures ++
    validateReleaseArtifactBindings L.toPython (store L files A) contract.artifacts (field "artifacts" binding) ++
    evidence ++ installers ++ image)

end Validator

/-! ## What a binding promises -/

section
variable (L : Tools) (files : Files) (binding : Fields)

/-- A record with this role binds the file at a path under a key. -/
def BoundAs (root : PosixPath) (key : Key) (role : Value) (path : PosixPath) : Prop :=
  ∃ records record rel, field "build_evidence" binding = .list records ∧ .dict record ∈ records ∧ buildEvidence.keyOf L record = key ∧
    field "role" record = role ∧ field "path" record = .str rel ∧ path = root.join (PosixPath.ofString rel)

/-- The file is a summary without warnings. -/
def CleanWarnings (path : PosixPath) : Prop :=
  ∃ payload summary, readJson L.toPython files path = .ok (some (.dict payload)) ∧ field "summary" payload = .dict summary ∧
    (field "owned" summary).pyEq (.int 0) = true ∧ (field "third-party" summary).pyEq (.int 0) = true ∧
    (field "failing" payload).pyEq (.list []) = true ∧ (field "policy_errors" payload).pyEq (.list []) = true

/-- The file is an accepted identity, the one of the binding. -/
def SameIdentity (path : PosixPath) : Prop :=
  ∃ payload, readJson L.toPython files path = .ok (some (.dict payload)) ∧ validateMetadataPayload L.toIdentity payload = .ok [] ∧
    ∀ p ∈ fieldPairs, (field p.1 payload).pyEq (field p.2 binding) = true

/-- The files that are bound as the warnings and as the identity of a defconfig are there and are what they are bound as. -/
structure Promised (root : PosixPath) (defconfig : String) : Prop where
  has_warnings : ∃ role path, BoundAs L binding root (defconfig, warningsName defconfig) role path
  has_identity : ∃ role path, BoundAs L binding root (defconfig, sourceIdentityName defconfig) role path
  warnings : ∀ role path, BoundAs L binding root (defconfig, warningsName defconfig) role path → CleanWarnings L files path
  identity : ∀ role path, BoundAs L binding root (defconfig, sourceIdentityName defconfig) role path → SameIdentity L files binding path

/-- The same of the files whose records have another role than the one of their name. -/
structure OtherRoles (root : PosixPath) (defconfig : String) : Prop where
  warnings : ∀ role path, BoundAs L binding root (defconfig, warningsName defconfig) role path →
    role.pyEq (.str "warning-classifier-evidence") = false → CleanWarnings L files path
  identity : ∀ role path, BoundAs L binding root (defconfig, sourceIdentityName defconfig) role path →
    role.pyEq (.str "buildroot-source-identity") = false → SameIdentity L files binding path

end

section
variable {L : Tools} {files : Files} {A : Args} {binding : Fields}

/-- The records of a list that is accepted are accepted one by one, and every expected key is among them. -/
theorem records_of_checkRecords {kind : RecordKind} {expected : List Key} {check : Key → Fields → Except String (List String)}
    {items : List Value} {index : Nat} {seen : List Key} (h : checkRecords L kind expected check index seen items = .ok []) :
    (∀ item ∈ items, ∃ record, item = .dict record ∧ check (kind.keyOf L record) record = .ok []) ∧
      ∀ key ∈ expected, (∃ record, .dict record ∈ items ∧ kind.keyOf L record = key) ∨ key ∈ seen := by
  induction items generalizing index seen with
  | nil =>
    refine ⟨by simp, fun key hkey => Or.inr ?_⟩
    simp only [checkRecords, missingRecords, Except.ok.injEq, failUnless_eq_nil, List.isEmpty_iff] at h
    by_contra hseen
    have hmem : key ∈ (expected.dedup.filter fun key => !seen.contains key).insertionSort fun a b => keyLe a b = true := by
      rw [List.mem_insertionSort, List.mem_filter, List.mem_dedup]
      exact ⟨hkey, by simpa using hseen⟩
    rw [h] at hmem
    cases hmem
  | cons item items ih =>
    cases item with
    | dict record =>
      simp only [checkRecords] at h
      obtain ⟨found, hfound, h⟩ := bind_ok_iff.1 h
      obtain ⟨rest, hrest, h⟩ := bind_ok_iff.1 h
      simp only [Except.ok.injEq, List.append_eq_nil_iff] at h
      obtain ⟨⟨⟨_, _⟩, rfl⟩, rfl⟩ := h
      obtain ⟨hall, hkeys⟩ := ih hrest
      refine ⟨List.forall_mem_cons.2 ⟨⟨record, rfl, hfound⟩, hall⟩, fun key hkey => ?_⟩
      rcases hkeys key hkey with ⟨other, hother, heq⟩ | hseen
      · exact Or.inl ⟨other, List.mem_cons_of_mem _ hother, heq⟩
      · rcases List.mem_cons.1 hseen with rfl | hseen
        · exact Or.inl ⟨record, List.mem_cons_self, rfl⟩
        · exact Or.inr hseen
    | _ =>
      simp only [checkRecords] at h
      obtain ⟨rest, _, h⟩ := bind_ok_iff.1 h
      cases h

theorem records_of_listFailures {kind : RecordKind} {expected : List Key} {check : Key → Fields → Except String (List String)}
    {value : Value} (h : listFailures L kind expected check value = .ok []) : ∃ items, value = .list items ∧
      (∀ item ∈ items, ∃ record, item = .dict record ∧ check (kind.keyOf L record) record = .ok []) ∧
      ∀ key ∈ expected, ∃ record, .dict record ∈ items ∧ kind.keyOf L record = key := by
  unfold listFailures at h
  split at h
  · obtain ⟨hall, hkeys⟩ := records_of_checkRecords h
    exact ⟨_, rfl, hall, fun key hkey => (hkeys key hkey).resolve_right List.not_mem_nil⟩
  · cases h

/-- The file of an accepted record is there, and passes the check of its role. -/
theorem file_of_evidenceFailures {root : PosixPath} (hroot : A.artifactRoot = some root) {key : Key} {record : Fields}
    (h : evidenceFailures L files A binding key record = .ok []) : ∃ rel, field "path" record = .str rel ∧
      contentFailures L files binding (field "role" record) (root.join (PosixPath.ofString rel)) = .ok [] := by
  simp only [evidenceFailures, guardError_bind_ok_iff] at h
  obtain ⟨found, hfound, h⟩ := bind_ok_iff.1 h.2
  simp only [Except.ok.injEq, List.append_eq_nil_iff, failUnless_eq_nil] at h
  obtain ⟨⟨_, hpath⟩, rfl⟩ := h
  obtain ⟨rel, hrel⟩ : ∃ rel, field "path" record = .str rel := by
    cases hfield : field "path" record with
    | str rel => exact ⟨rel, rfl⟩
    | _ => simp [hfield, isSafePath, relativePath, asStr] at hpath
  refine ⟨rel, hrel, ?_⟩
  simp only [fileFailures, hroot, hrel] at hfound
  split at hfound
  · cases hfound
  · split at hfound
    · cases hfound
    · exact hfound

/-- A summary that passes its check has no warnings. -/
theorem cleanWarnings_of_contentFailures {role : Value} {path : PosixPath} (hrole : role.pyEq (.str "warning-classifier-evidence") = true)
    (h : contentFailures L files binding role path = .ok []) : CleanWarnings L files path := by
  simp only [contentFailures, contentCheck, if_pos hrole] at h
  obtain ⟨payload, hread, h⟩ := bind_ok_iff.1 h
  rw [Except.ok.injEq] at h
  unfold warningsFailures at h
  split at h
  · rename_i fields
    simp only [List.append_eq_nil_iff, List.flatMap_cons, List.flatMap_nil, failUnless_eq_nil] at h
    obtain ⟨hsummary, hfailing, hpolicy, _⟩ := h
    split at hsummary
    · rename_i summary heq
      simp only [List.append_eq_nil_iff, failUnless_eq_nil] at hsummary
      exact ⟨fields, summary, hread, heq, hsummary.1, hsummary.2, hfailing, hpolicy⟩
    · cases hsummary
  · cases h

/-- An identity that passes its check is the one of the binding. -/
theorem sameIdentity_of_contentFailures {role : Value} {path : PosixPath} (hrole : role.pyEq (.str "buildroot-source-identity") = true)
    (h : contentFailures L files binding role path = .ok []) : SameIdentity L files binding path := by
  have hother : ¬role.pyEq (.str "warning-classifier-evidence") = true := by
    intro hwarning
    rw [pyEq_str_iff.1 hrole, pyEq_str_iff] at hwarning
    exact absurd (Value.str.inj hwarning) (by decide)
  simp only [contentFailures, contentCheck, if_neg hother, if_pos hrole] at h
  obtain ⟨payload, hread, h⟩ := bind_ok_iff.1 h
  rw [Except.ok.injEq] at h
  unfold sourceIdentityFailures at h
  split at h
  · rename_i fields
    split at h
    · cases h
    · rename_i failures hvalidate
      simp only [List.append_eq_nil_iff, List.map_eq_nil_iff, compareIdentityToBinding, List.flatMap_eq_nil_iff, failUnless_eq_nil] at h
      obtain ⟨rfl, hfields⟩ := h
      exact ⟨fields, hread, hvalidate, hfields⟩
  · cases h

/-- A matrix without failures was loaded, and its release rows are looked at. -/
theorem loaded_of_matrixContract {matrix : Except String Matrix} (h : (matrixContract L matrix).failures = []) :
    ∃ M, matrix = .ok M ∧ (matrixContract L matrix).rows = some (Staged.releaseRows M) := by
  cases matrix with
  | error exc => cases h
  | ok M =>
    refine ⟨M, rfl, ?_⟩
    unfold matrixContract at h ⊢
    simp only at h ⊢
    split
    · rename_i hrows
      rw [if_pos hrows] at h
      split
      · rfl
      · rfl
    · rename_i hrows
      rw [if_neg hrows] at h
      cases h

/-- The warnings and the identity of every row are expected. -/
theorem expected_of_expectedBuildEvidence {rows : List Fields} {expected : List Key} (h : expectedBuildEvidence L rows = .ok expected) :
    ∀ row ∈ rows, ∃ defconfig, rowText L.toPython "name" row = .ok defconfig ∧ (defconfig, warningsName defconfig) ∈ expected ∧
      (defconfig, sourceIdentityName defconfig) ∈ expected := by
  intro row hrow
  obtain ⟨keys, hkeys, h⟩ := bind_ok_iff.1 h
  cases h
  obtain ⟨own, hown, hname⟩ := mapM_ok_left hkeys row hrow
  obtain ⟨defconfig, hdefconfig, hname⟩ := bind_ok_iff.1 hname
  cases hname
  refine ⟨defconfig, hdefconfig, ?_, ?_⟩
  · exact List.mem_flatten.2 ⟨_, hown, List.mem_map.2 ⟨warningsName defconfig, by simp [evidenceNames], rfl⟩⟩
  · exact List.mem_flatten.2 ⟨_, hown, List.mem_map.2 ⟨sourceIdentityName defconfig, by simp [evidenceNames], rfl⟩⟩

/-- What an accepted binding promises of its warnings and of its source holds exactly when the records that are found under their names
with another role bind such files as well. -/
theorem checked_iff {matrix : Except String Matrix} {root : PosixPath} (hroot : A.artifactRoot = some root)
    (h : validateBinding L files A binding matrix = .ok []) : ∃ M, matrix = .ok M ∧
      ((∀ row ∈ Staged.releaseRows M, ∃ defconfig, rowText L.toPython "name" row = .ok defconfig ∧ Promised L files binding root defconfig) ↔
        ∀ row ∈ Staged.releaseRows M, ∃ defconfig, rowText L.toPython "name" row = .ok defconfig ∧
          OtherRoles L files binding root defconfig) := by
  unfold validateBinding at h
  obtain ⟨expected, hexpected, h⟩ := bind_ok_iff.1 h
  obtain ⟨evidence, hevidence, h⟩ := bind_ok_iff.1 h
  obtain ⟨installers, _, h⟩ := bind_ok_iff.1 h
  obtain ⟨image, _, h⟩ := bind_ok_iff.1 h
  simp only [Except.ok.injEq, List.append_eq_nil_iff] at h
  obtain ⟨⟨⟨⟨⟨⟨⟨_, _⟩, _⟩, hmatrix⟩, _⟩, rfl⟩, _⟩, _⟩ := h
  obtain ⟨M, hM, hrows⟩ := loaded_of_matrixContract hmatrix
  rw [hrows, Option.getD_some] at hexpected
  obtain ⟨items, hitems, hall, hkeys⟩ := records_of_listFailures hevidence
  have hnames := expected_of_expectedBuildEvidence hexpected
  -- every record that is bound under a key passes the check of its role
  have hchecked : ∀ key role path, BoundAs L binding root key role path → contentFailures L files binding role path = .ok [] := by
    rintro key role path ⟨records, record, rel, hrecords, hrecord, rfl, rfl, hrel, rfl⟩
    rw [hitems, Value.list.injEq] at hrecords
    obtain ⟨fields, heq, hfields⟩ := hall (.dict record) (hrecords ▸ hrecord)
    rw [Value.dict.injEq] at heq
    subst heq
    obtain ⟨rel', hrel', hcontent⟩ := file_of_evidenceFailures hroot hfields
    rw [hrel, Value.str.injEq] at hrel'
    rw [hrel']
    exact hcontent
  have hbound : ∀ key ∈ expected, ∃ role path, BoundAs L binding root key role path := by
    intro key hkey
    obtain ⟨record, hrecord, hkeyOf⟩ := hkeys key hkey
    obtain ⟨fields, heq, hfields⟩ := hall (.dict record) hrecord
    rw [Value.dict.injEq] at heq
    subst heq
    obtain ⟨rel, hrel, _⟩ := file_of_evidenceFailures hroot hfields
    exact ⟨_, _, items, record, rel, hitems, hrecord, hkeyOf, rfl, hrel, rfl⟩
  refine ⟨M, hM, fun hpromised row hrow => ?_, fun hother row hrow => ?_⟩
  · obtain ⟨defconfig, hdefconfig, hholds⟩ := hpromised row hrow
    exact ⟨defconfig, hdefconfig, fun role path hpath _ => hholds.warnings role path hpath,
      fun role path hpath _ => hholds.identity role path hpath⟩
  · obtain ⟨defconfig, hdefconfig, hholds⟩ := hother row hrow
    obtain ⟨defconfig', hdefconfig', hwarnings, hidentity⟩ := hnames row hrow
    rw [hdefconfig, Except.ok.injEq] at hdefconfig'
    subst hdefconfig'
    refine ⟨defconfig, hdefconfig, hbound _ hwarnings, hbound _ hidentity, fun role path hpath => ?_, fun role path hpath => ?_⟩
    · cases hrole : role.pyEq (.str "warning-classifier-evidence") with
      | true => exact cleanWarnings_of_contentFailures hrole (hchecked _ _ _ hpath)
      | false => exact hholds.warnings role path hpath hrole
    · cases hrole : role.pyEq (.str "buildroot-source-identity") with
      | true => exact sameIdentity_of_contentFailures hrole (hchecked _ _ _ hpath)
      | false => exact hholds.identity role path hpath hrole

end

/-! ### A release with one image -/

section Sample

open ReleaseIngress (emptyListDigest ingressLibraries isHex_commit isHex_emptyList isHex_of_isDigest isHex_sourceSha)

def buildRoot : PosixPath := ⟨"/", ["build"]⟩

def buildArgs : Args where
  version := "v1.0.0-rc.1"
  profile := "release-candidate"
  matrix := ⟨"/", ["ci", "build-matrix.yml"]⟩
  sourceSha := some sampleArgs.sourceSha
  sourceRunId := some "7001"
  sourceRunAttempt := some "1"
  buildWorkflowName := "Image Build"
  buildWorkflowPath := ".github/workflows/image-build.yml"
  artifactRoot := some buildRoot

/-- A row of the build matrix. -/
def pcRow : Fields :=
  [("name", .str "pc"), ("target", .str "pc"), ("release", .bool true), ("expected_artifacts", .list [.str "disk.img.xz"])]

def pcMatrix : Matrix := ⟨[.dict pcRow], []⟩

def matrixBytes : Bytes :=
  ("defconfigs:\n  - name: pc\n    target: pc\n    release: true\n" ++
    "    expected_artifacts:\n      - disk.img.xz\n").toList.flatMap String.utf8EncodeChar

def logBytes : Bytes := [111, 107, 10]

/-- A summary with some warnings of the sources of Suderra OS. -/
def warningsPayload (owned : Int) : Fields :=
  [("summary", .dict [("owned", .int owned), ("third-party", .int 0)]), ("failing", .list []), ("policy_errors", .list [])]

def performancePayload : Fields :=
  [("schema_version", .str "suderra.buildroot-build-performance.v1"), ("timing", .dict [("status", .str "collected")])]

def effectiveDigest : String := "0d9329c35aeb3784ba1f174045508a9078222a2eeb9a7dd7924dba1175221953"

def releaseDigest : String := "f70121b8d2c7f61697554d806356d01896316bc85523eb395ce26809c49bd1ec"

def identityDocument : Fields :=
  [("schema_version", .str "suderra.buildroot-source-identity.v2"), ("buildroot_index_sha", .str nativeBuildrootCommit),
    ("buildroot_upstream_ref", .str nativeBuildrootRef), ("buildroot_source_mode", .str "clean-native"),
    ("buildroot_patchset_sha256", .str emptyListDigest), ("buildroot_patch_files", .list []),
    ("buildroot_effective_source_id", .str effectiveDigest), ("buildroot_expected_patched", .bool false),
    ("buildroot_rust_version", .str nativeRustVersion), ("buildroot_rust_bin_version", .str nativeRustVersion),
    ("suderra_source_sha", .str sampleArgs.sourceSha), ("suderra_external_tree_sha256", .str emptyListDigest),
    ("suderra_external_dirty_paths", .list []), ("suderra_release_source_id", .str releaseDigest)]

/-- SHA-256, with the digests of the texts of the two ids and of the identity written down. -/
def buildSha256 (bytes : Bytes) : Bytes :=
  if bytes = (sampleTexts effectiveDigest).text.flatMap String.utf8EncodeChar then
    digestBytes 0x0d9329c35aeb3784ba1f174045508a9078222a2eeb9a7dd7924dba1175221953
  else if bytes = (Text.segments (sampleTexts effectiveDigest).releaseParts).flatMap String.utf8EncodeChar then
    digestBytes 0xf70121b8d2c7f61697554d806356d01896316bc85523eb395ce26809c49bd1ec
  else if bytes = documentBytes identityDocument then
    digestBytes 0x0981838b280d99a32ecc5ab63ec8e17dd5ba2f60795de621042cc6b49c2b9719
  else Sha256.digest bytes

def buildTools : Tools where
  toIdentity := { ingressLibraries with sha256 := buildSha256 }
  gitOutput := fun _ => .ok ("160000 commit " ++ nativeBuildrootCommit ++ "\tbuildroot")

/-- The files of the build; every file that is not named here is a log. -/
def buildFiles (owned : Int) : Files := fun path =>
  match path.names with
  | ["ci", "build-matrix.yml"] => some matrixBytes
  | ["build", "pc", "warnings.json"] => some (documentBytes (warningsPayload owned))
  | ["build", "pc", "source-identity.json"] => some (documentBytes identityDocument)
  | ["build", "pc", "build-performance.json"] => some (documentBytes performancePayload)
  | _ => some logBytes

def logDigest : String := "dc51b8c96c2d745df3bd5590d990230a482fd247123599548e0632fdbf97fc22"

def cleanDigest : String := "70802939bad29e7b3ea35d32d738aafd5e96220f9b44f43920c7c9db1bb59570"

def warningDigest : String := "da70eb11dcd24b97a138f684da3270ff059b61b64ded3ec74e1ae64fdf6f6c02"

def fileRecord (role first name artifact path digest : String) (bytes : Int) : Value :=
  .dict [("role", .str role), (first, .str name), ("target", .str "pc"), ("artifact", .str artifact), ("path", .str path),
    ("bytes", .int bytes), ("sha256", .str digest)]

/-- The build evidence, with a role and a digest for the warnings. -/
def pcEvidence (role digest : String) : List Value :=
  [fileRecord "build-log" "defconfig" "pc" "build-logs/pc.log" "pc/log" logDigest 3,
    fileRecord role "defconfig" "pc" "build-logs/pc.warnings.json" "pc/warnings.json" digest 71,
    fileRecord "buildroot-source-identity" "defconfig" "pc" "build-logs/pc.source-identity.json" "pc/source-identity.json"
      "0981838b280d99a32ecc5ab63ec8e17dd5ba2f60795de621042cc6b49c2b9719" 817,
    fileRecord "build-time-log" "defconfig" "pc" "build-logs/pc.build-time.log" "pc/log" logDigest 3,
    fileRecord "build-performance" "defconfig" "pc" "build-logs/pc.build-performance.json" "pc/build-performance.json"
      "2521bf91eccad36e6de210e206edac155074bb693d9768449bd92de9513b2b5c" 91]

def pcInstallers : List Value :=
  [fileRecord "installer" "arch" "x86_64" "suderra-installer-x86_64" "installer" logDigest 3,
    fileRecord "checksum" "arch" "x86_64" "suderra-installer-x86_64.sha256" "installer" logDigest 3,
    fileRecord "installer" "arch" "aarch64" "suderra-installer-aarch64" "installer" logDigest 3,
    fileRecord "checksum" "arch" "aarch64" "suderra-installer-aarch64.sha256" "installer" logDigest 3]

/-- A binding with a role and a digest for the warnings. -/
def pcBinding (role digest : String) : Fields :=
  [("version", .str "v1.0.0-rc.1"), ("profile", .str "release-candidate"), ("source_sha", .str sampleArgs.sourceSha),
    ("source_run_id", .str "7001"), ("source_run_attempt", .int 1), ("build_workflow_name", .str "Image Build"),
    ("build_workflow_path", .str ".github/workflows/image-build.yml"),
    ("matrix_sha256", .str "71298a698e8b50db9225726df6e2d86373b13e4eb0b786618cb4f1d2edf3be84"),
    ("userspace_cargo_lock_sha256", .str logDigest), ("userspace_rust_toolchain_sha256", .str logDigest),
    ("artifacts", .list [fileRecord "image" "defconfig" "pc" "disk.img.xz" "pc/disk.img.xz" logDigest 3]),
    ("build_evidence", .list (pcEvidence role digest)), ("installers", .list pcInstallers),
    ("image_build_contract", fileRecord "image-build-contract" "defconfig" "pc" "contract" "contract.json" logDigest 3),
    (identitySchemaField, .str "suderra.buildroot-source-identity.v2")] ++ identityDocument.drop 1

/-- The digests of the files of the sample. -/
theorem hexdigests_pc : buildTools.hexdigest logBytes = logDigest ∧
    buildTools.hexdigest (documentBytes performancePayload) = "2521bf91eccad36e6de210e206edac155074bb693d9768449bd92de9513b2b5c" ∧
    buildTools.hexdigest matrixBytes = "71298a698e8b50db9225726df6e2d86373b13e4eb0b786618cb4f1d2edf3be84" ∧
    buildTools.hexdigest (documentBytes (warningsPayload 0)) = cleanDigest ∧
    buildTools.hexdigest (documentBytes (warningsPayload 1)) = warningDigest := by decide +kernel

theorem isDigest_pc : isDigest (.str logDigest) = true ∧
    isDigest (.str "0981838b280d99a32ecc5ab63ec8e17dd5ba2f60795de621042cc6b49c2b9719") = true ∧
    isDigest (.str "2521bf91eccad36e6de210e206edac155074bb693d9768449bd92de9513b2b5c") = true ∧
    isDigest (.str "71298a698e8b50db9225726df6e2d86373b13e4eb0b786618cb4f1d2edf3be84") = true ∧
    isDigest (.str cleanDigest) = true ∧ isDigest (.str warningDigest) = true ∧ isDigest (.str effectiveDigest) = true ∧
    isDigest (.str releaseDigest) = true := by decide +kernel

theorem hexdigest_effective :
    buildTools.hexdigest ((sampleTexts effectiveDigest).text.flatMap String.utf8EncodeChar) = effectiveDigest := by
  rw [Python.hexdigest, show buildTools.sha256 = buildSha256 from rfl, buildSha256, if_pos rfl]
  decide

theorem hexdigest_release :
    buildTools.hexdigest ((Text.segments (sampleTexts effectiveDigest).releaseParts).flatMap String.utf8EncodeChar) = releaseDigest := by
  have hne : (Text.segments (sampleTexts effectiveDigest).releaseParts).flatMap String.utf8EncodeChar ≠
      (sampleTexts effectiveDigest).text.flatMap String.utf8EncodeChar := fun h => absurd (congrArg List.head? h) (by decide)
  rw [Python.hexdigest, show buildTools.sha256 = buildSha256 from rfl, buildSha256, if_neg hne, if_pos rfl]
  decide

theorem hexdigest_identityDocument : buildTools.hexdigest (documentBytes identityDocument) =
    "0981838b280d99a32ecc5ab63ec8e17dd5ba2f60795de621042cc6b49c2b9719" := by
  have hne : documentBytes identityDocument ≠ (sampleTexts effectiveDigest).text.flatMap String.utf8EncodeChar :=
    fun h => absurd (congrArg List.head? h) (by decide)
  have hne' : documentBytes identityDocument ≠
      (Text.segments (sampleTexts effectiveDigest).releaseParts).flatMap String.utf8EncodeChar :=
    fun h => absurd (congrArg List.head? h) (by decide)
  rw [Python.hexdigest, show buildTools.sha256 = buildSha256 from rfl, buildSha256, if_neg hne, if_neg hne', if_pos rfl]
  decide

theorem effectiveSourceId_pc : effectiveDigest =
    effectiveSourceId buildTools.toIdentity nativeBuildrootCommit emptyListDigest none nativeBuildrootRef "clean-native" := by
  have htext := effectiveSourceId_eq buildTools.toIdentity (sampleTexts effectiveDigest)
  rw [Utf8.encode_ofList] at htext
  exact (htext.trans hexdigest_effective).symm

theorem releaseSourceId_pc : releaseSourceId buildTools.toIdentity sampleArgs.sourceSha emptyListDigest effectiveDigest = releaseDigest := by
  have htext := releaseSourceId_eq buildTools.toIdentity (sampleTexts effectiveDigest)
  rw [Utf8.encode_ofList] at htext
  exact htext.trans hexdigest_release

theorem names_identityDocument : Names buildTools.toIdentity identityDocument (sampleTexts effectiveDigest) where
  index_eq := rfl
  index_hex := isHex_commit
  upstream_eq := rfl
  mode_eq := rfl
  patchset_eq := rfl
  patchset_hex := isHex_emptyList
  source_eq := rfl
  source_hex := isHex_sourceSha
  external_eq := rfl
  external_hex := isHex_emptyList
  effective_eq := rfl
  effective_hex := isHex_of_isDigest isDigest_pc.2.2.2.2.2.2.1
  release_eq := congrArg Value.str releaseSourceId_pc.symm
  tree := by
    intro entries hentries
    cases hentries
  diff_eq := .inl ⟨rfl, rfl⟩
  bound := effectiveSourceId_pc

theorem accepted_identityDocument : validateMetadataPayload buildTools.toIdentity identityDocument = .ok [] := by
  refine accepted_iff.2 ⟨⟨_, names_identityDocument⟩, ?_⟩
  exact {
    schema := rfl
    release := isHexText_iff.2 ⟨_, rfl, isHex_of_isDigest isDigest_pc.2.2.2.2.2.2.2⟩
    dirty := rfl
    patches := rfl
    patched := rfl
    upstream := rfl
    rust := List.forall_mem_cons.2 ⟨rfl, List.forall_mem_singleton.2 rfl⟩
    diffs := by
      simp only [List.forall_mem_cons]
      exact ⟨rfl, rfl, rfl, rfl, List.forall_mem_nil _⟩
    mode := rfl }

theorem identityPayload_pc (role digest : String) : identityPayload (pcBinding role digest) = identityDocument := rfl

section
variable {L : Tools} {files : Files} {A : Args} {binding record : Fields} {root : PosixPath} {rel digest : String} {bytes : Bytes}

/-- A file under the root whose digest is the one of its record is looked at. -/
theorem fileFailures_eq {label : String} {content : PosixPath → Except String (List String)} (hroot : A.artifactRoot = some root)
    (hrel : field "path" record = .str rel) (hfile : files (root.join (PosixPath.ofString rel)) = some bytes)
    (hdigest : field "sha256" record = .str digest) (hsha : L.hexdigest bytes = digest) :
    fileFailures L files A label record content = content (root.join (PosixPath.ofString rel)) := by
  simp [fileFailures, hroot, hrel, hfile, hdigest, hsha, asStr]

/-- A record is accepted whose fields have their forms and whose file passes the check of its role. -/
theorem evidenceFailures_eq_nil {key : Key} {role : String} (hroot : A.artifactRoot = some root) (hrole : field "role" record = .str role)
    (hmem : (Value.str role).isIn (roles.map .str) = true) (hrel : field "path" record = .str rel) (hsafe : isSafePath (.str rel) = true)
    (hfile : files (root.join (PosixPath.ofString rel)) = some bytes) (hdigest : field "sha256" record = .str digest)
    (hsha : L.hexdigest bytes = digest) (hnonzero : isDigest (.str digest) = true) (hbytes : isIntFrom 1 (field "bytes" record) = true)
    (hcontent : contentFailures L files binding (.str role) (root.join (PosixPath.ofString rel)) = .ok []) :
    evidenceFailures L files A binding key record = .ok [] := by
  have hhex : isHexText 64 (.str digest) = true := by
    simp only [isDigest, Bool.and_eq_true] at hnonzero
    exact isHexText_iff.2 ⟨digest, rfl, hnonzero.1⟩
  simp only [evidenceFailures, hrole, guardError_bind_ok_iff, hrel, hdigest, hmem, hsafe, hnonzero, hbytes, if_pos hhex]
  refine ⟨rfl, ?_⟩
  rw [fileFailures_eq hroot hrel hfile hdigest hsha, hcontent]
  rfl

end

section
variable {owned : Int} {role digest : String}

theorem contentFailures_identity : contentFailures buildTools (buildFiles owned) (pcBinding role digest) (.str "buildroot-source-identity")
    (buildRoot.join (PosixPath.ofString "pc/source-identity.json")) = .ok [] := by
  have hread : readJson buildTools.toPython (buildFiles owned) (buildRoot.join (PosixPath.ofString "pc/source-identity.json")) =
      .ok (some (.dict identityDocument)) := readJson_documentBytes rfl (by decide) rfl
  have hcheck : contentCheck buildTools (pcBinding role digest) (.str "buildroot-source-identity") =
      some (sourceIdentityFailures buildTools (pcBinding role digest)) := rfl
  simp only [contentFailures, hcheck, hread, ok_bind, sourceIdentityFailures, accepted_identityDocument]
  rfl

theorem contentFailures_performance : contentFailures buildTools (buildFiles owned) (pcBinding role digest) (.str "build-performance")
    (buildRoot.join (PosixPath.ofString "pc/build-performance.json")) = .ok [] := by
  have hread : readJson buildTools.toPython (buildFiles owned) (buildRoot.join (PosixPath.ofString "pc/build-performance.json")) =
      .ok (some (.dict performancePayload)) := readJson_documentBytes rfl (by decide) rfl
  have hcheck : contentCheck buildTools (pcBinding role digest) (.str "build-performance") = some performanceFailures := rfl
  simp only [contentFailures, hcheck, hread, ok_bind]
  rfl

/-- The build evidence of the sample is accepted with any role of the warnings whose check their file passes. -/
theorem listFailures_evidence (hmem : (Value.str role).isIn (roles.map .str) = true)
    (hsha : buildTools.hexdigest (documentBytes (warningsPayload owned)) = digest) (hnonzero : isDigest (.str digest) = true)
    (hcontent : contentFailures buildTools (buildFiles owned) (pcBinding role digest) (.str role)
      (buildRoot.join (PosixPath.ofString "pc/warnings.json")) = .ok []) :
    listFailures buildTools buildEvidence ((evidenceNames "pc" false).map fun artifact => ("pc", artifact))
      (evidenceFailures buildTools (buildFiles owned) buildArgs (pcBinding role digest)) (.list (pcEvidence role digest)) = .ok [] := by
  have hlog (key : Key) (own artifact : String) (hown : (Value.str own).isIn (roles.map .str) = true)
      (hcheck : contentCheck buildTools (pcBinding role digest) (.str own) = none) :
      evidenceFailures buildTools (buildFiles owned) buildArgs (pcBinding role digest) key
        [("role", .str own), ("defconfig", .str "pc"), ("target", .str "pc"), ("artifact", .str artifact), ("path", .str "pc/log"),
          ("bytes", .int 3), ("sha256", .str logDigest)] = .ok [] :=
    evidenceFailures_eq_nil rfl rfl hown rfl (by decide) rfl rfl hexdigests_pc.1 isDigest_pc.1 rfl (by rw [contentFailures, hcheck])
  have hbuildLog (key : Key) := hlog key "build-log" "build-logs/pc.log" (by decide) rfl
  have htimeLog (key : Key) := hlog key "build-time-log" "build-logs/pc.build-time.log" (by decide) rfl
  have hwarnings (key : Key) : evidenceFailures buildTools (buildFiles owned) buildArgs (pcBinding role digest) key
      [("role", .str role), ("defconfig", .str "pc"), ("target", .str "pc"), ("artifact", .str "build-logs/pc.warnings.json"),
        ("path", .str "pc/warnings.json"), ("bytes", .int 71), ("sha256", .str digest)] = .ok [] :=
    evidenceFailures_eq_nil rfl rfl hmem rfl (by decide) rfl rfl hsha hnonzero rfl hcontent
  have hidentity (key : Key) : evidenceFailures buildTools (buildFiles owned) buildArgs (pcBinding role digest) key
      [("role", .str "buildroot-source-identity"), ("defconfig", .str "pc"), ("target", .str "pc"),
        ("artifact", .str "build-logs/pc.source-identity.json"), ("path", .str "pc/source-identity.json"), ("bytes", .int 817),
        ("sha256", .str "0981838b280d99a32ecc5ab63ec8e17dd5ba2f60795de621042cc6b49c2b9719")] = .ok [] :=
    evidenceFailures_eq_nil rfl rfl (by decide) rfl (by decide) rfl rfl hexdigest_identityDocument isDigest_pc.2.1 rfl
      contentFailures_identity
  have hperformance (key : Key) : evidenceFailures buildTools (buildFiles owned) buildArgs (pcBinding role digest) key
      [("role", .str "build-performance"), ("defconfig", .str "pc"), ("target", .str "pc"),
        ("artifact", .str "build-logs/pc.build-performance.json"), ("path", .str "pc/build-performance.json"), ("bytes", .int 91),
        ("sha256", .str "2521bf91eccad36e6de210e206edac155074bb693d9768449bd92de9513b2b5c")] = .ok [] :=
    evidenceFailures_eq_nil rfl rfl (by decide) rfl (by decide) rfl rfl hexdigests_pc.2.1 isDigest_pc.2.2.1 rfl
      contentFailures_performance
  simp only [listFailures, pcEvidence, fileRecord, checkRecords, hbuildLog, htimeLog, hwarnings, hidentity, hperformance, ok_bind]
  rfl

theorem listFailures_installers :
    listFailures buildTools installers expectedInstallers (installerFailures buildTools (buildFiles owned) buildArgs)
      (.list pcInstallers) = .ok [] := by
  have hfile (key : Key) (own arch artifact : String) (hown : (Value.str own).isIn [.str "installer", .str "checksum"] = true) :
      installerFailures buildTools (buildFiles owned) buildArgs key
        [("role", .str own), ("arch", .str arch), ("target", .str "pc"), ("artifact", .str artifact), ("path", .str "installer"),
          ("bytes", .int 3), ("sha256", .str logDigest)] = .ok [] := by
    have hfound : fileFailures buildTools (buildFiles owned) buildArgs "binding installer"
        [("role", .str own), ("arch", .str arch), ("target", .str "pc"), ("artifact", .str artifact), ("path", .str "installer"),
          ("bytes", .int 3), ("sha256", .str logDigest)] (fun _ => .ok []) = .ok [] := fileFailures_eq rfl rfl rfl rfl hexdigests_pc.1
    have hrole : (field "role" [("role", .str own), ("arch", .str arch), ("target", .str "pc"), ("artifact", .str artifact),
      ("path", .str "installer"), ("bytes", .int 3), ("sha256", .str logDigest)]) = .str own := rfl
    simp only [installerFailures, guardError_bind_ok_iff, hfound, ok_bind, hrole, hown]
    exact ⟨rfl, rfl⟩
  simp only [listFailures, pcInstallers, fileRecord, checkRecords, hfile _ "installer" _ _ (by decide), hfile _ "checksum" _ _ (by decide),
    ok_bind]
  rfl

theorem imageContractFailures_pc :
    imageContractFailures buildTools (buildFiles owned) buildArgs (pcBinding role digest) = .ok [] := by
  have hcontract : field "image_build_contract" (pcBinding role digest) =
      fileRecord "image-build-contract" "defconfig" "pc" "contract" "contract.json" logDigest 3 := rfl
  have hfound : fileFailures buildTools (buildFiles owned) buildArgs "image build contract"
      [("role", .str "image-build-contract"), ("defconfig", .str "pc"), ("target", .str "pc"), ("artifact", .str "contract"),
        ("path", .str "contract.json"), ("bytes", .int 3), ("sha256", .str logDigest)] (fun _ => .ok []) = .ok [] :=
    fileFailures_eq rfl rfl rfl rfl hexdigests_pc.1
  simp only [imageContractFailures, hcontract, fileRecord, hfound, ok_bind]
  rfl

theorem artifacts_pc : validateReleaseArtifactBindings buildTools.toPython (store buildTools (buildFiles owned) buildArgs)
    [(("pc", "disk.img.xz"), pcRow)] (field "artifacts" (pcBinding role digest)) = [] := by
  have hartifacts : field "artifacts" (pcBinding role digest) =
      .list [fileRecord "image" "defconfig" "pc" "disk.img.xz" "pc/disk.img.xz" logDigest 3] := rfl
  have hpath : pathFailures buildTools.toPython (store buildTools (buildFiles owned) buildArgs)
      [("role", .str "image"), ("defconfig", .str "pc"), ("target", .str "pc"), ("artifact", .str "disk.img.xz"),
        ("path", .str "pc/disk.img.xz"), ("bytes", .int 3), ("sha256", .str logDigest)] = [] := by
    refine (pathFailures_eq_nil_iff rfl).2 ⟨⟨"", ["pc", "disk.img.xz"]⟩, by decide, ?_, ?_⟩
    · rintro root ⟨⟩
      rfl
    · rintro root hasher ⟨⟩ ⟨⟩
      exact hexdigests_pc.1
  simp only [hartifacts, validateReleaseArtifactBindings, fileRecord, checkArtifacts, Bindings.artifactFailures, hpath]
  rfl

theorem buildrootFailures_pc : buildrootFailures buildTools (pcBinding role digest) = [] := by
  have hsubmodule : submoduleSha buildTools sampleArgs.sourceSha = .ok nativeBuildrootCommit := rfl
  have hsource : field "source_sha" (pcBinding role digest) = .str sampleArgs.sourceSha := rfl
  simp only [buildrootFailures, hsource, isHex_sourceSha, if_true, hsubmodule, identityPayload_pc, accepted_identityDocument]
  rfl

theorem runFailures_pc : runFailures buildTools buildArgs (pcBinding role digest) = [] := by
  simp only [runFailures, ReleaseInputs.expectRunId, expectText, List.append_eq_nil_iff, List.flatMap_eq_nil_iff, failUnless_eq_nil]
  have hattempt : (field "source_run_attempt" (pcBinding role digest)).pyStr buildTools.repr = "1" := by
    change toString (1 : Int) = "1"
    decide
  have hparsed : PyText.parseInt buildTools.unicode "1".toList = some 1 := by decide
  refine ⟨⟨⟨⟨⟨⟨⟨⟨rfl, rfl⟩, List.forall_mem_singleton.2 rfl⟩, List.forall_mem_singleton.2 rfl⟩, ?_⟩, ?_⟩, rfl⟩, rfl⟩,
    isHexText_iff.2 ⟨_, rfl, isHex_sourceSha⟩⟩
  · rw [attempt, hattempt, hparsed]
    rfl
  · rw [hattempt]
    exact List.forall_mem_singleton.2 rfl

theorem matrixFailures_pc : matrixFailures buildTools (buildFiles owned) buildArgs (pcBinding role digest) = [] := by
  have hfile : buildFiles owned buildArgs.matrix = some matrixBytes := rfl
  have hfield : field "matrix_sha256" (pcBinding role digest) =
      .str "71298a698e8b50db9225726df6e2d86373b13e4eb0b786618cb4f1d2edf3be84" := rfl
  have hhex : isHexText 64 (.str "71298a698e8b50db9225726df6e2d86373b13e4eb0b786618cb4f1d2edf3be84") = true :=
    isHexText_iff.2 ⟨_, rfl, isHex_of_isDigest isDigest_pc.2.2.2.1⟩
  simp only [matrixFailures, hfield, hhex, if_true, hfile, Option.all_some, hexdigests_pc.2.2.1, failUnless_eq_nil]
  rfl

end

/-- The sample is accepted with any role of the warnings whose check their file passes. -/
theorem validateBinding_pc {owned : Int} {role digest : String} (hmem : (Value.str role).isIn (roles.map .str) = true)
    (hsha : buildTools.hexdigest (documentBytes (warningsPayload owned)) = digest) (hnonzero : isDigest (.str digest) = true)
    (hcontent : contentFailures buildTools (buildFiles owned) (pcBinding role digest) (.str role)
      (buildRoot.join (PosixPath.ofString "pc/warnings.json")) = .ok []) :
    validateBinding buildTools (buildFiles owned) buildArgs (pcBinding role digest) (.ok pcMatrix) = .ok [] := by
  have hcontract : matrixContract buildTools (.ok pcMatrix) = ⟨[], some [pcRow], [(("pc", "disk.img.xz"), pcRow)]⟩ := rfl
  have hexpected : expectedBuildEvidence buildTools [pcRow] = .ok ((evidenceNames "pc" false).map fun artifact => ("pc", artifact)) := rfl
  have hevidence : field "build_evidence" (pcBinding role digest) = .list (pcEvidence role digest) := rfl
  have hinstallers : field "installers" (pcBinding role digest) = .list pcInstallers := rfl
  simp only [validateBinding, hcontract, Option.getD_some, hexpected, ok_bind, hevidence, hinstallers,
    listFailures_evidence hmem hsha hnonzero hcontent, listFailures_installers, imageContractFailures_pc, runFailures_pc, matrixFailures_pc,
    buildrootFailures_pc, artifacts_pc, List.append_nil]

/-- The only record under a key of the sample. -/
theorem boundAs_pc {role digest : String} {artifact : String} {own : Value} {path : PosixPath}
    (h : BoundAs buildTools (pcBinding role digest) buildRoot ("pc", artifact) own path) :
    (artifact = warningsName "pc" → own = .str role ∧ path = buildRoot.join (PosixPath.ofString "pc/warnings.json")) ∧
      (artifact = sourceIdentityName "pc" → own = .str "buildroot-source-identity") := by
  obtain ⟨records, record, rel, hrecords, hrecord, hkey, hrole, hrel, rfl⟩ := h
  have hlist : field "build_evidence" (pcBinding role digest) = .list (pcEvidence role digest) := rfl
  rw [hlist, Value.list.injEq] at hrecords
  rw [← hrecords] at hrecord
  simp only [pcEvidence, fileRecord, List.mem_cons, List.not_mem_nil, or_false, Value.dict.injEq] at hrecord
  rcases hrecord with rfl | rfl | rfl | rfl | rfl <;> cases hkey <;> cases hrole <;> cases hrel
  · exact ⟨fun h => absurd h (by decide), fun h => absurd h (by decide)⟩
  · have hne : "build-logs/pc.warnings.json" ≠ sourceIdentityName "pc" := by decide
    exact ⟨fun _ => ⟨rfl, rfl⟩, fun h => absurd h hne⟩
  · exact ⟨fun h => absurd h (by decide), fun _ => rfl⟩
  · exact ⟨fun h => absurd h (by decide), fun h => absurd h (by decide)⟩
  · exact ⟨fun h => absurd h (by decide), fun h => absurd h (by decide)⟩

/-- Without warnings, and with the roles of their names, the two files of the sample are what they are bound as. -/
theorem promised_pc :
    Promised buildTools (buildFiles 0) (pcBinding "warning-classifier-evidence" cleanDigest) buildRoot "pc" := by
  have hsha := hexdigests_pc.2.2.2.1
  have hread : readJson buildTools.toPython (buildFiles 0) (buildRoot.join (PosixPath.ofString "pc/warnings.json")) =
      .ok (some (.dict (warningsPayload 0))) := readJson_documentBytes rfl (by decide) rfl
  have hcontent : contentFailures buildTools (buildFiles 0) (pcBinding "warning-classifier-evidence" cleanDigest)
      (.str "warning-classifier-evidence") (buildRoot.join (PosixPath.ofString "pc/warnings.json")) = .ok [] := by
    have hcheck : contentCheck buildTools (pcBinding "warning-classifier-evidence" cleanDigest) (.str "warning-classifier-evidence") =
        some warningsFailures := rfl
    simp only [contentFailures, hcheck, hread, ok_bind]
    rfl
  obtain ⟨M, hM, hiff⟩ := checked_iff rfl (validateBinding_pc (by decide) hsha isDigest_pc.2.2.2.2.1 hcontent)
  cases hM
  have hother : OtherRoles buildTools (buildFiles 0) (pcBinding "warning-classifier-evidence" cleanDigest) buildRoot "pc" := by
    constructor
    · intro own path hbound hrole
      rw [((boundAs_pc hbound).1 rfl).1] at hrole
      cases hrole
    · intro own path hbound hrole
      rw [(boundAs_pc hbound).2 rfl] at hrole
      cases hrole
  have hrows : Staged.releaseRows pcMatrix = [pcRow] := rfl
  have hname : rowText buildTools.toPython "name" pcRow = .ok "pc" := rfl
  obtain ⟨defconfig, hdefconfig, hpromised⟩ := hiff.2 (by
    rw [hrows]
    exact List.forall_mem_singleton.2 ⟨"pc", hname, hother⟩) pcRow (by rw [hrows]; simp)
  rw [hname, Except.ok.injEq] at hdefconfig
  rwa [← hdefconfig] at hpromised

/-- A summary with a warning that is bound as a log is accepted. -/
theorem warning_as_log :
    validateBinding buildTools (buildFiles 1) buildArgs (pcBinding "build-log" warningDigest) (.ok pcMatrix) = .ok [] ∧
      pcRow ∈ Staged.releaseRows pcMatrix ∧ rowText buildTools.toPython "name" pcRow = .ok "pc" ∧
      ¬Promised buildTools (buildFiles 1) (pcBinding "build-log" warningDigest) buildRoot "pc" := by
  have hsha := hexdigests_pc.2.2.2.2
  have hcheck : contentCheck buildTools (pcBinding "build-log" warningDigest) (.str "build-log") = none := rfl
  refine ⟨validateBinding_pc (by decide) hsha isDigest_pc.2.2.2.2.2.1 (by rw [contentFailures, hcheck]), List.mem_singleton.2 rfl, rfl, fun hpromised => ?_⟩
  obtain ⟨own, path, hbound⟩ := hpromised.has_warnings
  obtain ⟨payload, summary, hpayload, hsummary, howned, _⟩ := hpromised.warnings own path hbound
  rw [((boundAs_pc hbound).1 rfl).2] at hpayload
  have hread : readJson buildTools.toPython (buildFiles 1) (buildRoot.join (PosixPath.ofString "pc/warnings.json")) =
      .ok (some (.dict (warningsPayload 1))) := readJson_documentBytes rfl (by decide) rfl
  rw [hread] at hpayload
  cases hpayload
  cases hsummary
  cases howned

end Sample

end SuderraOs.Publish.BuildEvidence
