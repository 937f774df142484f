import SuderraOs.Evidence.Contract
import SuderraOs.Lib.FileTree

/-!
# The operator evidence ingress

`operator-evidence-ingress.py`: what stands in the operator's trees, the core files among it, and `validate_manifest`. The texts of
exceptions inside a message are left out.
-/

namespace SuderraOs.Evidence.OperatorIngress

open Value

/-! ## What the script asks of its libraries -/

/-- What `urlparse` makes of a text. -/
structure Url where
  scheme : String
  username : Option String
  password : Option String
  hostname : Option String

/-- What `datetime.fromisoformat` makes of a text: the offset from UTC, where there is one, and the second. -/
structure DateTime where
  utcoffset : Option Int
  seconds : Int

/-- What a command printed and whether it succeeded. -/
structure CommandOutput where
  success : Bool
  stdout : String
  stderr : String

structure Libraries extends Python where
  unicode : PyText.Unicode
  lower : String → String
  /-- `none` where it raises `ValueError`. -/
  urlparse : String → Option Url
  /-- `none` where it raises `ValueError`. -/
  fromisoformat : String → Option DateTime
  /-- `value.isoformat()` of a second of UTC, without the offset at its end. -/
  isoformat : Int → String
  /-- `cosign verify-blob` of a manifest, by its path, an identity and an issuer. -/
  verifyBlob : PosixPath → String → String → CommandOutput

/-- The regular files of a tree, by absolute paths. -/
def treeFiles (T : FileTree) : Files := fun path => T.read path.names

/-! ## Checks of one value -/

variable (L : Libraries)

/-- `parse_utc`. -/
def parseUtc (path : String) : Value → Except String Int
  | .str s =>
    if isBlank s then .error s!"{path}: must be an ISO-8601 UTC timestamp"
    else
      let candidate := if s.toList.getLast? = some 'Z' then String.ofList s.toList.dropLast ++ "+00:00" else s
      match L.fromisoformat candidate with
      | none => .error s!"{path}: must be an ISO-8601 UTC timestamp"
      | some parsed => if parsed.utcoffset = some 0 then .ok parsed.seconds else .error s!"{path}: must be a UTC timestamp"
  | _ => .error s!"{path}: must be an ISO-8601 UTC timestamp"

/-- The message of a check that failed. -/
def errorOf {α : Type} : Except String α → List String
  | .ok _ => []
  | .error message => [message]

/-- Whether a text is a full match of `SEMVER_RE`. -/
def isSemver (version : String) : Bool :=
  let digits := fun cs : List Char => !cs.isEmpty && cs.all (·.isDigit)
  match version.toList with
  | 'v' :: cs =>
    let core := cs.takeWhile (· ≠ '-')
    let tail := cs.dropWhile (· ≠ '-')
    (match core.splitOn '.' with
      | [major, minor, patch] => digits major && digits minor && digits patch
      | _ => false) &&
    match tail with
    | [] => true
    | _ :: [] => false
    | _ :: c :: rest => c.isAlphanum && rest.all fun d => d.isAlphanum || d = '.' || d = '-'
  | _ => false

/-- `validate_version_source`. -/
def validateVersionSource (version sourceSha : String) : List String :=
  failUnless "version must be a SemVer tag such as v0.1.0-rc.1" (isSemver version) ++
    failUnless "source_sha must be a lowercase git commit sha" (isHex 40 sourceSha)

/-- `check_positive_int`. -/
def checkPositiveInt (path : String) (v : Value) : List String :=
  failUnless s!"{path}: must be a positive integer" ((PyText.parseInt L.unicode (v.pyStr L.repr).toList).any (0 < ·))

/-- `check_sha256`. -/
def checkSha256 (path : String) : Value → List String
  | .str s =>
    if isHex 64 s then failUnless s!"{path}: must not be the all-zero sha256 digest" (isDigest (.str s))
    else [s!"{path}: must be a lowercase sha256 digest"]
  | _ => [s!"{path}: must be a lowercase sha256 digest"]

theorem checkSha256_eq_nil {path : String} {v : Value} : checkSha256 path v = [] ↔ isDigest v = true := by
  cases v with
  | str s =>
    by_cases hhex : isHex 64 s = true
    · simp [checkSha256, hhex]
    · simp [checkSha256, isDigest, hhex]
  | _ => simp [checkSha256, isDigest]

/-- `isinstance(value, str) and value`. -/
def isText (v : Value) : Bool := v.asStr.any (· ≠ "")

/-- `check_https_url_host`. -/
def checkHttpsUrlHost (path : String) (v : Value) (allowedHost : Option String) : Except String (List String) :=
  match v with
  | .str s =>
    if isBlank s then .ok [s!"{path}: must be a non-empty HTTPS URL"]
    else do
      let url ← orError "ValueError" (L.urlparse s)
      let hostname := L.lower (url.hostname.getD "")
      .ok (failUnless s!"{path}: must use https" (url.scheme = "https") ++
        failUnless s!"{path}: must not embed credentials" (!url.username.any (· ≠ "") && !url.password.any (· ≠ "")) ++
        if hostname = "" then [s!"{path}: must include a host"]
        else failUnless s!"{path}: host must match operator bundle allowlist" (allowedHost.all (· = hostname)))
  | _ => .ok [s!"{path}: must be a non-empty HTTPS URL"]

/-- Whether a value is a bare host name. -/
def isBareHost (v : Value) : Bool := v.asStr.any fun s => !isBlank s && !s.toList.contains '/' && !s.toList.contains ':'

/-- `validate_operator_bundle_provenance`. -/
def validateOperatorBundleProvenance (provenance : Value) : Except String (List String) :=
  match provenance with
  | .dict provenance => do
    let host := field "allowed_host" provenance
    let url ← checkHttpsUrlHost L "$.operator_bundle.url" (field "url" provenance)
      (if isBareHost host then host.asStr.map L.lower else none)
    .ok (failUnless "$.operator_bundle.allowed_host: must be a bare hostname" (isBareHost host) ++ url ++
      checkSha256 "$.operator_bundle.sha256" (field "sha256" provenance) ++
      checkSha256 "$.operator_bundle.signature_sha256" (field "signature_sha256" provenance) ++
      checkSha256 "$.operator_bundle.certificate_sha256" (field "certificate_sha256" provenance) ++
      failUnless "$.operator_bundle.certificate_identity: must be a non-empty string"
        ((field "certificate_identity" provenance).asStr.any (!isBlank ·)) ++
      failUnless "$.operator_bundle.certificate_oidc_issuer: must be GitHub Actions OIDC"
        ((field "certificate_oidc_issuer" provenance).pyEq (.str "https://token.actions.githubusercontent.com")) ++
      failUnless "$.operator_bundle.verified: must be true" (field "verified" provenance).isTrue)
  | _ => .ok ["$.operator_bundle: must be an object"]

/-! ## The audit log -/

/-- Whether a value is an integer with a lower bound. -/
def isIntFrom (n : Int) (v : Value) : Bool := v.asInt.any (n ≤ ·)

/-- The failures of the part of an audit log that a field holds, if it is an object. -/
def objectFailures (v : Value) (message : String) (failures : Fields → List String) : List String :=
  match v with
  | .dict fields => failures fields
  | _ => [message]

/-- `validate_audit_log`. A source that cannot be hashed raises. -/
def validateAuditLog (auditPath : PosixPath) (audit : Value) : Except String (List String) :=
  match audit with
  | .dict audit => do
    guardError "TypeError" (field "source_kind" audit).isHashable
    .ok (failUnless s!"{auditPath}: schema_version must be suderra.audit-log-snapshot.v1"
        ((field "schema_version" audit).pyEq (.str "suderra.audit-log-snapshot.v1")) ++
      failUnless s!"{auditPath}: status must be collected" ((field "status" audit).pyEq (.str "collected")) ++
      checkSha256 s!"{auditPath}: events_sha256" (field "events_sha256" audit) ++
      failUnless s!"{auditPath}: unapproved governance changes must be false"
        (!(field "unapproved_governance_changes" audit).truthy) ++
      failUnless s!"{auditPath}: source_kind must identify an org/enterprise audit source"
        ((field "source_kind" audit).isIn
          [.str "organization", .str "enterprise", .str "manual-org-export", .str "manual-enterprise-export"]) ++
      failUnless s!"{auditPath}: repository must be a non-empty string" (isText (field "repository" audit)) ++
      failUnless s!"{auditPath}: query must be a non-empty string" (isText (field "query" audit)) ++
      failUnless s!"{auditPath}: event_count must be a non-negative integer" (isIntFrom 0 (field "event_count" audit)) ++
      failUnless s!"{auditPath}: collector.identity must be a non-empty string"
        ((field "collector" audit).asDict.any fun collector => isText (field "identity" collector)) ++
      objectFailures (field "lookback_window" audit) s!"{auditPath}: lookback_window must be an object" (fun window =>
        failUnless s!"{auditPath}: lookback_window.start must be a timestamp" (isText (field "start" window)) ++
        failUnless s!"{auditPath}: lookback_window.end must be a timestamp" (isText (field "end" window)) ++
        failUnless s!"{auditPath}: lookback_window.days must be a positive integer" (isIntFrom 1 (field "days" window))) ++
      objectFailures (field "raw_export" audit) s!"{auditPath}: raw_export must be an object" (fun rawExport =>
        failUnless s!"{auditPath}: raw_export.path must be a non-empty string" (isText (field "path" rawExport)) ++
        failUnless s!"{auditPath}: raw_export.bytes must be a positive integer" (isIntFrom 1 (field "bytes" rawExport)) ++
        checkSha256 s!"{auditPath}: raw_export.sha256" (field "sha256" rawExport)) ++
      objectFailures (field "replay" audit) s!"{auditPath}: replay must be an object" (fun replay =>
        failUnless s!"{auditPath}: replay.status must be passed" ((field "status" replay).pyEq (.str "passed")) ++
        failUnless s!"{auditPath}: replay.unapproved_events must be empty"
          ((field "unapproved_events" replay).isIn [.list [], .null])))
  | _ => .ok [s!"{auditPath}: audit log must be a JSON object"]

/-! ## Paths -/

/-- `parts[0]`, where there is one. -/
def rootOf (rel : PosixPath) : String := rel.names.head?.getD ""

/-- `role_for_path`. -/
def roleForPath (rel : PosixPath) : String :=
  let root := rootOf rel
  let name := rel.name
  if 3 ≤ rel.names.length ∧ root = "release-governance" ∧ name = "audit-log.json" then "governance-audit-log"
  else if 3 ≤ rel.names.length ∧ root = "release-governance" ∧ name = "station-registry.json" then "station-registry"
  else if root = "release-governance" then
    if name = "role-bindings.json" then "governance-role-bindings" else "governance-input"
  else if root = "release-approvals" then "release-approval"
  else if root = "release-reproducibility" then "reproducibility-report"
  else if root = "release-lab-input" then
    match name with
    | "qemu.json" => "qemu-input"
    | "lab.json" => "lab-input"
    | "hardware-subject.json" => "hardware-subject"
    | "station-acquisition.json" => "station-acquisition"
    | "station-bundle.json" => "lab-station-bundle"
    | "station-bundle.json.sig" => "lab-station-signature"
    | "station-public.pem" => "lab-station-public-key"
    | _ => "lab-supporting-evidence"
  else if root = "release-runtime" then
    if name = "production-runtime.json" then "production-runtime-suite" else "production-runtime-supporting-evidence"
  else if root = "release-signing" then
    if name = "signing-manifest.json" then "signing-manifest"
    else if rel.suffix = ".json" then "hsm-signing-session"
    else "hsm-signing-supporting-evidence"
  else if root = "release-retention" then
    if name = "retention-manifest.json" then "retention-manifest" else "retention-supporting-evidence"
  else if root = "release-ota" then
    if name = "ota-artifacts.json" then "ota-artifacts" else "ota-supporting-evidence"
  else if root = "release-security" then
    if rel.suffix = ".json" then "security-report" else "security-raw-evidence"
  else "operator-evidence"

/-- `required_schema_version_for_path`. -/
def requiredSchemaVersionForPath (C : Contract) (rel : PosixPath) : Option String :=
  let root := rootOf rel
  let name := rel.name
  if root = "release-governance" ∧ 3 ≤ rel.names.length then
    match name with
    | "audit-log.json" => some "suderra.audit-log-snapshot.v1"
    | "station-registry.json" => some "suderra.lab-station-registry.v1"
    | "role-bindings.json" => some (C.schema "governance_role_bindings")
    | _ => none
  else if root = "release-lab-input" then
    match name with
    | "qemu.json" => some "suderra.qemu-acceptance.v4"
    | "lab.json" => some (C.schema "lab_evidence")
    | "hardware-subject.json" => some (C.schema "hardware_subject")
    | "station-acquisition.json" => some (C.schema "station_acquisition")
    | _ => none
  else if root = "release-approvals" then some "suderra.release-approval.v2"
  else if root = "release-reproducibility" then some "suderra.reproducibility.v1"
  else if root = "release-runtime" ∧ name = "production-runtime.json" then some (C.schema "production_runtime_suite")
  else if root = "release-signing" ∧ name = "signing-manifest.json" then some (C.schema "signing_manifest")
  else if root = "release-signing" ∧ rel.suffix = ".json" then some (C.schema "hsm_signing_session")
  else if root = "release-retention" ∧ name = "retention-manifest.json" then some (C.schema "retention_manifest")
  else if root = "release-ota" ∧ name = "ota-artifacts.json" then some (C.schema "ota_artifacts")
  else none

/-- `validate_allowed_version_path`. -/
def validateAllowedVersionPath (C : Contract) (rel : PosixPath) (version : String) : List String :=
  match rel.names with
  | [] => ["empty evidence path"]
  | root :: rest =>
    if !C.operatorIngressAllowedRoots.contains root then
      [s!"{rel}: top-level directory is not allowed in operator evidence ingress"]
    else failUnless s!"{rel}: evidence path must be scoped to {version}" (rest.head? = some version)

/-- `FORBIDDEN_INPUT_DIRS`. -/
def forbiddenInputDirs (C : Contract) : List String :=
  sortNames ((C.outputTreeRoots.filter fun root => !C.operatorIngressAllowedRoots.contains root) ++
    ["release-evidence-generated", "signed-release"]).dedup

/-! ## The tree -/

/-- A record of a file that was found. -/
structure FileRecord where
  role : String
  path : String
  bytes : Nat
  sha256 : String
  deriving DecidableEq

/-- The record as it stands in a manifest. -/
def FileRecord.value (record : FileRecord) : Value :=
  .dict [("source", .str "operator-evidence"), ("role", .str record.role), ("path", .str record.path),
    ("bytes", .int record.bytes), ("sha256", .str record.sha256)]

section Tree

variable (C : Contract) (T : FileTree)

/-- The record of what stands at a place below the input root, if it is a file that is not empty. -/
def recordOf (rel : PosixPath) : Node → Option FileRecord
  | .file bytes =>
    if bytes = [] then none else some ⟨roleForPath rel, toString rel, bytes.length, L.hexdigest bytes⟩
  | _ => none

/-- The failures of what stands at a place below the input root. -/
def scanFailures (version : String) (rel : PosixPath) : Node → List String
  | .link _ => [s!"{rel}: symlinks are not allowed"]
  | .file bytes =>
    validateAllowedVersionPath C rel version ++ failUnless s!"{rel}: evidence file must be non-empty" !bytes.isEmpty
  | _ => []

/-- The path of a place below the input root. -/
def relativeTo (inputRoot place : List String) : PosixPath := ⟨"", place.drop inputRoot.length⟩

/-- The records and the failures of one of the operator's trees. -/
def scanRoot (inputRoot : List String) (version dirname : String) : List FileRecord × List String :=
  let root := inputRoot ++ [dirname]
  if (T.stat root).isNone then ([], [])
  else if T.lstat root ≠ some .dir then ([], [s!"{dirname}: must be a directory and must not be a symlink"])
  else ((T.rglob root).filterMap fun p => recordOf L (relativeTo inputRoot p.1) p.2,
    (T.rglob root).flatMap fun p => scanFailures C version (relativeTo inputRoot p.1) p.2)

/-- The records of `scan_evidence_files`, in the order of their paths. -/
def scannedRecords (inputRoot : List String) (version : String) : List FileRecord :=
  (C.operatorIngressAllowedRoots.flatMap fun dirname => (scanRoot L C T inputRoot version dirname).1).insertionSort
    fun a b => nameLe a.path b.path = true

/-- The failures of `scan_evidence_files`. -/
def scanEvidenceFailures (inputRoot : List String) (version : String) : List String :=
  C.operatorIngressAllowedRoots.flatMap fun dirname => (scanRoot L C T inputRoot version dirname).2

/-! ## The core files -/

variable (M : Matrix)

/-- `input_root / rel`. -/
def placeOf (inputRoot : List String) (rel : PosixPath) : PosixPath := (⟨"/", inputRoot⟩ : PosixPath).join rel

/-- `root / version / name`, for one of the roots below the input root. -/
def versionedPath (inputRoot : List String) (root version name : String) : PosixPath :=
  ((placeOf inputRoot ⟨"", [root]⟩).join (PosixPath.ofString version)).child name

/-- The failures of the station registry. -/
def registryFailures (registryPath : PosixPath) (registry : Option Value) : List String :=
  match registry with
  | none => [s!"{registryPath}: missing or invalid station registry JSON"]
  | some (.dict registry) =>
    failUnless s!"{registryPath}: schema_version must be suderra.lab-station-registry.v1"
      ((field "schema_version" registry).pyEq (.str "suderra.lab-station-registry.v1"))
  | some _ => [s!"{registryPath}: station registry must be a JSON object"]

/-- The schema of a required file: the reports of scanners have one here, though no path asks for it. -/
def coreSchema (rel : PosixPath) : Option String :=
  (requiredSchemaVersionForPath C rel).orElse fun _ =>
    if rootOf rel = "release-security" ∧ rel.suffix = ".json" then some (C.schema "release_security_report") else none

/-- The failures of a required file that is there. -/
def requiredFileFailures (inputRoot : List String) (requiredPath : String) : Except String (List String) :=
  let rel := PosixPath.ofString requiredPath
  let path := placeOf inputRoot rel
  if ((treeFiles T) path).isNone then .ok []
  else do
    let payload ← readJson L.toPython (treeFiles T) path
    .ok (match payload with
      | none => [s!"{path}: required evidence must be valid JSON"]
      | some (.dict payload) =>
        (coreSchema C rel).toList.flatMap fun expected =>
          failUnless s!"{path}: schema_version must be {expected}" ((field "schema_version" payload).pyEq (.str expected))
      | some _ => [s!"{path}: required evidence must be a JSON object"])

/-- `validate_core_files`, for the paths of the files that are recorded. -/
def validateCoreFiles (inputRoot : List String) (version : String) (paths : List String) : Except String (List String) := do
  let required ← operatorRequiredEvidencePaths L.toPython C version M
  let missing := sortedDiff required paths
  let auditPath := versionedPath inputRoot "release-governance" version "audit-log.json"
  let audit ← readJson L.toPython (treeFiles T) auditPath
  let auditFailures ← (audit.map (validateAuditLog auditPath)).getD
    (.ok [s!"{auditPath}: missing or invalid audit log JSON"])
  let registryPath := versionedPath inputRoot "release-governance" version "station-registry.json"
  let registry ← readJson L.toPython (treeFiles T) registryPath
  let files ← (sortNames required.dedup).mapM (requiredFileFailures L C T inputRoot)
  .ok (failUnless ("operator evidence ingress missing required files: " ++ ", ".intercalate missing) missing.isEmpty ++
    auditFailures ++ registryFailures registryPath registry ++ files.flatten)

end Tree

/-! ## The validator -/

/-- The arguments of `validate`. The input root is a real place. -/
structure Args where
  manifest : PosixPath
  inputRoot : Option (List String)
  matrix : Matrix
  expectedVersion : Option String
  expectedSourceSha : Option String
  expectedRunId : Option String
  expectedRunAttempt : Option String
  requireSignature : Bool
  certificateIdentity : Option String
  certificateOidcIssuer : Option String
  allowPreflightContext : Bool

section Validator

variable (C : Contract) (T : FileTree) (A : Args) (now : Int)

/-- `validate_manifest_window`. -/
def windowFailures (manifest : Fields) : List String :=
  let generatedAt := parseUtc L "$.generated_at" (field "generated_at" manifest)
  let expiresAt := parseUtc L "$.expires_at" (field "expires_at" manifest)
  match generatedAt, expiresAt with
  | .ok generatedAt, .ok expiresAt =>
    failUnless "$.expires_at: must be after generated_at" (generatedAt < expiresAt) ++
      failUnless "$.expires_at: evidence ingress manifest has expired" (now < expiresAt)
  | _, _ => errorOf generatedAt ++ errorOf expiresAt

/-- `str(manifest.get("version", ""))`. -/
def versionOf (manifest : Fields) : String := textField L.toPython "version" manifest

/-- The failures of a field that must have the expected value, where there is one. -/
def expectText (message : String) (v : Value) (expected : Option String) : List String :=
  expected.toList.flatMap fun expected => failUnless message (v.pyEq (.str expected))

/-- The failures of the identity of a manifest: its version, its source and the runs that built the images. -/
def identityFailures (manifest : Fields) : List String :=
  (match field "version" manifest, field "source_sha" manifest with
    | .str version, .str sourceSha => validateVersionSource version sourceSha
    | _, _ => ["$.version and $.source_sha must be strings"]) ++
  expectText s!"$.version: must match {orEmpty A.expectedVersion}" (field "version" manifest) A.expectedVersion ++
  expectText s!"$.source_sha: must match {orEmpty A.expectedSourceSha}" (field "source_sha" manifest) A.expectedSourceSha ++
  expectText "$.source_image_build_run_id: must match expected Image Build run"
    (.str ((field "source_image_build_run_id" manifest).pyStr L.repr)) A.expectedRunId ++
  expectText "$.source_image_build_run_attempt: must match expected Image Build run attempt"
    (.str ((field "source_image_build_run_attempt" manifest).pyStr L.repr)) A.expectedRunAttempt ++
  checkPositiveInt L "$.source_image_build_run_id" (field "source_image_build_run_id" manifest) ++
  checkPositiveInt L "$.source_image_build_run_attempt" (field "source_image_build_run_attempt" manifest)

/-- The failures of the producer. -/
def producerFailures (manifest : Fields) : List String :=
  objectFailures (field "producer" manifest) "$.producer: must be an object" fun producer =>
    ["provider", "repository", "workflow", "run_id", "run_attempt", "actor"].flatMap fun name =>
      failUnless s!"$.producer.{name}: must be a non-empty string" (isText (field name producer))

/-- The failures of the schema of a file that a record names. -/
def schemaReplayFailures (itemPath : String) (actual : PosixPath) (expected : String) : Except String (List String) := do
  let payload ← readJson L.toPython (treeFiles T) actual
  .ok (match payload with
    | none => [s!"{itemPath}.path: must be valid JSON for schema replay"]
    | some payload =>
      failUnless s!"{itemPath}.schema_version: must be {expected}"
        (payload.asDict.any fun payload => (field "schema_version" payload).pyEq (.str expected)))

/-- The failures of the file that a record names. -/
def recordFileFailures (itemPath : String) (inputRoot : List String) (item : Fields) (rel : PosixPath) :
    Except String (List String) :=
  let actual := placeOf inputRoot rel
  match (treeFiles T actual).filter (!·.isEmpty) with
  | none => .ok [s!"{itemPath}.path: referenced evidence file is missing or empty: {rel}"]
  | some bytes => do
    let schema ← ((requiredSchemaVersionForPath C rel).map (schemaReplayFailures L T itemPath actual)).getD (.ok [])
    .ok (failUnless s!"{itemPath}.bytes: does not match referenced file" ((field "bytes" item).pyEq (.int bytes.length)) ++
      failUnless s!"{itemPath}.sha256: does not match referenced file" ((field "sha256" item).pyEq (.str (L.hexdigest bytes))) ++
      schema)

/-- The failures of a record at a path. -/
def recordFailures (itemPath version : String) (item : Fields) (rel : PosixPath) : Except String (List String) := do
  let file ← (A.inputRoot.map fun inputRoot => recordFileFailures L C T itemPath inputRoot item rel).getD (.ok [])
  .ok (validateAllowedVersionPath C rel version ++
    failUnless s!"{itemPath}.role: does not match evidence path role" ((field "role" item).pyEq (.str (roleForPath rel))) ++
    failUnless s!"{itemPath}.bytes: must be a positive integer" (isIntFrom 1 (field "bytes" item)) ++
    checkSha256 s!"{itemPath}.sha256" (field "sha256" item) ++ file)

/-- The failures of the records from a place on, after the paths before it. -/
def recordsFailures (version : String) (seen : List String) (idx : Nat) : List Value → Except String (List String)
  | [] => .ok []
  | item :: items =>
    let itemPath := s!"$.files[{idx}]"
    match item with
    | .dict item =>
      let source := failUnless s!"{itemPath}.source: must be operator-evidence"
        ((field "source" item).pyEq (.str "operator-evidence"))
      match safeRelativePath (field "path" item) with
      | none => do
        let rest ← recordsFailures version seen (idx + 1) items
        .ok (source ++ s!"{itemPath}.path: must be relative and must not contain '..'" :: rest)
      | some rel => do
        let here ← recordFailures L C T A itemPath version item rel
        let rest ← recordsFailures version (toString rel :: seen) (idx + 1) items
        .ok (source ++ failUnless s!"{itemPath}.path: must be unique" (!seen.contains (toString rel)) ++ here ++ rest)
    | _ => do
      let rest ← recordsFailures version seen (idx + 1) items
      .ok (s!"{itemPath}: must be an object" :: rest)

/-- The items of `files`; what is no list counts as none. -/
def filesOf (manifest : Fields) : List Value := (field "files" manifest).asList.getD []

/-- The path of a record, normalized. -/
def recordPath (item : Value) : Option String := item.asDict.bind fun item => (safeRelativePath (field "path" item)).map toString

/-- The paths of the records, normalized. -/
def seenPaths (manifest : Fields) : List String := (filesOf manifest).filterMap recordPath

/-- The failures of the paths that a manifest lists as required. -/
def requiredPathsFailures (manifest : Fields) : Except String (List String) :=
  match field "required_paths" manifest with
  | .list paths => do
    let expected ← operatorRequiredEvidencePaths L.toPython C (versionOf L manifest) A.matrix
    let actual := paths.filterMap asStr
    let missing := sortedDiff expected (seenPaths manifest)
    .ok (failUnless "$.required_paths: must match matrix-derived operator evidence contract"
        ((sortedDiff actual expected).isEmpty && (sortedDiff expected actual).isEmpty) ++
      failUnless ("operator evidence manifest missing required file records: " ++ ", ".intercalate missing) missing.isEmpty)
  | _ => .ok ["$.required_paths: must be a list"]

/-- The failures of what must not come from the operator. -/
def forbiddenFailures (inputRoot : List String) (version : String) : List String :=
  ((forbiddenInputDirs C).filter (· ≠ "release-ingress")).flatMap (fun dirname =>
    failUnless s!"{dirname}: must not be supplied through operator evidence ingress"
      ((T.stat (inputRoot ++ [dirname])).isNone || A.allowPreflightContext)) ++
  failUnless "release-ingress/<version>/ingress-manifest.json must be produced only by Release Preflight"
    ((T.stat (versionedPath inputRoot "release-ingress" version "ingress-manifest.json").names).isNone || A.allowPreflightContext)

/-- The failures of the tree against the records. -/
def treeFailures (manifest : Fields) (inputRoot : List String) : Except String (List String) := do
  let version := versionOf L manifest
  let scanned := (scannedRecords L C T inputRoot version).map FileRecord.path
  let omitted := sortedDiff scanned (seenPaths manifest)
  let missing := sortedDiff (seenPaths manifest) scanned
  let core ← validateCoreFiles L C T A.matrix inputRoot version
    ((filesOf manifest).filterMap fun item => item.asDict.map fun item => (field "path" item).pyStr L.repr)
  .ok (scanEvidenceFailures L C T inputRoot version ++
    failUnless ("operator evidence manifest omits files present in artifact: " ++ ", ".intercalate omitted) omitted.isEmpty ++
    failUnless ("operator evidence manifest lists files missing from artifact: " ++ ", ".intercalate missing) missing.isEmpty ++
    forbiddenFailures C T A inputRoot version ++ core)

/-- `verify_manifest_signature`, with its three texts: what a sidecar misses, what must be given and what is said of a failure without
a text. -/
def verifyManifestSignature (manifest : PosixPath) (certificateIdentity certificateOidcIssuer : Option String)
    (missingText requiredText failedText : String) : List String :=
  let sidecars := [".sig", ".cert"].map fun ext => (⟨"/", manifest.names.dropLast⟩ : PosixPath).child (manifest.name ++ ext)
  let missing := sidecars.filter fun sidecar => ((treeFiles T sidecar).filter (!·.isEmpty)).isNone
  if missing ≠ [] then missing.map fun sidecar => s!"{sidecar}: {missingText}"
  else
    match certificateIdentity.filter (· ≠ ""), certificateOidcIssuer.filter (· ≠ "") with
    | some identity, some issuer =>
      let output := L.verifyBlob manifest identity issuer
      let text := fun s : String => String.ofList (PyText.strip s.toList)
      if output.success then []
      else
        [if text output.stderr ≠ "" then text output.stderr
          else if text output.stdout ≠ "" then text output.stdout
          else failedText]
    | _, _ => [requiredText]

/-- The failures of the signature of the manifest. -/
def signatureFailures : List String :=
  verifyManifestSignature L T A.manifest A.certificateIdentity A.certificateOidcIssuer
    "missing evidence ingress signature sidecar"
    "evidence ingress signature verification requires certificate identity and OIDC issuer"
    "cosign evidence ingress verification failed"

/-- The failures of a manifest that was read. -/
def manifestFailures (manifest : Fields) : Except String (List String) := do
  let bundle ← validateOperatorBundleProvenance L (field "operator_bundle" manifest)
  let records ← recordsFailures L C T A (versionOf L manifest) [] 0 (filesOf manifest)
  let required ← requiredPathsFailures L C A manifest
  let tree ← (A.inputRoot.map (treeFailures L C T A manifest)).getD (.ok [])
  .ok (failUnless "$.schema_version: must be suderra.operator-evidence-ingress.v2"
      ((field "schema_version" manifest).pyEq (.str "suderra.operator-evidence-ingress.v2")) ++
    windowFailures L now manifest ++ identityFailures L A manifest ++ bundle ++ producerFailures manifest ++
    failUnless "$.files: must be a non-empty list" (filesOf manifest ≠ []) ++
    records ++ required ++ tree ++ if A.requireSignature then signatureFailures L T A else [])

/-- `validate_manifest`. -/
def validateManifest : Except String (List String) := do
  let manifest ← readJson L.toPython (treeFiles T) A.manifest
  match manifest with
  | none => .ok [s!"{A.manifest}: cannot read evidence ingress manifest"]
  | some (.dict manifest) => manifestFailures L C T A now manifest
  | some _ => .ok [s!"{A.manifest}: evidence ingress manifest must be a JSON object"]

end Validator

end SuderraOs.Evidence.OperatorIngress
