import SuderraOs.Evidence.Common

/-!
# Lab input

`validate-lab-input.py`: the checks of `validate_lab`. The station signs a digest of the record, and the record holds digests of the files
that it names, but not of all of them. So the signature fixes the contents of the files exactly when every file is named with a digest
at some place (`contents_fixed_iff`).
-/

namespace SuderraOs.Evidence.Lab

open Value

/-- What the script asks of the libraries of Python and of `openssl`; times are numbers of microseconds. -/
structure Tools extends Python where
  fromIsoformat : String → Option Int
  now : Int
  /-- The text of an `OSError` for a path. -/
  osError : PosixPath → String
  /-- The text of a `JSONDecodeError` for a document. -/
  jsonError : List Char → String
  /-- How `json.dumps` writes a double. -/
  float : Double → List Char
  /-- `openssl pkeyutl -verify`, if there is such a program, on what is at the paths of the public key, the signature and the bundle: its
  message where it fails. -/
  openssl : Option (Option Bytes → Option Bytes → Option Bytes → Option String)

/-- What the script reads from the evidence contract. -/
structure Contract where
  schemaVersion : String
  labChecks : List String
  x86HardwareChecks : List String
  x86NegativeTests : List String
  boardsByTarget : List (String × List String)

/-- The arguments of `validate_lab`. -/
structure Args where
  path : PosixPath
  checkFiles : Bool
  requirePass : Bool
  expectedVersion : Option String
  expectedTarget : Option String
  profile : String
  expectedSourceSha : Option String
  expectedSourceRunId : Option String
  stationRegistryPath : Option PosixPath

def strictProfiles : List String := ["release-candidate", "production-candidate"]

def Args.strict (A : Args) : Bool := strictProfiles.contains A.profile

/-- `path.parent`. -/
def Args.root (A : Args) : PosixPath := ⟨A.path.root, A.path.names.dropLast⟩

def bundleSchemaVersion : String := "suderra.lab-station-bundle.v1"

def registrySchemaVersion : String := "suderra.lab-station-registry.v1"

def requiredUsbNegativeTests : List String :=
  ["no-target-disk", "ambiguous-targets", "usb-target-without-override", "tampered-payload", "bad-signature", "expired-manifest",
    "wrong-board", "small-target", "rollback-floor-violation"]

def statusValues : List String := ["failed", "not_applicable", "not_collected", "not_run", "passed"]

/-! ## Checks of single values -/

def isString : Value → Bool
  | .str s => PyText.strip s.toList ≠ []
  | _ => false

def checkString (path : String) (value : Value) : List String := failUnless s!"{path}: must be a non-empty string" (isString value)

/-- `check_string` of each of these fields. -/
def checkStrings (path : String) (names : List String) (fields : Fields) : List String :=
  names.flatMap fun name => checkString s!"{path}.{name}" (field name fields)

/-- A value that no set can hold raises. -/
def checkStatus (path : String) (value : Value) : Except String (List String) := do
  guardError "TypeError" value.isHashable
  .ok (failUnless s!"{path}: must be one of: {commaSeparated statusValues}" (value.asStr.any statusValues.contains))

def checkSha256 (path : String) (value : Value) : List String :=
  failUnless s!"{path}: must be a lowercase sha256 hex digest" (value.asStr.any (isHex 64))

/-- The error of a number that is no positive integer. -/
def checkPositive (path : String) (value : Value) : List String :=
  failUnless s!"{path}: must be a positive integer" (value.asInt.any (0 < ·))

/-- The error of a status, where only `passed` will do. -/
def checkPassed (A : Args) (path : String) (value : Value) : List String :=
  failUnless s!"{path}: must be passed for release lab input" (!A.requirePass || value.pyEq (.str "passed"))

def sortNames (names : List String) : List String := names.dedup.insertionSort fun a b => nameLe a b = true

/-- `re.fullmatch("[A-Za-z0-9][A-Za-z0-9._+-]*")`. -/
def isSafeId (s : String) : Bool :=
  match s.toList with
  | [] => false
  | c :: cs => c.isAlphanum && cs.all fun d => d.isAlphanum || ['.', '_', '+', '-'].contains d

/-- `parse_utc`. -/
def parseUtc (T : Tools) (value : Value) : Option Int :=
  value.asStr.bind fun s => if s.toList.getLast? = some 'Z' then T.fromIsoformat (String.ofList s.toList.dropLast ++ "+00:00") else none

section Files

variable (T : Tools) (A : Args) (files : Files)

/-- The path that a text names below the directory of the record, if it stays there. -/
def relativePath (s : String) : Option PosixPath :=
  let rel := PosixPath.ofString s
  if rel.isAbsolute || rel.hasParent then none else some (A.root.join rel)

/-- `check_relative_file`. -/
def checkRelativeFile (path : String) (value : Value) (expectedSha256 : Option String) : List String :=
  match value.asStr.filter fun s => isString (.str s) with
  | none => [s!"{path}: must be a relative file path"]
  | some s =>
    match relativePath A s with
    | none => [s!"{path}: must be relative and must not contain '..'"]
    | some actual =>
      if A.checkFiles then
        match (files actual).filter (· ≠ []) with
        | none => [s!"{path}: referenced file is missing or empty: {s}"]
        | some bytes => expectedSha256.toList.flatMap fun expected =>
          failUnless s!"{path}: referenced file sha256 mismatch: expected {expected}, got {T.hexdigest bytes}" (T.hexdigest bytes = expected)
      else []

/-- `resolve_relative_file`: the errors, and the path. -/
def resolveRelativeFile (path : String) (value : Value) (expectedSha256 : Option String) (expectedBytes : Option Int) :
    List String × Option PosixPath :=
  match value.asStr.filter fun s => isString (.str s) with
  | none => ([s!"{path}: must be a relative file path"], none)
  | some s =>
    match relativePath A s with
    | none => ([s!"{path}: must be relative and must not contain '..'"], none)
    | some actual =>
      if A.checkFiles then
        match (files actual).filter (· ≠ []) with
        | none => ([s!"{path}: referenced file is missing or empty: {s}"], some actual)
        | some bytes =>
          ((expectedBytes.toList.flatMap fun expected =>
            failUnless s!"{path}: referenced file size mismatch: expected {expected}, got {bytes.length}" ((bytes.length : Int) = expected)) ++
          expectedSha256.toList.flatMap fun expected =>
            failUnless s!"{path}: referenced file sha256 mismatch: expected {expected}, got {T.hexdigest bytes}"
              (T.hexdigest bytes = expected), some actual)
      else ([], some actual)

end Files

/-! ## The station -/

section Station

variable (T : Tools) (A : Args)

/-- `canonical_lab_payload`. -/
def canonicalLabPayload (payload : Fields) : Bytes :=
  let unsigned := payload.filter fun p => p.1 ≠ "station_bundle" ∧ p.1 ≠ "station_signature"
  Utf8.encode (String.ofList (JsonText.write (JsonText.compactAscii T.float) 0 (Value.dict unsigned).sortKeys))

/-- `station_registry_entry`. -/
def stationRegistryEntry (registry : Fields) (stationId : Option String) : Option Fields :=
  stationId.bind fun id => (field "stations" registry).asList.bind fun stations =>
    stations.findSome? fun item => item.asDict.filter fun fields => (field "station_id" fields).pyEq (.str id)

/-- The errors of an adapter of the inventory. -/
def adapterErrors (role : String) (adapter : Value) : List String :=
  let path := s!"$.station_registry.adapter_inventory.{role}"
  match adapter with
  | .dict adapter =>
    failUnless s!"{path}.role: must match adapter inventory key" (((lookup "role" adapter).getD (.str role)).pyEq (.str role)) ++
      ["id", "version", "binary_sha256", "command_schema_id"].flatMap fun name =>
        if name = "binary_sha256" then checkSha256 s!"{path}.{name}" (field name adapter) else checkString s!"{path}.{name}" (field name adapter)
  | _ => failUnless s!"{path}: must bind role/id/version/binary_sha256 exactly" !A.strict

/-- The errors of the targets and of the calibration of a station. -/
def authorizationErrors (payload entry : Fields) : List String :=
  (match field "allowed_targets" entry with
    | .list (target :: targets) =>
      if A.strict && isIn (.str "*") (target :: targets) then
        ["$.station_registry.allowed_targets: must not contain wildcard target authorization"]
      else failUnless "$.target: must be allowed by external station registry"
        (isIn (.str "*") (target :: targets) || isIn (field "target" payload) (target :: targets))
    | _ => ["$.station_registry.allowed_targets: must be a non-empty list"]) ++
  match parseUtc T (field "calibration_expires_at" entry) with
  | none => ["$.station_registry.calibration_expires_at: must be recorded"]
  | some expiry => failUnless "$.station_registry.calibration_expires_at: must be in the future" (!A.strict || T.now < expiry)

/-- The errors of the storage of the devices, which the registry must allow. -/
def storageErrors (payload : Fields) (allowed : List Value) : List String :=
  ((field "devices" payload).asList.getD []).zipIdx.flatMap fun p =>
    match (p.1.asDict.bind fun device => (field "device_identity" device).asDict).bind fun identity =>
      (field "storage_by_id" identity).asStr with
    | none => []
    | some storage =>
      failUnless s!"$.devices[{p.2}].device_identity.storage_by_id: must be allowed by station registry" (isIn (.str storage) allowed)

/-- The errors of the entry of a station. -/
def entryErrors (payload station entry : Fields) (publicKeySha256 : Value) : List String :=
  failUnless "$.station.fixture_id: must match external station registry" ((field "fixture_id" entry).pyEq (field "fixture_id" station)) ++
    failUnless "$.station_signature.public_key_sha256: must match external station registry"
      ((field "public_key_sha256" entry).pyEq publicKeySha256) ++
    authorizationErrors T A payload entry ++
    (match field "adapter_inventory" entry with
      | .dict (p :: inventory) => (p :: inventory).flatMap fun p => adapterErrors A p.1 p.2
      | _ => ["$.station_registry.adapter_inventory: must be a non-empty object"]) ++
    failUnless "$.station_registry.operator_roles: must be a non-empty list"
      (!A.strict || (field "operator_roles" entry).asList.any fun roles => !roles.isEmpty) ++
    failUnless "$.station_registry.operator_authorization: must bind operator authorization"
      (!A.strict || isString (field "operator_authorization" entry)) ++
    match field "allowed_storage_by_id" entry with
    | .list (storage :: allowed) =>
      failUnless "$.station_registry.allowed_storage_by_id: must not contain wildcard storage authorization"
          (!(A.strict && isIn (.str "*") (storage :: allowed))) ++
        storageErrors payload (storage :: allowed)
    | _ => "$.station_registry.allowed_storage_by_id: must be a non-empty list" :: storageErrors payload []

/-- `check_station_registry`. -/
def checkStationRegistry (payload : Fields) (registry : Option Value) (publicKeySha256 : Value) : List String :=
  match registry.bind Value.asDict with
  | none => ["$.station_registry: strict lab input requires an external station registry"]
  | some registry =>
    let station := ((field "station" payload).asDict).getD []
    failUnless s!"$.station_registry.schema_version: must be {registrySchemaVersion}"
        ((field "schema_version" registry).pyEq (.str registrySchemaVersion)) ++
      match stationRegistryEntry registry (field "station_id" station).asStr with
      | none => ["$.station.station_id: must exist in external station registry"]
      | some entry => entryErrors T A payload station entry publicKeySha256

/-- The errors of the fields of the bundle against the record. -/
def bundleErrors (payload bundle : Fields) : List String :=
  let station := ((field "station" payload).asDict).getD []
  let binding := ((field "artifact_binding" payload).asDict).getD []
  failUnless s!"$.station_bundle.path: station bundle schema must be {bundleSchemaVersion}"
      ((field "schema_version" bundle).pyEq (.str bundleSchemaVersion)) ++
    (["version", "target", "lab_id"].flatMap fun name =>
      failUnless s!"$.station_bundle.{name}: must match top-level {name}" ((field name bundle).pyEq (field name payload))) ++
    failUnless "$.station_bundle.station_id: must match station.station_id" ((field "station_id" bundle).pyEq (field "station_id" station)) ++
    (["source_sha", "source_run_id", "build_artifact_sha256", "build_artifact_bytes"].flatMap fun name =>
      failUnless s!"$.station_bundle.{name}: must match artifact_binding.{name}" ((field name bundle).pyEq (field name binding))) ++
    failUnless "$.station_bundle.lab_payload_sha256: must match unsigned lab payload"
      ((field "lab_payload_sha256" bundle).pyEq (.str (T.hexdigest (canonicalLabPayload T payload))))

variable (files : Files)

/-- The errors of the signature over the bundle. -/
def signatureErrors (publicKey signature : Option PosixPath) (bundle : PosixPath) : List String :=
  match signature, publicKey with
  | some signature, some publicKey =>
    match T.openssl with
    | none => ["$.station_signature: openssl is required to verify station signature"]
    | some verify =>
      match verify (files publicKey) (files signature) (files bundle) with
      | none => []
      | some message =>
        ["$.station_signature.signature: " ++ if message = "" then "station bundle signature verification failed" else message]
  | _, _ => []

/-- The errors of the file of the bundle. -/
def bundleFileErrors (payload : Fields) (publicKey signature : Option PosixPath) (path : PosixPath) : Except String (List String) :=
  match files path with
  | none => .ok [s!"$.station_bundle.path: cannot read station bundle JSON: {T.osError path}"]
  | some bytes => do
    let text ← orError "UnicodeDecodeError" (Utf8.decode bytes)
    .ok (match (T.loads (PyText.universalNewlines text.toList)).map Value.unique with
      | none => [s!"$.station_bundle.path: cannot read station bundle JSON: {T.jsonError text.toList}"]
      | some (.dict bundle) => bundleErrors T payload bundle ++ signatureErrors T files publicKey signature path
      | some _ => ["$.station_bundle.path: station bundle must be a JSON object"])

/-- The digest of a field, where it is a text. -/
def digestOf (name : String) (fields : Fields) : Option String := (field name fields).asStr

/-- The file of the bundle, of the signature and of the public key. -/
def bundleFile (bundle : Fields) : List String × Option PosixPath :=
  resolveRelativeFile T A files "$.station_bundle.path" (field "path" bundle) (digestOf "sha256" bundle) (field "bytes" bundle).asInt

def signatureFile (signature : Fields) : List String × Option PosixPath :=
  resolveRelativeFile T A files "$.station_signature.signature" (field "signature" signature) (digestOf "signature_sha256" signature) none

def publicKeyFile (signature : Fields) : List String × Option PosixPath :=
  resolveRelativeFile T A files "$.station_signature.public_key" (field "public_key" signature) (digestOf "public_key_sha256" signature)
    none

/-- The error of a fingerprint of the station that is not the one of its key. -/
def fingerprintErrors (payload signature : Fields) : List String :=
  match field "public_key_sha256" signature, field "trusted_key_fingerprint" (((field "station" payload).asDict).getD []) with
  | .str sha, .str fingerprint =>
    failUnless "$.station.trusted_key_fingerprint: must match station public key sha256"
      (fingerprint = sha || fingerprint = "sha256:" ++ sha)
  | _, _ => []

/-- The errors of the bundle and of the signature as the record has them. -/
def stationFieldErrors (bundle signature : Fields) : List String :=
  failUnless s!"$.station_bundle.schema_version: must be {bundleSchemaVersion}"
      ((field "schema_version" bundle).pyEq (.str bundleSchemaVersion)) ++
    checkSha256 "$.station_bundle.sha256" (field "sha256" bundle) ++ checkPositive "$.station_bundle.bytes" (field "bytes" bundle) ++
    (bundleFile T A files bundle).1 ++ checkStrings "$.station_signature" ["algorithm", "signature", "public_key"] signature ++
    failUnless "$.station_signature.algorithm: must be openssl-pkeyutl-ed25519-raw"
      ((field "algorithm" signature).pyEq (.str "openssl-pkeyutl-ed25519-raw")) ++
    checkSha256 "$.station_signature.signature_sha256" (field "signature_sha256" signature) ++
    checkSha256 "$.station_signature.public_key_sha256" (field "public_key_sha256" signature) ++
    (signatureFile T A files signature).1 ++ (publicKeyFile T A files signature).1

/-- `check_station_bundle`. -/
def checkStationBundle (payload : Fields) (registry : Option Value) : Except String (List String) :=
  if !A.strict then .ok []
  else match field "station_bundle" payload, field "station_signature" payload with
    | .dict bundle, .dict signature => do
      let found := stationFieldErrors T A files bundle signature ++
        checkStationRegistry T A payload registry (field "public_key_sha256" signature) ++ fingerprintErrors payload signature
      let rest ← ((bundleFile T A files bundle).2.filter fun _ => A.checkFiles).elim (.ok []) fun path =>
        bundleFileErrors T files payload (publicKeyFile T A files signature).2 (signatureFile T A files signature).2 path
      .ok (found ++ rest)
    | .dict _, _ => .ok ["$.station_signature: must be an object for release lab input"]
    | _, _ => .ok ["$.station_bundle: must be an object for release lab input"]

end Station

/-! ## The record -/

/-- A place of the record that names a file: where it stands, the path, and the digest if there is one. -/
structure Ref where
  place : String
  path : Value
  sha256 : Option String

def requiredDeviceFields : List String :=
  ["board", "serial", "sku", "storage_serial", "uart_adapter", "power_supply", "boot_firmware", "operator", "tested_at"]

def requiredStationFields : List String := ["station_id", "fixture_id", "operator_id", "trusted_key_fingerprint", "clock"]

def requiredArtifactBindingFields : List String :=
  ["version", "source_sha", "source_run_id", "build_artifact_sha256", "build_artifact_bytes"]

def requiredDeviceIdentityFields : List String := ["model", "compatible", "storage_by_id", "storage_serial", "root_partuuid"]

section Record

variable (T : Tools) (contract : Contract) (A : Args)

/-- `expected_from_lab_path`. -/
def expectedFromLabPath (path : PosixPath) : Option String × Option String :=
  let parts := ((toString path).toList.splitOn '/').map String.ofList
  if path.name ≠ "lab.json" || !parts.contains "release-lab-input" then (none, none)
  else match (parts.reverse.takeWhile (· ≠ "release-lab-input")).reverse with
    | version :: target :: _ :: _ => (some version, some target)
    | _ => (none, none)

/-- The errors of the fields at the top of the record. -/
def headErrors (payload : Fields) : List String :=
  let inferred := expectedFromLabPath A.path
  (["version", "target", "generated_at", "lab_id", "operator"].flatMap fun name => checkString s!"$.{name}" (field name payload)) ++
    (["version", "target"].flatMap fun name => (field name payload).asStr.toList.flatMap fun value =>
      failUnless s!"$.{name}: must be a safe path identifier" (isSafeId value)) ++
    (((A.expectedVersion.filter (· ≠ "")).or inferred.1).toList.flatMap fun expected =>
      failUnless s!"$.version: must match lab evidence path version {expected}" ((field "version" payload).pyEq (.str expected))) ++
    (((A.expectedTarget.filter (· ≠ "")).or inferred.2).toList.flatMap fun expected =>
      failUnless s!"$.target: must match lab evidence path target {expected}" ((field "target" payload).pyEq (.str expected)))

/-- The error of the schema; an old one is let through outside the strict profiles, where a value that no set can hold raises. -/
def schemaErrors (payload : Fields) : Except String (List String) :=
  let found := [s!"$.schema_version: must be {contract.schemaVersion}"]
  if (field "schema_version" payload).pyEq (.str contract.schemaVersion) then .ok []
  else if A.strict then .ok found
  else do
    guardError "TypeError" (field "schema_version" payload).isHashable
    .ok (if (field "schema_version" payload).pyEq (.str "suderra.lab-evidence.v2") then [] else found)

/-- The errors of the station. -/
def stationErrors (payload : Fields) : List String :=
  match field "station" payload with
  | .dict station =>
    checkStrings "$.station" requiredStationFields station ++
      failUnless "$.station.tool_versions: must be a non-empty object" ((field "tool_versions" station).asDict.any fun tools => !tools.isEmpty)
  | _ => ["$.station: must be an object"]

/-- The errors of the binding to the artifact. -/
def bindingErrors (payload : Fields) : List String :=
  match field "artifact_binding" payload with
  | .dict binding =>
    checkStrings "$.artifact_binding" (requiredArtifactBindingFields.filter (· ≠ "build_artifact_bytes")) binding ++
      failUnless "$.artifact_binding.version: must match top-level version" ((field "version" binding).pyEq (field "version" payload)) ++
      (match (field "source_sha" binding).asStr.filter (isHex 40) with
        | none => ["$.artifact_binding.source_sha: must be a lowercase git commit sha"]
        | some sha => A.expectedSourceSha.toList.flatMap fun expected =>
          failUnless s!"$.artifact_binding.source_sha: must match bound source sha {expected}" (sha = expected)) ++
      (A.expectedSourceRunId.toList.flatMap fun expected =>
        failUnless s!"$.artifact_binding.source_run_id: must match bound source Image Build run {expected}"
          ((field "source_run_id" binding).pyStr T.repr = expected)) ++
      checkSha256 "$.artifact_binding.build_artifact_sha256" (field "build_artifact_sha256" binding) ++
      checkPositive "$.artifact_binding.build_artifact_bytes" (field "build_artifact_bytes" binding)
  | _ => ["$.artifact_binding: must be an object"]

/-- The errors of what was read back from a device. -/
def readbackErrors (payload : Fields) (path : String) (device : Fields) : List String :=
  (match field "device_identity" device with
    | .dict identity => checkStrings s!"{path}.device_identity" requiredDeviceIdentityFields identity
    | _ => [s!"{path}.device_identity: must be an object"]) ++
  match field "readback" device with
  | .dict readback =>
    let expected := field "expected_sha256" readback
    let actual := field "actual_sha256" readback
    failUnless s!"{path}.readback.scope: must be full for release lab input" ((field "scope" readback).pyEq (.str "full")) ++
      checkSha256 s!"{path}.readback.expected_sha256" expected ++ checkSha256 s!"{path}.readback.actual_sha256" actual ++
      failUnless s!"{path}.readback.actual_sha256: must match expected_sha256"
        (expected.asStr.isNone || actual.asStr.isNone || expected.pyEq actual) ++
      checkPositive s!"{path}.readback.bytes_read" (field "bytes_read" readback) ++
      (((field "artifact_binding" payload).asDict.filter fun _ => A.strict).toList.flatMap fun binding =>
        failUnless s!"{path}.readback.expected_sha256: must match bound build artifact sha256"
            ((field "build_artifact_sha256" binding).asStr.isNone || expected.pyEq (field "build_artifact_sha256" binding)) ++
          failUnless s!"{path}.readback.bytes_read: must match bound build artifact bytes"
            ((field "build_artifact_bytes" binding).asInt.isNone ||
              (field "bytes_read" readback).pyEq (field "build_artifact_bytes" binding)))
  | _ => [s!"{path}.readback: must be an object"]

variable (files : Files)

/-- `check_relative_file` of a place of the record. -/
def checkRef (ref : Ref) : List String := checkRelativeFile T A files ref.place ref.path ref.sha256

/-- The file that a log of a device names. -/
def logRef (path : String) (p : Value × Nat) : Ref :=
  match p.1 with
  | .dict log => ⟨s!"{path}.logs[{p.2}].path", field "path" log, digestOf "sha256" log⟩
  | log => ⟨s!"{path}.logs[{p.2}]", log, none⟩

/-- The errors of a log of a device. -/
def logErrors (path : String) (p : Value × Nat) : List String :=
  checkRef T A files (logRef path p) ++
    match p.1 with
    | .dict log => checkSha256 s!"{path}.logs[{p.2}].sha256" (field "sha256" log)
    | _ => []

/-- The errors of the logs of a device. -/
def logsErrors (path : String) (device : Fields) : List String :=
  match field "logs" device with
  | .list (log :: logs) => (log :: logs).zipIdx.flatMap (logErrors T A files path)
  | _ => [s!"{path}.logs: must be a non-empty list"]

/-- The file that a check of a device or a negative test names. -/
def evidenceRef (path : String) (check : Fields) : Ref := ⟨s!"{path}.evidence", field "evidence" check, digestOf "evidence_sha256" check⟩

/-- The errors of a check of a device. -/
def checkErrors (isV3 : Bool) (path : String) (check : Value) : Except String (List String) :=
  match check with
  | .dict check => do
    let status ← checkStatus s!"{path}.status" (field "status" check)
    .ok (status ++ checkRef T A files (evidenceRef path check) ++
      (if isV3 then
        checkStrings path ["command", "expected", "observed", "parsed_result"] check ++
          (lookup "evidence_sha256" check).toList.flatMap (checkSha256 s!"{path}.evidence_sha256")
      else []) ++ checkPassed A s!"{path}.status" (field "status" check))
  | _ => .ok [s!"{path}: must be an object"]

/-- The error of the checks that a device lacks. -/
def missingCheckErrors (target path : String) (device checks : Fields) : List String :=
  let names := checks.map (·.1)
  let missing := sortNames ((contract.labChecks ++ if target = "x86_64" then contract.x86HardwareChecks else []).filter fun name =>
    !names.contains name)
  failUnless s!"{path}.checks: missing required checks: {commaSeparated missing}" missing.isEmpty ++
    failUnless s!"{path}.checks: revpi-connect-4 requires revpi-io check"
      (!(field "board" device).pyEq (.str "revpi-connect-4") || names.contains "revpi-io")

def devicePath (idx : Nat) : String := s!"$.devices[{idx}]"

def checkPath (path name : String) : String := s!"{path}.checks.{name}"

def testPath (idx : Nat) : String := s!"$.negative_tests[{idx}]"

/-- The checks of a device. -/
def checksOf (device : Fields) : Fields := ((field "checks" device).asDict).getD []

/-- The errors of a device. -/
def deviceErrors (isV3 : Bool) (payload : Fields) (target : String) (p : Value × Nat) : Except String (List String) :=
  match p.1 with
  | .dict device => do
    let path := devicePath p.2
    let status ← checkStatus s!"{path}.status" (field "status" device)
    let found ← (checksOf device).mapM fun q => checkErrors T A files isV3 (checkPath path q.1) q.2
    .ok (checkStrings path requiredDeviceFields device ++ (if isV3 then readbackErrors A payload path device else []) ++ status ++
      checkPassed A s!"{path}.status" (field "status" device) ++ logsErrors T A files path device ++
      failUnless s!"{path}.checks: must be an object" (field "checks" device).asDict.isSome ++
      missingCheckErrors contract target path device (checksOf device) ++ found.flatten)
  | _ => .ok [s!"{devicePath p.2}: must be an object"]

/-- The error of the boards that no device is. -/
def boardErrors (target : String) (devices : List Value) : List String :=
  let seen := devices.filterMap fun device => device.asDict.bind fun fields => (field "board" fields).asStr
  let missing := sortNames (((contract.boardsByTarget.lookup target).getD []).filter fun board => !seen.contains board)
  failUnless s!"$.devices: missing required board evidence: {commaSeparated missing}" missing.isEmpty

/-- The names of negative tests. -/
def testNames (tests : List Value) : List String := tests.filterMap fun item => item.asDict.bind fun fields => (field "name" fields).asStr

/-- The errors of the negative tests that are missing. -/
def missingTestErrors (target : String) (tests : List Value) : List String :=
  let missing := fun required : List String => sortNames (required.filter fun name => !(testNames tests).contains name)
  (if target = "pi-cm4-revpi-usb-installer" then
    failUnless s!"$.negative_tests: missing required negative tests: {commaSeparated (missing requiredUsbNegativeTests)}"
      (missing requiredUsbNegativeTests).isEmpty
  else []) ++
  if target = "x86_64" ∧ A.profile = "production-candidate" then
    failUnless s!"$.negative_tests: missing required x86 negative tests: {commaSeparated (missing contract.x86NegativeTests)}"
      (missing contract.x86NegativeTests).isEmpty
  else []

/-- The errors of the proof that nothing was written. -/
def writePreventionErrors (path : String) (item : Fields) : List String :=
  match field "write_prevention" item with
  | .dict prevention =>
    if (field "target_hash_unchanged" prevention).isTrue then
      checkSha256 s!"{path}.write_prevention.before_sha256" (field "before_sha256" prevention) ++
        checkSha256 s!"{path}.write_prevention.after_sha256" (field "after_sha256" prevention) ++
        failUnless s!"{path}.write_prevention.after_sha256: must match before_sha256"
          ((field "before_sha256" prevention).pyEq (field "after_sha256" prevention)) ++
        checkPositive s!"{path}.write_prevention.bytes_checked" (field "bytes_checked" prevention)
    else [s!"{path}.write_prevention.target_hash_unchanged: must be true"]
  | _ => [s!"{path}.write_prevention: must be an object"]

/-- The errors of the name of a negative test after others. -/
def testNameErrors (target path : String) (earlier : List Value) (item : Fields) : List String :=
  checkString s!"{path}.name" (field "name" item) ++
    (field "name" item).asStr.toList.flatMap fun name =>
      failUnless s!"{path}.name: must be unique" (!(testNames earlier).contains name) ++
        failUnless s!"{path}.name: must be a known required USB negative test"
          (target ≠ "pi-cm4-revpi-usb-installer" || requiredUsbNegativeTests.contains name)

/-- The errors of a negative test. -/
def testErrors (isV3 : Bool) (target : String) (tests : List Value) (p : Value × Nat) : Except String (List String) :=
  match p.1 with
  | .dict item => do
    let path := testPath p.2
    let status ← checkStatus s!"{path}.status" (field "status" item)
    .ok (testNameErrors target path (tests.take p.2) item ++ checkString s!"{path}.failure_code" (field "failure_code" item) ++ status ++
      (if isV3 then
        checkStrings path ["command", "expected", "observed"] item ++
          failUnless s!"{path}.exit_code: must be an integer" (field "exit_code" item).asInt.isSome
      else []) ++
      checkRef T A files (evidenceRef path item) ++ (if isV3 then writePreventionErrors path item else []) ++
      checkPassed A s!"{path}.status" (field "status" item))
  | _ => .ok [s!"{testPath p.2}: must be an object"]

/-- The devices and the negative tests of a record. -/
def devicesOf (payload : Fields) : List Value := (field "devices" payload).asList.getD []

def testsOf (payload : Fields) : List Value := (field "negative_tests" payload).asList.getD []

/-- The check of the station's bundle, which the old schema does not have. -/
def bundleCheck (isV3 : Bool) (payload : Fields) (registry : Option Value) : Except String (List String) :=
  if isV3 then checkStationBundle T A files payload registry else .ok []

/-- The errors of a record that was read. -/
def recordErrors (payload : Fields) (registry : Option Value) : Except String (List String) := do
  let isV3 := (field "schema_version" payload).pyEq (.str contract.schemaVersion)
  let target := ((lookup "target" payload).getD (.str "")).pyStr T.repr
  let schema ← schemaErrors contract A payload
  let devices ← (devicesOf payload).zipIdx.mapM (deviceErrors T contract A files isV3 payload target)
  let tests ← (testsOf payload).zipIdx.mapM (testErrors T A files isV3 target (testsOf payload))
  let bundle ← bundleCheck T A files isV3 payload registry
  .ok (schema ++ headErrors A payload ++ (if isV3 then stationErrors payload ++ bindingErrors T A payload else []) ++
    failUnless "$.devices: must be a non-empty list" (!(devicesOf payload).isEmpty) ++ devices.flatten ++
    boardErrors contract target (devicesOf payload) ++
    failUnless "$.negative_tests: must be a list" (field "negative_tests" payload).asList.isSome ++
    missingTestErrors contract A target (testsOf payload) ++ tests.flatten ++ bundle)

/-- The registry at a path, if one is given. -/
def readRegistry (path : Option PosixPath) : Except String (Option Value) :=
  path.elim (.ok none) fun path => (readJson T.toPython files path).map fun registry => registry.map Value.unique

/-- `validate_lab`: the errors, or an exception. -/
def validateLab : Except String (List String) :=
  match files A.path with
  | none => .ok [s!"{A.path}: cannot read lab evidence: {T.osError A.path}"]
  | some bytes => do
    let text ← orError "UnicodeDecodeError" (Utf8.decode bytes)
    match (T.loads (PyText.universalNewlines text.toList)).map Value.unique with
    | none => .ok [s!"{A.path}: invalid JSON: {T.jsonError text.toList}"]
    | some (.dict payload) => (readRegistry T files A.stationRegistryPath) >>= recordErrors T contract A files payload
    | some _ => .ok [s!"{A.path}: top-level JSON value must be an object"]

end Record

/-! ## The files of a record -/

section Refs

variable {T : Tools} {contract : Contract} {A : Args} {files files' : Files}

/-- The files that a device names. -/
def deviceRefs (p : Value × Nat) : List Ref :=
  match p.1 with
  | .dict device =>
    ((field "logs" device).asList.getD []).zipIdx.map (logRef (devicePath p.2)) ++
      (checksOf device).filterMap fun q => q.2.asDict.map (evidenceRef (checkPath (devicePath p.2) q.1))
  | _ => []

/-- The file that a negative test names. -/
def testRefs (p : Value × Nat) : List Ref := (p.1.asDict.map (evidenceRef (testPath p.2))).toList

/-- The files that the logs and the checks of the devices and the negative tests name. -/
def refs (payload : Fields) : List Ref := (devicesOf payload).zipIdx.flatMap deviceRefs ++ (testsOf payload).zipIdx.flatMap testRefs

/-- The path of a file that a record names. -/
def refPath (A : Args) (path : Value) : Option PosixPath := path.asStr.bind (relativePath A)

/-- The paths of the bundle, of the signature and of the public key. -/
def stationPath (A : Args) (payload : Fields) (object name : String) : Option PosixPath :=
  (field object payload).asDict.bind fun fields => refPath A (field name fields)

def bundlePath (A : Args) (payload : Fields) : Option PosixPath := stationPath A payload "station_bundle" "path"

def signaturePath (A : Args) (payload : Fields) : Option PosixPath := stationPath A payload "station_signature" "signature"

def publicKeyPath (A : Args) (payload : Fields) : Option PosixPath := stationPath A payload "station_signature" "public_key"

theorem mapM_congr {ε α β : Type} {f g : α → Except ε β} {xs : List α} (h : ∀ x ∈ xs, f x = g x) : xs.mapM f = xs.mapM g := by
  induction xs with
  | nil => rfl
  | cons x xs ih =>
    rw [List.forall_mem_cons] at h
    rw [List.mapM_cons, List.mapM_cons, h.1, ih h.2]

theorem checkErrors_congr {isV3 : Bool} {path : String} {check : Value}
    (h : ∀ fields, check = .dict fields → checkRef T A files (evidenceRef path fields) = checkRef T A files' (evidenceRef path fields)) :
    checkErrors T A files isV3 path check = checkErrors T A files' isV3 path check := by
  cases check with
  | dict fields => simp only [checkErrors, h fields rfl]
  | _ => rfl

theorem logsErrors_congr {path : String} {device : Fields}
    (h : ∀ q ∈ ((field "logs" device).asList.getD []).zipIdx, checkRef T A files (logRef path q) = checkRef T A files' (logRef path q)) :
    logsErrors T A files path device = logsErrors T A files' path device := by
  unfold logsErrors
  split
  · next log logs hlogs =>
    rw [hlogs] at h
    refine List.flatMap_congr fun q hq => ?_
    rw [logErrors, logErrors, h q hq]
  · rfl

/-- The errors of a device depend on the files only through those that it names. -/
theorem deviceErrors_congr {isV3 : Bool} {payload : Fields} {target : String} {p : Value × Nat}
    (h : ∀ ref ∈ deviceRefs p, checkRef T A files ref = checkRef T A files' ref) :
    deviceErrors T contract A files isV3 payload target p = deviceErrors T contract A files' isV3 payload target p := by
  obtain ⟨value, idx⟩ := p
  cases value with
  | dict device =>
    simp only [deviceRefs, List.forall_mem_append, List.forall_mem_map] at h
    have hchecks : ∀ q ∈ checksOf device, checkErrors T A files isV3 (checkPath (devicePath idx) q.1) q.2 =
        checkErrors T A files' isV3 (checkPath (devicePath idx) q.1) q.2 := by
      intro q hq
      refine checkErrors_congr fun fields hfields => h.2 _ (List.mem_filterMap.2 ⟨q, hq, ?_⟩)
      rw [hfields]
      rfl
    simp only [deviceErrors, mapM_congr hchecks, logsErrors_congr h.1]
  | _ => rfl

theorem testErrors_congr {isV3 : Bool} {target : String} {tests : List Value} {p : Value × Nat}
    (h : ∀ ref ∈ testRefs p, checkRef T A files ref = checkRef T A files' ref) :
    testErrors T A files isV3 target tests p = testErrors T A files' isV3 target tests p := by
  obtain ⟨value, idx⟩ := p
  cases value with
  | dict item =>
    have hitem : checkRef T A files (evidenceRef (testPath idx) item) = checkRef T A files' (evidenceRef (testPath idx) item) :=
      h _ (by simp [testRefs, Value.asDict])
    simp only [testErrors, hitem]
  | _ => rfl

/-- A file that `resolve_relative_file` looks at is the one that the path names. -/
theorem resolveRelativeFile_congr {path : String} {value : Value} {sha256 : Option String} {bytes : Option Int}
    (h : ∀ p, refPath A value = some p → files p = files' p) :
    resolveRelativeFile T A files path value sha256 bytes = resolveRelativeFile T A files' path value sha256 bytes := by
  unfold resolveRelativeFile
  split
  · rfl
  · next s hs =>
    split
    · rfl
    · next actual hactual =>
      have hpath : refPath A value = some actual := by
        rw [refPath, (Option.filter_eq_some_iff.1 hs).1, Option.bind_some, hactual]
      rw [h actual hpath]

theorem refPath_of_resolve {path : String} {value : Value} {sha256 : Option String} {bytes : Option Int} {p : PosixPath}
    (h : (resolveRelativeFile T A files path value sha256 bytes).2 = some p) : refPath A value = some p := by
  unfold resolveRelativeFile at h
  split at h
  · cases h
  · next s hs =>
    split at h
    · cases h
    · next actual hactual =>
      have hp : some actual = some p := by
        split_ifs at h
        · split at h <;> exact h
        · exact h
      rw [refPath, (Option.filter_eq_some_iff.1 hs).1, Option.bind_some, hactual, hp]

theorem resolveRelativeFile_eq (hcheck : A.checkFiles = true) {path s : String} {actual : PosixPath} {content : Bytes}
    {sha256 : Option String} {bytes : Option Int} (hstring : isString (.str s) = true) (hactual : relativePath A s = some actual)
    (hfile : files actual = some content) (hne : content ≠ []) (hbytes : ∀ n, bytes = some n → (content.length : Int) = n)
    (hsha : ∀ expected, sha256 = some expected → T.hexdigest content = expected) :
    resolveRelativeFile T A files path (.str s) sha256 bytes = ([], some actual) := by
  have hfilter : (Value.asStr (.str s)).filter (fun s => isString (.str s)) = some s := Option.filter_eq_some_iff.2 ⟨rfl, hstring⟩
  have hcontent : (files actual).filter (· ≠ []) = some content := Option.filter_eq_some_iff.2 ⟨hfile, by simpa using hne⟩
  unfold resolveRelativeFile
  simp only [hfilter, hactual, if_pos hcheck, hcontent, Prod.mk.injEq, and_true, List.append_eq_nil_iff, List.flatMap_eq_nil_iff,
    Option.mem_toList, failUnless_eq_nil, decide_eq_true_eq]
  exact ⟨hbytes, hsha⟩

/-- What the station signed, and the files that say so. -/
structure SameStation (A : Args) (payload : Fields) (files files' : Files) : Prop where
  bundle : ∀ p, bundlePath A payload = some p → files p = files' p
  signature : ∀ p, signaturePath A payload = some p → files p = files' p
  publicKey : ∀ p, publicKeyPath A payload = some p → files p = files' p

theorem checkStationBundle_congr {payload : Fields} {registry : Option Value} (h : SameStation A payload files files') :
    checkStationBundle T A files payload registry = checkStationBundle T A files' payload registry := by
  unfold checkStationBundle
  split
  · rfl
  · split
    · next bundle signature hbundle hsignature =>
      have hb : ∀ p, refPath A (field "path" bundle) = some p → files p = files' p := by
        intro p hp
        refine h.bundle p ?_
        rw [bundlePath, stationPath, hbundle]
        exact hp
      have hs : ∀ p, refPath A (field "signature" signature) = some p → files p = files' p := by
        intro p hp
        refine h.signature p ?_
        rw [signaturePath, stationPath, hsignature]
        exact hp
      have hk : ∀ p, refPath A (field "public_key" signature) = some p → files p = files' p := by
        intro p hp
        refine h.publicKey p ?_
        rw [publicKeyPath, stationPath, hsignature]
        exact hp
      have hbundleFile : bundleFile T A files bundle = bundleFile T A files' bundle := resolveRelativeFile_congr hb
      have hsignatureFile : signatureFile T A files signature = signatureFile T A files' signature := resolveRelativeFile_congr hs
      have hpublicKeyFile : publicKeyFile T A files signature = publicKeyFile T A files' signature := resolveRelativeFile_congr hk
      have hfields : stationFieldErrors T A files bundle signature = stationFieldErrors T A files' bundle signature := by
        simp only [stationFieldErrors, hbundleFile, hsignatureFile, hpublicKeyFile]
      have hrest : ∀ path, (bundleFile T A files' bundle).2 = some path →
          bundleFileErrors T files payload (publicKeyFile T A files' signature).2 (signatureFile T A files' signature).2 path =
            bundleFileErrors T files' payload (publicKeyFile T A files' signature).2 (signatureFile T A files' signature).2 path := by
        intro path hpath
        have hfile := hb path (refPath_of_resolve hpath)
        have hsigned : signatureErrors T files (publicKeyFile T A files' signature).2 (signatureFile T A files' signature).2 path =
            signatureErrors T files' (publicKeyFile T A files' signature).2 (signatureFile T A files' signature).2 path := by
          unfold signatureErrors
          split
          · next sig key hsig hkey => rw [hk key (refPath_of_resolve hkey), hs sig (refPath_of_resolve hsig), hfile]
          · rfl
        simp only [bundleFileErrors, hfile, hsigned]
      rw [hfields, hbundleFile, hsignatureFile, hpublicKeyFile]
      cases hpath : (bundleFile T A files' bundle).2 with
      | none => rfl
      | some path =>
        cases hcheck : A.checkFiles with
        | false => simp [Option.filter]
        | true =>
          simp only [Option.filter, if_true, Option.elim]
          rw [hrest path hpath]
    · rfl
    · rfl

/-- The errors of a record depend on the files only through those that it names and those of the station. -/
theorem recordErrors_congr {payload : Fields} {registry : Option Value} (hstation : SameStation A payload files files')
    (hrefs : ∀ ref ∈ refs payload, checkRef T A files ref = checkRef T A files' ref) :
    recordErrors T contract A files payload registry = recordErrors T contract A files' payload registry := by
  simp only [refs, List.forall_mem_append, List.forall_mem_flatMap] at hrefs
  have hdevices : ∀ p ∈ (devicesOf payload).zipIdx, ∀ isV3 target, deviceErrors T contract A files isV3 payload target p =
      deviceErrors T contract A files' isV3 payload target p :=
    fun p hp _ _ => deviceErrors_congr (hrefs.1 p hp)
  have htests : ∀ p ∈ (testsOf payload).zipIdx, ∀ isV3 target, testErrors T A files isV3 target (testsOf payload) p =
      testErrors T A files' isV3 target (testsOf payload) p :=
    fun p hp _ _ => testErrors_congr (hrefs.2 p hp)
  simp only [recordErrors, mapM_congr fun p hp => hdevices p hp _ _, mapM_congr fun p hp => htests p hp _ _,
    bundleCheck, checkStationBundle_congr hstation]

/-- A place of the record without errors names a file that is not empty and has the digest, if there is one. -/
theorem checkRef_eq_nil (hcheck : A.checkFiles = true) {ref : Ref} : checkRef T A files ref = [] ↔
    isString ref.path = true ∧ ∃ p bytes, refPath A ref.path = some p ∧ files p = some bytes ∧ bytes ≠ [] ∧
      ∀ expected, ref.sha256 = some expected → T.hexdigest bytes = expected := by
  obtain ⟨place, path, sha256⟩ := ref
  unfold checkRef checkRelativeFile
  constructor
  · intro h
    split at h
    · cases h
    · next s hs =>
      obtain ⟨hstr, hstring⟩ := Option.filter_eq_some_iff.1 hs
      rw [asStr_eq_some] at hstr
      split at h
      · cases h
      · next actual hactual =>
        rw [if_pos hcheck] at h
        split at h
        · cases h
        · next bytes hbytes =>
          obtain ⟨hfile, hne⟩ := Option.filter_eq_some_iff.1 hbytes
          refine ⟨by rw [hstr]; exact hstring, actual, bytes, by rw [hstr]; exact hactual, hfile, by simpa using hne, ?_⟩
          intro expected hexpected
          simp only [List.flatMap_eq_nil_iff, Option.mem_toList, failUnless_eq_nil, decide_eq_true_eq] at h
          exact h expected hexpected
  · rintro ⟨hstring, p, bytes, hpath, hfile, hne, hsha⟩
    cases path with
    | str s =>
      have hfilter : (Value.asStr (.str s)).filter (fun s => isString (.str s)) = some s :=
        Option.filter_eq_some_iff.2 ⟨rfl, hstring⟩
      have hactual : relativePath A s = some p := hpath
      have hbytes : (files p).filter (· ≠ []) = some bytes := Option.filter_eq_some_iff.2 ⟨hfile, by simpa using hne⟩
      rw [hfilter]
      simp only [hactual, if_pos hcheck, hbytes, List.flatMap_eq_nil_iff, Option.mem_toList, failUnless_eq_nil, decide_eq_true_eq]
      exact hsha
    | _ => cases hstring

/-- The record at the path, if it is an object. -/
def payloadOf (T : Tools) (A : Args) (files : Files) : Option Fields :=
  (files A.path).bind fun bytes => (Utf8.decode bytes).bind fun text =>
    ((T.loads (PyText.universalNewlines text.toList)).map Value.unique).bind Value.asDict

theorem payloadOf_eq {bytes : Bytes} {text : String} {value : Value} {payload : Fields} (hbytes : files A.path = some bytes)
    (htext : Utf8.decode bytes = some text) (hvalue : T.loads (PyText.universalNewlines text.toList) = some value)
    (hpayload : value.unique = .dict payload) : payloadOf T A files = some payload := by
  simp only [payloadOf, hbytes, Option.bind_some, htext, hvalue, Option.map_some, hpayload, Value.asDict]

theorem readRegistry_eq {path : PosixPath} {bytes : Bytes} {text : String} {value registry : Value} (hpath : A.stationRegistryPath = some path)
    (hbytes : files path = some bytes) (htext : Utf8.decode bytes = some text)
    (hvalue : T.loads (PyText.universalNewlines text.toList) = some value) (hregistry : value.unique = registry) :
    readRegistry T files A.stationRegistryPath = .ok (some registry) := by
  simp only [readRegistry, hpath, Option.elim, readJson, hbytes, htext, orError_some, ok_bind, hvalue, Except.map, Option.map_some,
    hregistry]

/-- The errors of a record are those of what was read. -/
theorem validateLab_eq {payload : Fields} (h : payloadOf T A files = some payload) :
    validateLab T contract A files = readRegistry T files A.stationRegistryPath >>= recordErrors T contract A files payload := by
  simp only [payloadOf, Option.bind_eq_some_iff, asDict_eq_some] at h
  obtain ⟨bytes, hbytes, text, htext, value, hvalue, rfl⟩ := h
  simp only [validateLab, hbytes, htext, orError_some, ok_bind, hvalue]

theorem deviceRefs_ok {isV3 : Bool} {payload : Fields} {target : String} {p : Value × Nat}
    (h : deviceErrors T contract A files isV3 payload target p = .ok []) : ∀ ref ∈ deviceRefs p, checkRef T A files ref = [] := by
  obtain ⟨value, idx⟩ := p
  cases value with
  | dict device =>
    obtain ⟨status, _, h⟩ := bind_ok_iff.1 h
    obtain ⟨found, hfound, h⟩ := bind_ok_iff.1 h
    simp only [Except.ok.injEq, List.append_eq_nil_iff] at h
    obtain ⟨⟨⟨⟨_, hlogs⟩, _⟩, _⟩, hflatten⟩ := h
    simp only [deviceRefs, List.forall_mem_append, List.forall_mem_map]
    constructor
    · intro q hq
      unfold logsErrors at hlogs
      split at hlogs
      · next log logs heq =>
        rw [heq] at hq
        exact (List.append_eq_nil_iff.1 (List.flatMap_eq_nil_iff.1 hlogs q hq)).1
      · cases hlogs
    · intro ref href
      obtain ⟨q, hq, href⟩ := List.mem_filterMap.1 href
      obtain ⟨check, hcheck, rfl⟩ := Option.map_eq_some_iff.1 href
      have herrors := mapM_flatten_eq_nil hfound hflatten q hq
      rw [asDict_eq_some.1 hcheck] at herrors
      obtain ⟨_, _, herrors⟩ := bind_ok_iff.1 herrors
      simp only [Except.ok.injEq, List.append_eq_nil_iff] at herrors
      exact herrors.1.1.2
  | _ => simp [deviceRefs]

theorem testRefs_ok {isV3 : Bool} {target : String} {tests : List Value} {p : Value × Nat}
    (h : testErrors T A files isV3 target tests p = .ok []) : ∀ ref ∈ testRefs p, checkRef T A files ref = [] := by
  obtain ⟨value, idx⟩ := p
  cases value with
  | dict item =>
    obtain ⟨status, _, h⟩ := bind_ok_iff.1 h
    simp only [Except.ok.injEq, List.append_eq_nil_iff] at h
    intro ref href
    obtain rfl : ref = evidenceRef (testPath idx) item := by simpa [testRefs, Value.asDict] using href
    exact h.1.1.2
  | _ => simp [testRefs, Value.asDict]

/-- A file that was resolved without errors against a digest has it. -/
theorem resolveRelativeFile_ok (hcheck : A.checkFiles = true) {path : String} {value : Value} {sha256 : String} {bytes : Option Int}
    (h : (resolveRelativeFile T A files path value (some sha256) bytes).1 = []) :
    ∀ p, refPath A value = some p → ∃ content, files p = some content ∧ T.hexdigest content = sha256 := by
  intro p hp
  unfold resolveRelativeFile at h
  split at h
  · cases h
  · next s hs =>
    have hactual : relativePath A s = some p := by
      rw [refPath, (Option.filter_eq_some_iff.1 hs).1, Option.bind_some] at hp
      exact hp
    simp only [hactual, if_pos hcheck] at h
    split at h
    · cases h
    · next content hcontent =>
      simp only [List.append_eq_nil_iff, Option.toList_some, List.flatMap_cons, List.flatMap_nil, List.append_nil, failUnless_eq_nil,
        decide_eq_true_eq] at h
      exact ⟨content, (Option.filter_eq_some_iff.1 hcontent).1, h.2⟩

theorem publicKey_ok (hcheck : A.checkFiles = true) (hstrict : A.strict = true) {payload : Fields} {registry : Option Value}
    (h : checkStationBundle T A files payload registry = .ok []) :
    ∃ sha256, digestOf "public_key_sha256" (((field "station_signature" payload).asDict).getD []) = some sha256 ∧
      ∀ p, publicKeyPath A payload = some p → ∃ bytes, files p = some bytes ∧ T.hexdigest bytes = sha256 := by
  rw [checkStationBundle, hstrict] at h
  simp only [Bool.not_true, Bool.false_eq_true, if_false] at h
  split at h
  · next bundle signature _ hsignature =>
    obtain ⟨rest, _, h⟩ := bind_ok_iff.1 h
    simp only [Except.ok.injEq, List.append_eq_nil_iff, stationFieldErrors] at h
    obtain ⟨⟨⟨⟨⟨⟨_, hsha⟩, _⟩, hkey⟩, _⟩, _⟩, _⟩ := h
    obtain ⟨sha256, hdigest, _⟩ := (Option.any_eq_true _ _).1 (failUnless_eq_nil.1 hsha)
    refine ⟨sha256, by rw [hsignature]; exact hdigest, fun p hp => ?_⟩
    rw [publicKeyFile, digestOf, hdigest] at hkey
    refine resolveRelativeFile_ok hcheck hkey p ?_
    rw [publicKeyPath, stationPath, hsignature] at hp
    exact hp
  · cases h
  · cases h

/-- What is known of a record that was accepted with its files, in a strict profile. -/
structure Accepted (T : Tools) (A : Args) (files : Files) (payload : Fields) : Prop where
  refs : ∀ ref ∈ refs payload, checkRef T A files ref = []
  publicKey : ∃ sha256, digestOf "public_key_sha256" (((field "station_signature" payload).asDict).getD []) = some sha256 ∧
    ∀ p, publicKeyPath A payload = some p → ∃ bytes, files p = some bytes ∧ T.hexdigest bytes = sha256

theorem recordErrors_ok (hcheck : A.checkFiles = true) (hstrict : A.strict = true) {payload : Fields} {registry : Option Value}
    (h : recordErrors T contract A files payload registry = .ok []) : Accepted T A files payload := by
  obtain ⟨schema, hschema, h⟩ := bind_ok_iff.1 h
  obtain ⟨devices, hdevices, h⟩ := bind_ok_iff.1 h
  obtain ⟨tests, htests, h⟩ := bind_ok_iff.1 h
  obtain ⟨bundle, hbundle, h⟩ := bind_ok_iff.1 h
  simp only [Except.ok.injEq, List.append_eq_nil_iff] at h
  obtain ⟨⟨⟨⟨⟨⟨⟨⟨⟨hschemaNil, _⟩, _⟩, _⟩, hdevicesNil⟩, _⟩, _⟩, _⟩, htestsNil⟩, hbundleNil⟩ := h
  constructor
  · simp only [refs, List.forall_mem_append, List.forall_mem_flatMap]
    exact ⟨fun p hp => deviceRefs_ok (mapM_flatten_eq_nil hdevices hdevicesNil p hp),
      fun p hp => testRefs_ok (mapM_flatten_eq_nil htests htestsNil p hp)⟩
  · have hv3 : (field "schema_version" payload).pyEq (.str contract.schemaVersion) = true := by
      by_contra hne
      rw [schemaErrors, if_neg hne, if_pos hstrict, hschemaNil] at hschema
      cases hschema
    rw [bundleCheck, hv3, if_pos rfl, hbundleNil] at hbundle
    exact publicKey_ok hcheck hstrict hbundle

theorem validateLab_ok (hcheck : A.checkFiles = true) (hstrict : A.strict = true) {payload : Fields}
    (hpayload : payloadOf T A files = some payload) (h : validateLab T contract A files = .ok []) : Accepted T A files payload := by
  rw [validateLab_eq hpayload] at h
  obtain ⟨registry, _, h⟩ := bind_ok_iff.1 h
  exact recordErrors_ok hcheck hstrict h

/-! ## The files that the signature fixes -/

/-- Two directories with the same record, bundle, signature and registry. -/
structure SameSigned (A : Args) (payload : Fields) (files files' : Files) : Prop where
  record : files A.path = files' A.path
  registry : ∀ p, A.stationRegistryPath = some p → files p = files' p
  bundle : ∀ p, bundlePath A payload = some p → files p = files' p
  signature : ∀ p, signaturePath A payload = some p → files p = files' p

/-- A file of which the record has a digest at some place, or that is one of those that were signed. -/
def Pinned (A : Args) (payload : Fields) (p : PosixPath) : Prop :=
  p = A.path ∨ A.stationRegistryPath = some p ∨ bundlePath A payload = some p ∨ signaturePath A payload = some p ∨
    publicKeyPath A payload = some p ∨ ∃ ref ∈ refs payload, refPath A ref.path = some p ∧ ref.sha256.isSome = true

theorem eq_of_pinned (hcheck : A.checkFiles = true) {payload : Fields} (h : Accepted T A files payload) (h' : Accepted T A files' payload)
    (hsame : SameSigned A payload files files')
    (hsha : ∀ p bytes, files p = some bytes → ∀ other, T.hexdigest other = T.hexdigest bytes → other = bytes) {p : PosixPath}
    (hp : Pinned A payload p) : files' p = files p := by
  have hdigest : ∀ bytes bytes', files p = some bytes → files' p = some bytes' → T.hexdigest bytes' = T.hexdigest bytes →
      files' p = files p := by
    intro bytes bytes' hbytes hbytes' heq
    rw [hbytes, hbytes', hsha p bytes hbytes bytes' heq]
  rcases hp with rfl | hp | hp | hp | hp | ⟨ref, href, hp, hsome⟩
  · exact hsame.record.symm
  · exact (hsame.registry p hp).symm
  · exact (hsame.bundle p hp).symm
  · exact (hsame.signature p hp).symm
  · obtain ⟨sha256, hsha256, hkey⟩ := h.publicKey
    obtain ⟨sha256', hsha256', hkey'⟩ := h'.publicKey
    obtain ⟨bytes, hbytes, rfl⟩ := hkey p hp
    obtain ⟨bytes', hbytes', rfl⟩ := hkey' p hp
    exact hdigest bytes bytes' hbytes hbytes' (Option.some.inj (hsha256'.symm.trans hsha256))
  · obtain ⟨expected, hexpected⟩ := Option.isSome_iff_exists.1 hsome
    obtain ⟨_, q, bytes, hq, hbytes, _, hmatch⟩ := (checkRef_eq_nil hcheck).1 (h.refs ref href)
    obtain ⟨_, q', bytes', hq', hbytes', _, hmatch'⟩ := (checkRef_eq_nil hcheck).1 (h'.refs ref href)
    cases hp.symm.trans hq
    cases hp.symm.trans hq'
    exact hdigest bytes bytes' hbytes hbytes' ((hmatch' expected hexpected).trans (hmatch expected hexpected).symm)

/-- A file that is not pinned may hold anything but nothing. -/
theorem accepted_update (hcheck : A.checkFiles = true) {payload : Fields} (hpayload : payloadOf T A files = some payload)
    (haccepted : Accepted T A files payload) (h : validateLab T contract A files = .ok []) {p : PosixPath} (hp : ¬Pinned A payload p)
    {bytes : Bytes} (hbytes : bytes ≠ []) :
    validateLab T contract A (Function.update files p (some bytes)) = .ok [] ∧
      SameSigned A payload files (Function.update files p (some bytes)) := by
  simp only [Pinned, not_or] at hp
  obtain ⟨hrecord, hregistry, hbundle, hsignature, hkey, hrefs⟩ := hp
  have hother : ∀ {q}, q ≠ p → files q = Function.update files p (some bytes) q := fun hq => (Function.update_of_ne hq _ _).symm
  have hsame : SameSigned A payload files (Function.update files p (some bytes)) :=
    { record := hother fun heq => hrecord heq.symm
      registry := fun q hq => hother fun heq => hregistry (heq ▸ hq)
      bundle := fun q hq => hother fun heq => hbundle (heq ▸ hq)
      signature := fun q hq => hother fun heq => hsignature (heq ▸ hq) }
  refine ⟨?_, hsame⟩
  have hpayload' : payloadOf T A (Function.update files p (some bytes)) = some payload := by
    rw [payloadOf, ← hsame.record]
    exact hpayload
  have hreg : readRegistry T (Function.update files p (some bytes)) A.stationRegistryPath = readRegistry T files A.stationRegistryPath := by
    cases hpath : A.stationRegistryPath with
    | none => rfl
    | some q => simp only [readRegistry, Option.elim, readJson, hsame.registry q hpath]
  have hstation : SameStation A payload files (Function.update files p (some bytes)) :=
    ⟨hsame.bundle, hsame.signature, fun q hq => hother fun heq => hkey (heq ▸ hq)⟩
  have hchecks : ∀ ref ∈ refs payload, checkRef T A files ref = checkRef T A (Function.update files p (some bytes)) ref := by
    intro ref href
    rw [haccepted.refs ref href, eq_comm, checkRef_eq_nil hcheck]
    obtain ⟨hstring, q, content, hq, hcontent, hne, hmatch⟩ := (checkRef_eq_nil hcheck).1 (haccepted.refs ref href)
    refine ⟨hstring, q, ?_⟩
    by_cases heq : q = p
    · subst heq
      have hnone : ref.sha256.isSome ≠ true := fun hsome => hrefs ⟨ref, href, hq, hsome⟩
      exact ⟨bytes, hq, Function.update_self .., hbytes, fun expected hexpected => absurd (by rw [hexpected]; rfl) hnone⟩
    · exact ⟨content, hq, (hother heq).symm.trans hcontent, hne, hmatch⟩
  rw [validateLab_eq hpayload', hreg]
  rw [validateLab_eq hpayload] at h
  obtain ⟨registry, hregistry, h⟩ := bind_ok_iff.1 h
  rw [hregistry, ok_bind, ← recordErrors_congr hstation hchecks, h]

theorem bundleFileErrors_eq_nil {payload bundle : Fields} {k s path : PosixPath} {bytes : Bytes} {text : String} {value : Value}
    {verify : Option Bytes → Option Bytes → Option Bytes → Option String} (hbytes : files path = some bytes)
    (htext : Utf8.decode bytes = some text) (hvalue : T.loads (PyText.universalNewlines text.toList) = some value)
    (hbundle : value.unique = .dict bundle) (hopenssl : T.openssl = some verify)
    (hverify : verify (files k) (files s) (some bytes) = none) (hfields : bundleErrors T payload bundle = []) :
    bundleFileErrors T files payload (some k) (some s) path = .ok [] := by
  simp only [bundleFileErrors, hbytes, htext, orError_some, ok_bind, hvalue, Option.map_some, hbundle, hfields, signatureErrors, hopenssl,
    hverify, List.append_nil]

/-- A bundle without errors, from its files and from what is in them. -/
theorem checkStationBundle_eq_nil (hcheck : A.checkFiles = true) (hstrict : A.strict = true) {payload bundle signature : Fields}
    {registry : Option Value} {b s k : PosixPath} (hbundleField : field "station_bundle" payload = .dict bundle)
    (hsignatureField : field "station_signature" payload = .dict signature) (hbundle : bundleFile T A files bundle = ([], some b))
    (hsignature : signatureFile T A files signature = ([], some s)) (hkey : publicKeyFile T A files signature = ([], some k))
    (hstation : stationFieldErrors T A files bundle signature = [])
    (hregistry : checkStationRegistry T A payload registry (field "public_key_sha256" signature) = [])
    (hfingerprint : fingerprintErrors payload signature = []) (hfile : bundleFileErrors T files payload (some k) (some s) b = .ok []) :
    checkStationBundle T A files payload registry = .ok [] := by
  simp only [checkStationBundle, hstrict, Bool.not_true, Bool.false_eq_true, if_false, hbundleField, hsignatureField, hstation, hregistry,
    hfingerprint, hbundle, hsignature, hkey, hcheck, Option.filter, if_true, Option.elim, hfile, ok_bind, List.append_nil]

/-! ### One record

Three boards of the target `rpi4`, all of whose evidence is in one file that is named without a digest.
-/

def samplePem : Bytes :=
  [0x2d, 0x2d, 0x2d, 0x2d, 0x2d, 0x42, 0x45, 0x47, 0x49, 0x4e, 0x20, 0x50, 0x55, 0x42, 0x4c, 0x49, 0x43, 0x20, 0x4b, 0x45,
    0x59, 0x2d, 0x2d, 0x2d, 0x2d, 0x2d, 0x0a, 0x4d, 0x43, 0x6f, 0x77, 0x42, 0x51, 0x59, 0x44, 0x4b, 0x32, 0x56, 0x77, 0x41,
    0x79, 0x45, 0x41, 0x4f, 0x32, 0x6f, 0x6e, 0x76, 0x4d, 0x36, 0x32, 0x70, 0x43, 0x31, 0x69, 0x6f, 0x36, 0x6a, 0x51, 0x4b,
    0x6d, 0x38, 0x4e, 0x63, 0x32, 0x55, 0x79, 0x46, 0x58, 0x63, 0x64, 0x34, 0x6b, 0x4f, 0x6d, 0x4f, 0x73, 0x42, 0x49, 0x6f,
    0x59, 0x74, 0x5a, 0x32, 0x69, 0x6b, 0x3d, 0x0a, 0x2d, 0x2d, 0x2d, 0x2d, 0x2d, 0x45, 0x4e, 0x44, 0x20, 0x50, 0x55, 0x42,
    0x4c, 0x49, 0x43, 0x20, 0x4b, 0x45, 0x59, 0x2d, 0x2d, 0x2d, 0x2d, 0x2d, 0x0a]

def sampleSignature : Bytes :=
  [0xb1, 0x1a, 0x43, 0xba, 0xa7, 0x85, 0x54, 0x07, 0xc1, 0x2c, 0x62, 0x4f, 0x00, 0x96, 0xef, 0x4d, 0x2d, 0x03, 0x5d, 0xd3,
    0x46, 0x03, 0xd2, 0x96, 0x73, 0x72, 0xd4, 0x43, 0xe3, 0x2c, 0x7f, 0xe5, 0x8d, 0x2e, 0xdd, 0xa0, 0xce, 0x92, 0x19, 0x43,
    0x76, 0x73, 0x60, 0x9c, 0x84, 0x41, 0x08, 0x72, 0x72, 0x01, 0x7f, 0x7e, 0xf3, 0xcf, 0x5e, 0xac, 0x98, 0x89, 0x2f, 0x42,
    0x8b, 0x50, 0x91, 0x04]

/-- `ok` and a newline. -/
def sampleBench : Bytes := [0x6f, 0x6b, 0x0a]

def sampleContract : Contract where
  schemaVersion := "suderra.lab-evidence.v3"
  labChecks := ["board-identity", "artifact-hash", "flash-transcript", "full-readback-hash", "serial-boot-log", "post-install-boot",
    "partitions", "root-data-mounts", "network", "listeners", "failed-units", "thermal", "watchdog"]
  x86HardwareChecks := ["tpm-presence", "secure-boot-enforced", "rauc-rollback", "dm-verity-tamper-rejection", "boot-tamper-rejection",
    "power-cycle-transcript"]
  x86NegativeTests := ["dm-verity-rootfs-tamper", "secure-boot-unsigned-uki", "rauc-health-rollback"]
  boardsByTarget := [("rpi4", ["raspberry-pi-4-model-b", "cm4-lite-sd", "cm4-emmc-io-board"])]

def sampleArgs : Args where
  path := ⟨"/", ["lab", "lab.json"]⟩
  checkFiles := true
  requirePass := true
  expectedVersion := none
  expectedTarget := none
  profile := "production-candidate"
  expectedSourceSha := none
  expectedSourceRunId := none
  stationRegistryPath := some ⟨"/", ["lab", "registry.json"]⟩

def samplePath (name : String) : PosixPath := ⟨"/", ["lab", name]⟩

def samplePemSha256 : String := "c38bd1e7d6607bf7785929b0cdf8e2d20d33583e8a8f6cde37b9b6f412583978"

def sampleSignatureSha256 : String := "d61682a90e6840a616948effbd9affb0565980572ac1fca4871bef7779aeea5e"

def sampleBenchSha256 : String := "dc51b8c96c2d745df3bd5590d990230a482fd247123599548e0632fdbf97fc22"

def sampleImageSha256 : String := "254eddf15d9534e3b20c55469077aa2f24f167aa4b897a36381d3e251e4829c2"

def samplePayloadSha256 : String := "f58603ea67a5d824be39a50f718f2c1515db5c4d7a711f07b33f1643fa772158"

def sampleBundleSha256 : String := "d6f4573a820224e09a41f702f19bc415a10d92439d4752cc841d0b9d35efaf8b"

def sampleLabSha256 : String := "4a786dd081aef0669089d39e341331169dcaba14f7c5db416262ad3f904af816"

def sampleRegistrySha256 : String := "d33aef6ed21dd8d0d580970c6749e7e067eae38c2f5a750351a123072d3bf631"

def sampleCheck : Value :=
  .dict [("status", .str "passed"), ("evidence", .str "bench.log"), ("command", .str "run"), ("expected", .str "ok"),
    ("observed", .str "ok"), ("parsed_result", .str "ok")]

def sampleDevice (board : String) : Value :=
  .dict [("board", .str board), ("serial", .str "1"), ("sku", .str "1"), ("storage_serial", .str "1"), ("uart_adapter", .str "1"),
    ("power_supply", .str "1"), ("boot_firmware", .str "1"), ("operator", .str "1"), ("tested_at", .str "1"),
    ("device_identity", .dict [("model", .str "1"), ("compatible", .str "1"), ("storage_by_id", .str "1"), ("storage_serial", .str "1"),
      ("root_partuuid", .str "1")]),
    ("readback", .dict [("scope", .str "full"), ("expected_sha256", .str sampleImageSha256), ("actual_sha256", .str sampleImageSha256),
      ("bytes_read", .int 6)]),
    ("status", .str "passed"), ("logs", .list [.str "bench.log"]),
    ("checks", .dict (sampleContract.labChecks.map fun name => (name, sampleCheck)))]

/-- The record without the members of the station. -/
def sampleUnsigned : Fields :=
  [("schema_version", .str "suderra.lab-evidence.v3"), ("version", .str "v1.0.0"), ("target", .str "rpi4"),
    ("generated_at", .str "2026-01-01T00:00:00Z"), ("lab_id", .str "lab-1"), ("operator", .str "op"),
    ("station", .dict [("station_id", .str "st-1"), ("fixture_id", .str "fx-1"), ("operator_id", .str "op"),
      ("trusted_key_fingerprint", .str samplePemSha256), ("clock", .str "ntp"), ("tool_versions", .dict [("flash", .str "1")])]),
    ("artifact_binding", .dict [("version", .str "v1.0.0"), ("source_sha", .str "0123456789abcdef0123456789abcdef01234567"),
      ("source_run_id", .str "1"), ("build_artifact_sha256", .str sampleImageSha256), ("build_artifact_bytes", .int 6)]),
    ("devices", .list (["raspberry-pi-4-model-b", "cm4-lite-sd", "cm4-emmc-io-board"].map sampleDevice)), ("negative_tests", .list [])]

def samplePayload : Fields :=
  sampleUnsigned ++
    [("station_bundle", .dict [("schema_version", .str bundleSchemaVersion), ("sha256", .str sampleBundleSha256), ("bytes", .int 402),
      ("path", .str "bundle.json")]),
    ("station_signature", .dict [("algorithm", .str "openssl-pkeyutl-ed25519-raw"), ("signature", .str "bundle.sig"),
      ("signature_sha256", .str sampleSignatureSha256), ("public_key", .str "station.pem"), ("public_key_sha256", .str samplePemSha256)])]

def sampleBundle : Fields :=
  [("schema_version", .str bundleSchemaVersion), ("version", .str "v1.0.0"), ("target", .str "rpi4"), ("lab_id", .str "lab-1"),
    ("station_id", .str "st-1"), ("source_sha", .str "0123456789abcdef0123456789abcdef01234567"), ("source_run_id", .str "1"),
    ("build_artifact_sha256", .str sampleImageSha256), ("build_artifact_bytes", .int 6), ("lab_payload_sha256", .str samplePayloadSha256)]

def sampleRegistry : Fields :=
  [("schema_version", .str registrySchemaVersion),
    ("stations", .list [.dict [("station_id", .str "st-1"), ("fixture_id", .str "fx-1"), ("public_key_sha256", .str samplePemSha256),
      ("allowed_targets", .list [.str "rpi4"]), ("calibration_expires_at", .str "2099-01-01T00:00:00Z"),
      ("adapter_inventory", .dict [("flash", .dict [("role", .str "flash"), ("id", .str "a"), ("version", .str "1"),
        ("binary_sha256", .str sampleImageSha256), ("command_schema_id", .str "c")])]),
      ("operator_roles", .list [.str "lead"]), ("operator_authorization", .str "signed"), ("allowed_storage_by_id", .list [.str "1"])]])]

/-- The text of a document without spaces. -/
def sampleText (fields : Fields) : Bytes := Utf8.encode (String.ofList (JsonText.write (JsonText.compactAscii fun _ => []) 0 (.dict fields)))

def hexBytes (digits : String) : Bytes := (Hex.decode (digits.toList.map fun c => UInt8.ofNat c.toNat)).getD []

/-- The digests of the files, and of the text that the record is signed as. -/
def sampleDigest (bytes : Bytes) : String :=
  if bytes = samplePem then samplePemSha256 else if bytes = sampleSignature then sampleSignatureSha256
  else if bytes = sampleBench then sampleBenchSha256 else if bytes = sampleText samplePayload then sampleLabSha256
  else if bytes = sampleText sampleBundle then sampleBundleSha256
  else if bytes = sampleText sampleRegistry then sampleRegistrySha256 else samplePayloadSha256

def sampleSha256 (bytes : Bytes) : Bytes := hexBytes (sampleDigest bytes)

def sampleTools : Tools where
  sha256 := sampleSha256
  loads := JsonText.read
  repr := fun _ => ""
  fromIsoformat := fun text => if text = "2099-01-01T00:00:00+00:00" then some 4070908800000000 else none
  now := 1767225600000000
  osError := fun path => s!"[Errno 2] No such file or directory: '{path}'"
  jsonError := fun _ => "Expecting value: line 1 column 1 (char 0)"
  float := fun _ => []
  openssl := some fun publicKey signature bundle =>
    if publicKey = some samplePem ∧ signature = some sampleSignature ∧ bundle = some (sampleText sampleBundle) then none
    else some "Signature Verification Failure"

def sampleFiles : Files := fun p =>
  if p = samplePath "lab.json" then some (sampleText samplePayload)
  else if p = samplePath "registry.json" then some (sampleText sampleRegistry)
  else if p = samplePath "bundle.json" then some (sampleText sampleBundle)
  else if p = samplePath "bundle.sig" then some sampleSignature
  else if p = samplePath "station.pem" then some samplePem
  else if p = samplePath "bench.log" then some sampleBench
  else none

/-- The text of a document is read back. -/
theorem readable_sample {fields : Fields} (hplain : (Value.dict fields).plain = true) : ∃ text, Utf8.decode (sampleText fields) = some text ∧
    sampleTools.loads (PyText.universalNewlines text.toList) = some (.dict fields) := by
  refine ⟨_, Utf8.decode_encode _, ?_⟩
  rw [String.toList_ofList, PyText.universalNewlines_eq ((JsonText.compactAscii_noReturn _).write _ 0 hplain)]
  exact JsonText.read_write (JsonText.compactAscii_lawful _) hplain

/-- The record as it is signed, with its members sorted. -/
def sampleSigned : Fields := ((Value.dict sampleUnsigned).sortKeys.asDict).getD []

theorem unique_sample : (Value.dict samplePayload).unique = .dict samplePayload ∧ (Value.dict sampleBundle).unique = .dict sampleBundle ∧
    (Value.dict sampleRegistry).unique = .dict sampleRegistry := ⟨rfl, rfl, rfl⟩

theorem plain_sample : (Value.dict samplePayload).plain = true ∧ (Value.dict sampleBundle).plain = true ∧
    (Value.dict sampleRegistry).plain = true ∧ (Value.dict sampleSigned).plain = true := by decide +kernel

theorem sampleText_ne {a b : Fields} (ha : (Value.dict a).plain = true) (hb : (Value.dict b).plain = true)
    (hne : (a.length, (lookup "devices" a).isSome) ≠ (b.length, (lookup "devices" b).isSome)) : sampleText a ≠ sampleText b := by
  intro h
  obtain ⟨text, htext, hread⟩ := readable_sample ha
  obtain ⟨text', htext', hread'⟩ := readable_sample hb
  rw [h, htext', Option.some.injEq] at htext
  rw [← htext, hread', Option.some.injEq] at hread
  cases hread
  exact hne rfl

theorem head_sampleText (p : String × Value) (fields : Fields) : (sampleText (p :: fields)).head? = some 0x7B := by
  obtain ⟨name, value⟩ := p
  rw [sampleText, JsonText.write, Utf8.encode_ofList]
  rfl

/-- The files that are no documents do not start with a brace. -/
theorem sampleText_ne_file (p : String × Value) (fields : Fields) :
    sampleText (p :: fields) ≠ samplePem ∧ sampleText (p :: fields) ≠ sampleSignature ∧ sampleText (p :: fields) ≠ sampleBench := by
  have hhead := head_sampleText p fields
  exact ⟨fun h => absurd (h ▸ hhead) (by decide), fun h => absurd (h ▸ hhead) (by decide), fun h => absurd (h ▸ hhead) (by decide)⟩

/-- Digits are what the bytes are encoded as that they are decoded to. -/
theorem encode_hexBytes {digits : List Char} (h : (Hex.decode (digits.map fun c => UInt8.ofNat c.toNat)).map Hex.encode = some digits) :
    String.ofList (Hex.encode (hexBytes (String.ofList digits))) = String.ofList digits := by
  obtain ⟨bytes, hbytes, rfl⟩ := Option.map_eq_some_iff.1 h
  rw [hexBytes, String.toList_ofList, hbytes, Option.getD_some]

theorem hexdigest_eq_sampleDigest (bytes : Bytes) : sampleTools.hexdigest bytes = sampleDigest bytes := by
  have hhex : ∀ digits ∈ [samplePemSha256, sampleSignatureSha256, sampleBenchSha256, sampleLabSha256, sampleBundleSha256,
      sampleRegistrySha256, samplePayloadSha256], String.ofList (Hex.encode (hexBytes digits)) = digits := by
    simp only [List.forall_mem_cons, List.not_mem_nil, false_implies, implies_true, and_true]
    refine ⟨?_, ?_, ?_, ?_, ?_, ?_, ?_⟩ <;> exact encode_hexBytes (by decide +kernel)
  refine hhex _ ?_
  unfold sampleDigest
  split_ifs <;> simp

theorem sampleDigest_document : sampleDigest (sampleText samplePayload) = sampleLabSha256 ∧
    sampleDigest (sampleText sampleBundle) = sampleBundleSha256 ∧ sampleDigest (sampleText sampleRegistry) = sampleRegistrySha256 ∧
    sampleDigest (sampleText sampleSigned) = samplePayloadSha256 := by
  obtain ⟨hpayload, hbundle, hregistry, hsigned⟩ := plain_sample
  have hdocument : ∀ fields ∈ [samplePayload, sampleBundle, sampleRegistry, sampleSigned], sampleDigest (sampleText fields) =
      if sampleText fields = sampleText samplePayload then sampleLabSha256
      else if sampleText fields = sampleText sampleBundle then sampleBundleSha256
      else if sampleText fields = sampleText sampleRegistry then sampleRegistrySha256 else samplePayloadSha256 := by
    intro fields hfields
    have hfile : sampleText fields ≠ samplePem ∧ sampleText fields ≠ sampleSignature ∧ sampleText fields ≠ sampleBench := by
      simp only [List.mem_cons, List.not_mem_nil, or_false] at hfields
      rcases hfields with rfl | rfl | rfl | rfl <;> exact sampleText_ne_file _ _
    rw [sampleDigest, if_neg hfile.1, if_neg hfile.2.1, if_neg hfile.2.2]
  have hbundlePayload := sampleText_ne hbundle hpayload (by decide)
  have hregistryPayload := sampleText_ne hregistry hpayload (by decide)
  have hregistryBundle := sampleText_ne hregistry hbundle (by decide)
  have hsignedPayload := sampleText_ne hsigned hpayload (by decide)
  have hsignedBundle := sampleText_ne hsigned hbundle (by decide)
  have hsignedRegistry := sampleText_ne hsigned hregistry (by decide)
  simp only [List.forall_mem_cons, List.not_mem_nil, false_implies, implies_true, and_true] at hdocument
  obtain ⟨h₁, h₂, h₃, h₄⟩ := hdocument
  refine ⟨?_, ?_, ?_, ?_⟩
  · rw [h₁, if_pos trivial]
  · rw [h₂, if_neg hbundlePayload, if_pos trivial]
  · rw [h₃, if_neg hregistryPayload, if_neg hregistryBundle, if_pos trivial]
  · rw [h₄, if_neg hsignedPayload, if_neg hsignedBundle, if_neg hsignedRegistry]

theorem sampleDigest_file : sampleDigest samplePem = samplePemSha256 ∧ sampleDigest sampleSignature = sampleSignatureSha256 ∧
    sampleDigest sampleBench = sampleBenchSha256 := by decide

def sampleStation (name : String) : Fields := ((field name samplePayload).asDict).getD []

theorem bundleFile_sample :
    bundleFile sampleTools sampleArgs sampleFiles (sampleStation "station_bundle") = ([], some (samplePath "bundle.json")) := by
  refine resolveRelativeFile_eq rfl (by decide) (by decide) rfl (fun h => ?_) (fun n hn => ?_) (fun expected hexpected => ?_)
  · have hhead : (sampleText sampleBundle).head? = some 0x7B := head_sampleText _ _
    rw [h] at hhead
    cases hhead
  · have hlength : (sampleText sampleBundle).length = 402 := by
      rw [sampleText, Utf8.encode_ofList]
      decide +kernel
    rw [hlength, ← Option.some.inj hn]
    rfl
  · rw [hexdigest_eq_sampleDigest, sampleDigest_document.2.1]
    exact Option.some.inj hexpected

theorem signatureFile_sample :
    signatureFile sampleTools sampleArgs sampleFiles (sampleStation "station_signature") = ([], some (samplePath "bundle.sig")) := by
  refine resolveRelativeFile_eq rfl (by decide) (by decide) rfl (by decide) (by simp) (fun expected hexpected => ?_)
  rw [hexdigest_eq_sampleDigest, sampleDigest_file.2.1]
  exact Option.some.inj hexpected

theorem publicKeyFile_sample :
    publicKeyFile sampleTools sampleArgs sampleFiles (sampleStation "station_signature") = ([], some (samplePath "station.pem")) := by
  refine resolveRelativeFile_eq rfl (by decide) (by decide) rfl (by decide) (by simp) (fun expected hexpected => ?_)
  rw [hexdigest_eq_sampleDigest, sampleDigest_file.1]
  exact Option.some.inj hexpected

theorem canonicalLabPayload_sample : canonicalLabPayload sampleTools samplePayload = sampleText sampleSigned := by
  have hunsigned : samplePayload.filter (fun p => p.1 ≠ "station_bundle" ∧ p.1 ≠ "station_signature") = sampleUnsigned := rfl
  have hsorted : (Value.dict sampleUnsigned).sortKeys = .dict sampleSigned := rfl
  rw [canonicalLabPayload, hunsigned, hsorted, sampleText, sampleTools]

theorem bundleErrors_sample : bundleErrors sampleTools samplePayload sampleBundle = [] := by
  simp only [bundleErrors, canonicalLabPayload_sample, hexdigest_eq_sampleDigest, sampleDigest_document.2.2.2, List.append_eq_nil_iff]
  refine ⟨⟨⟨⟨?_, ?_⟩, ?_⟩, ?_⟩, ?_⟩ <;> decide

theorem bundleFileErrors_sample : bundleFileErrors sampleTools sampleFiles samplePayload (some (samplePath "station.pem"))
    (some (samplePath "bundle.sig")) (samplePath "bundle.json") = .ok [] := by
  obtain ⟨text, htext, hread⟩ := readable_sample plain_sample.2.1
  have hpem : sampleFiles (samplePath "station.pem") = some samplePem := rfl
  have hsig : sampleFiles (samplePath "bundle.sig") = some sampleSignature := rfl
  have hcontent : sampleFiles (samplePath "bundle.json") = some (sampleText sampleBundle) := rfl
  refine bundleFileErrors_eq_nil hcontent htext hread unique_sample.2.1 rfl ?_ bundleErrors_sample
  rw [hpem, hsig]
  exact if_pos ⟨rfl, rfl, rfl⟩

/-- The record without the files of its station. -/
theorem members_sample :
    ((lookup "target" samplePayload).getD (.str "")).pyStr sampleTools.repr = "rpi4" ∧
      schemaErrors sampleContract sampleArgs samplePayload = .ok [] ∧ headErrors sampleArgs samplePayload = [] ∧
      stationErrors samplePayload = [] ∧ bindingErrors sampleTools sampleArgs samplePayload = [] ∧
      boardErrors sampleContract "rpi4" (devicesOf samplePayload) = [] ∧
      missingTestErrors sampleContract sampleArgs "rpi4" (testsOf samplePayload) = [] ∧
      (devicesOf samplePayload).zipIdx.mapM (deviceErrors sampleTools sampleContract sampleArgs sampleFiles true samplePayload "rpi4") =
        .ok [[], [], []] ∧
      checkStationRegistry sampleTools sampleArgs samplePayload (some (.dict sampleRegistry))
        (field "public_key_sha256" (sampleStation "station_signature")) = [] ∧
      fingerprintErrors samplePayload (sampleStation "station_signature") = [] ∧
      checkSha256 "$.station_bundle.sha256" (field "sha256" (sampleStation "station_bundle")) = [] ∧
      checkSha256 "$.station_signature.signature_sha256" (field "signature_sha256" (sampleStation "station_signature")) = [] ∧
      checkSha256 "$.station_signature.public_key_sha256" (field "public_key_sha256" (sampleStation "station_signature")) = [] := by
  decide +kernel

theorem stationBundle_sample :
    checkStationBundle sampleTools sampleArgs sampleFiles samplePayload (some (.dict sampleRegistry)) = .ok [] := by
  have hbundleField : field "station_bundle" samplePayload = .dict (sampleStation "station_bundle") := rfl
  have hsignatureField : field "station_signature" samplePayload = .dict (sampleStation "station_signature") := rfl
  have hstrict : sampleArgs.strict = true := by decide
  obtain ⟨_, _, _, _, _, _, _, _, hregistry, hfingerprint, hbundleSha, hsignatureSha, hkeySha⟩ := members_sample
  have hstation : stationFieldErrors sampleTools sampleArgs sampleFiles (sampleStation "station_bundle") (sampleStation "station_signature") =
      [] := by
    simp only [stationFieldErrors, bundleFile_sample, signatureFile_sample, publicKeyFile_sample, hbundleSha, hsignatureSha, hkeySha,
      List.append_eq_nil_iff, and_true]
    refine ⟨⟨⟨?_, ?_⟩, ?_⟩, ?_⟩ <;> decide
  exact checkStationBundle_eq_nil rfl hstrict hbundleField hsignatureField bundleFile_sample signatureFile_sample publicKeyFile_sample
    hstation hregistry hfingerprint bundleFileErrors_sample

theorem payloadOf_sample : payloadOf sampleTools sampleArgs sampleFiles = some samplePayload := by
  obtain ⟨text, htext, hread⟩ := readable_sample plain_sample.1
  have hcontent : sampleFiles sampleArgs.path = some (sampleText samplePayload) := rfl
  exact payloadOf_eq hcontent htext hread unique_sample.1

theorem validateLab_sample : validateLab sampleTools sampleContract sampleArgs sampleFiles = .ok [] := by
  have hregistry : readRegistry sampleTools sampleFiles sampleArgs.stationRegistryPath = .ok (some (.dict sampleRegistry)) := by
    obtain ⟨text, htext, hread⟩ := readable_sample plain_sample.2.2.1
    have hcontent : sampleFiles (samplePath "registry.json") = some (sampleText sampleRegistry) := rfl
    have hpath : sampleArgs.stationRegistryPath = some (samplePath "registry.json") := rfl
    exact readRegistry_eq hpath hcontent htext hread unique_sample.2.2
  have hv3 : (field "schema_version" samplePayload).pyEq (.str sampleContract.schemaVersion) = true := by decide
  obtain ⟨htarget, hschema, hhead, hstation, hbinding, hboards, hmissing, hdevices, _⟩ := members_sample
  have htests : (testsOf samplePayload).zipIdx.mapM (testErrors sampleTools sampleArgs sampleFiles true "rpi4" (testsOf samplePayload)) =
      .ok [] := rfl
  rw [validateLab_eq payloadOf_sample, hregistry, ok_bind]
  simp only [recordErrors, hv3, htarget, hschema, hhead, hstation, hbinding, hboards, hmissing, hdevices, htests, bundleCheck,
    stationBundle_sample, ok_bind, if_true, List.nil_append, List.append_nil]
  rfl

/-- The files with a digest of their own. -/
def sampleDigests : List (Bytes × String) :=
  [(samplePem, samplePemSha256), (sampleSignature, sampleSignatureSha256), (sampleBench, sampleBenchSha256),
    (sampleText samplePayload, sampleLabSha256), (sampleText sampleBundle, sampleBundleSha256),
    (sampleText sampleRegistry, sampleRegistrySha256)]

theorem sampleDigest_mem {bytes : Bytes} (h : sampleDigest bytes ≠ samplePayloadSha256) : (bytes, sampleDigest bytes) ∈ sampleDigests := by
  unfold sampleDigest at h ⊢
  split_ifs at h ⊢ with hpem hsignature hbench hlab hbundle hregistry
  · exact hpem ▸ List.mem_cons_self
  · exact hsignature ▸ List.mem_cons_of_mem _ List.mem_cons_self
  · exact hbench ▸ List.mem_cons_of_mem _ (List.mem_cons_of_mem _ List.mem_cons_self)
  · subst hlab
    exact List.mem_of_getElem? (i := 3) rfl
  · subst hbundle
    exact List.mem_of_getElem? (i := 4) rfl
  · subst hregistry
    exact List.mem_of_getElem? (i := 5) rfl
  · exact absurd rfl h

/-- A file of the sample is the only text with its digest. -/
theorem eq_of_sampleDigest {p : PosixPath} {bytes other : Bytes} (hbytes : sampleFiles p = some bytes)
    (h : sampleDigest other = sampleDigest bytes) : other = bytes := by
  obtain ⟨hlab, hbundle, hregistry, _⟩ := sampleDigest_document
  obtain ⟨hpem, hsignature, hbench⟩ := sampleDigest_file
  have hne : sampleDigest bytes ≠ samplePayloadSha256 := by
    unfold sampleFiles at hbytes
    split_ifs at hbytes
    all_goals rw [← Option.some.inj hbytes]
    · exact hlab ▸ by decide
    · exact hregistry ▸ by decide
    · exact hbundle ▸ by decide
    · exact hsignature ▸ by decide
    · exact hpem ▸ by decide
    · exact hbench ▸ by decide
  have hnodup : (sampleDigests.map (·.2)).Nodup := by decide
  exact congrArg Prod.fst (List.inj_on_of_nodup_map hnodup (sampleDigest_mem (h ▸ hne)) (sampleDigest_mem hne) h)

/-- All evidence of the record is in one file without a digest. -/
theorem not_pinned_sample : ¬Pinned sampleArgs samplePayload (samplePath "bench.log") := by
  have hrefs : ((refs samplePayload).all fun ref => ref.sha256.isNone) = true := by decide
  rintro (h | h | h | h | h | ⟨ref, href, _, hsome⟩)
  · exact absurd h (by decide)
  · exact absurd h (by decide)
  · exact absurd h (by decide)
  · exact absurd h (by decide)
  · exact absurd h (by decide)
  · have hnone := List.all_eq_true.1 hrefs ref href
    rw [Option.isNone_iff_eq_none] at hnone
    rw [hnone] at hsome
    cases hsome

/-- Two directories with the same signed files, of which one has something else in the log that the checks name. -/
theorem contents_not_fixed_sample : ∃ files, validateLab sampleTools sampleContract sampleArgs sampleFiles = .ok [] ∧
    validateLab sampleTools sampleContract sampleArgs files = .ok [] ∧ SameSigned sampleArgs samplePayload sampleFiles files ∧
    ∃ ref ∈ refs samplePayload, ∃ p, refPath sampleArgs ref.path = some p ∧ files p ≠ sampleFiles p := by
  have haccepted := validateLab_ok rfl (by decide) payloadOf_sample validateLab_sample
  have hne : ([0x0a] : Bytes) ≠ [] := by decide
  obtain ⟨hok, hsame⟩ := accepted_update rfl payloadOf_sample haccepted validateLab_sample not_pinned_sample hne
  have href : ∃ ref ∈ refs samplePayload, refPath sampleArgs ref.path = some (samplePath "bench.log") := by
    have hfound : ((refs samplePayload).any fun ref => refPath sampleArgs ref.path = some (samplePath "bench.log")) = true := by
      decide
    simpa using List.any_eq_true.1 hfound
  obtain ⟨ref, href, hpath⟩ := href
  refine ⟨_, validateLab_sample, hok, hsame, ref, href, _, hpath, ?_⟩
  rw [Function.update_self]
  exact fun h => absurd (Option.some.inj h) (by decide)

/-- Two accepted directories with the same signed files have the same evidence exactly when all of it is pinned. -/
theorem contents_fixed_iff (T : Tools) (contract : Contract) (A : Args) (files : Files) (hcheck : A.checkFiles = true)
    (hstrict : A.strict = true) {payload : Fields} (hpayload : payloadOf T A files = some payload)
    (hsha : ∀ p bytes, files p = some bytes → ∀ other, T.hexdigest other = T.hexdigest bytes → other = bytes)
    (h : validateLab T contract A files = .ok []) :
    (∀ files', validateLab T contract A files' = .ok [] → SameSigned A payload files files' →
      ∀ ref ∈ refs payload, ∀ p, refPath A ref.path = some p → files' p = files p) ↔
    ∀ ref ∈ refs payload, ∀ p, refPath A ref.path = some p → Pinned A payload p := by
  have haccepted := validateLab_ok hcheck hstrict hpayload h
  constructor
  · intro hfixed ref href p hp
    by_contra hpinned
    obtain ⟨_, q, bytes, hq, hbytes, _⟩ := (checkRef_eq_nil hcheck).1 (haccepted.refs ref href)
    cases hp.symm.trans hq
    have hne : bytes ++ [0] ≠ [] := by simp
    obtain ⟨hok, hsame⟩ := accepted_update hcheck hpayload haccepted h hpinned hne
    have heq := hfixed _ hok hsame ref href p hp
    rw [Function.update_self, hbytes, Option.some.injEq] at heq
    exact absurd (congrArg List.length heq) (by simp)
  · intro hpinned files' h' hsame ref href p hp
    have hpayload' : payloadOf T A files' = some payload := by
      rw [payloadOf, ← hsame.record]
      exact hpayload
    exact eq_of_pinned hcheck haccepted (validateLab_ok hcheck hstrict hpayload' h') hsame hsha (hpinned ref href p hp)

theorem contents_fixed_at_sample :
    (∀ files, validateLab sampleTools sampleContract sampleArgs files = .ok [] → SameSigned sampleArgs samplePayload sampleFiles files →
      ∀ ref ∈ refs samplePayload, ∀ p, refPath sampleArgs ref.path = some p → files p = sampleFiles p) ↔
    ∀ ref ∈ refs samplePayload, ∀ p, refPath sampleArgs ref.path = some p → Pinned sampleArgs samplePayload p := by
  refine contents_fixed_iff sampleTools sampleContract sampleArgs sampleFiles rfl (by decide) payloadOf_sample ?_ validateLab_sample
  intro p bytes hbytes other hother
  rw [hexdigest_eq_sampleDigest, hexdigest_eq_sampleDigest] at hother
  exact eq_of_sampleDigest hbytes hother

end Refs

end SuderraOs.Evidence.Lab
