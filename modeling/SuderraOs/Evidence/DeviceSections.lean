import SuderraOs.Evidence.LabInput
import SuderraOs.Evidence.QemuInput
import SuderraOs.Evidence.Replays
import SuderraOs.Evidence.Station

/-!
# The sections of devices and of keys

The sections of an `evidence.json` with what ran under QEMU and on hardware, and with what was signed. The evidence of QEMU and of the
laboratory is replayed with the values that stand beside it in the same section (`bound_of_validateQemu`, `replayed_of_validateHardware`).
-/

namespace SuderraOs.Evidence.ReleaseEvidence

open Value OperatorIngress

def requiredQemuChecks : List String :=
  ["boot", "systemd", "zero-failed-units", "firstboot-idempotence", "network", "lockdown-transition"]

def usbInstallerTarget : String := "pi-cm4-revpi-usb-installer"

/-- The validators of other scripts that the sections of suites, of manifests and of keys call. -/
structure Validators where
  /-- `validate` of `validate-production-runtime-suite.py`: of a suite, with the version, the target and the source. -/
  productionRuntimeSuite : PosixPath → String → String → Option String → Except String (List String)
  /-- `validate_signing_manifest`: with the version, the target, the source, the run and the digests of the artifacts. -/
  signingManifest : PosixPath → String → String → Option String → Option String → List String → Except String (List String)
  /-- `validate_hardware_subject`, with the same arguments. -/
  hardwareSubject : PosixPath → String → String → Option String → Option String → List String → Except String (List String)
  /-- `validate-hsm-signing-evidence.py`: of a session and a certificate, with the URI of the key, and the role and the digest of an
  artifact. -/
  hsmSigning : PosixPath → PosixPath → String → Option String → Option String → CommandOutput

/-- What the script knows of devices. -/
structure DevicePolicies extends Policies where
  lab : Lab.Contract
  station : Station.Contract

section Devices

variable (L : Tools) (P : DevicePolicies) (V : Validators) (B : Bundle) (requirePass : Bool) (now : Int) (evidence : Fields)

/-- The profile of a version, for inputs that name none. -/
def versionProfile : String :=
  if (textField L.toPython "version" evidence).toList.contains '-' then "release-candidate" else "production-candidate"

/-- The failures of a flag that is not what the matrix asks for. -/
def requiredFailures (path : String) (required : Bool) (v : Value) : List String :=
  checkBool path v ++ failUnless s!"{path}: must match matrix-derived requirement {required}" (!isBool v || v.isTrue = required)

/-! ## QEMU -/

/-- The failures of a log of QEMU. -/
def qemuLogFailures (path : String) : Value → List String
  | .dict log =>
    ((lookup "role" log).toList.flatMap (checkString s!"{path}.role")) ++
      checkRelativePath L.toPython B s!"{path}.path" (field "path" log) true ++
      checkSha256 s!"{path}.sha256" (field "sha256" log) true ++
      (if (field "role" log).pyEq (.str "qemu-stderr") then
        failUnless s!"{path}.bytes: must be a non-negative integer" (isIntFrom 0 (field "bytes" log))
      else checkPositiveInt s!"{path}.bytes" (field "bytes" log) true) ++
      checkFileSha256 L.toPython B s!"{path}.sha256" (field "path" log) (field "sha256" log) ++
      checkFileSize B s!"{path}.bytes" (field "path" log) (field "bytes" log) ++
      ((lookup "input_sha256" log).toList.flatMap fun sha => checkSha256 s!"{path}.input_sha256" sha true)
  | log => checkRelativePath L.toPython B path log true

/-- The failures of the end of a run of QEMU. -/
def qemuTerminationFailures (needed : Bool) (execution : Fields) : List String :=
  (lookup "termination" execution).toList.flatMap fun termination =>
    objectFailures termination "$.qemu.execution.termination: must be an object" fun termination =>
      (["killed", "timeout", "qmp_quit_sent", "qmp_quit_ack", "acceptable"].flatMap fun name =>
        failUnless s!"$.qemu.execution.termination.{name}: must be a boolean" ((lookup name termination).all isBool)) ++
        failUnless "$.qemu.execution.termination.acceptable: must be true when QEMU evidence is required"
          (!needed || (field "acceptable" termination).isTrue) ++
        failUnless "$.qemu.execution.termination.killed: must be false when QEMU evidence is required"
          (!needed || isFalse (field "killed" termination)) ++
        failUnless "$.qemu.execution.termination.exit_status: must be 0 when QEMU evidence is required"
          (!needed || (field "exit_status" termination).pyEq (.int 0))

/-- The failures of how QEMU was run. -/
def qemuExecutionFailures (needed : Bool) (qemu : Fields) : List String :=
  if (field "execution" qemu).pyEq .null then []
  else objectFailures (field "execution" qemu) "$.qemu.execution: must be an object" fun execution =>
    qemuTerminationFailures needed execution ++
      failUnless "$.qemu.execution.qemu_exit_status: must be 0 when QEMU evidence is required"
        (!needed || (field "qemu_exit_status" execution).isIn [.int 0, .null])

/-- The arguments with which the input of QEMU is replayed. -/
def qemuArgs (qemu : Fields) (path : PosixPath) : QemuInput.Args where
  path := path
  checkFiles := true
  requirePass := true
  profile := ((field "validation_profile" qemu).asStr.filter (· ≠ "")).getD (versionProfile L evidence)
  expectedVersion := some (versionText L.toPython evidence)
  expectedTarget := some (targetText L.toPython evidence)
  expectedSourceSha := gitCommit evidence
  expectedArtifactSha256 := (field "image_sha256" qemu).asStr

/-- The failures of the input of QEMU and of its replay. -/
def qemuInputFailures (qemu : Fields) : List String :=
  objectFailures (field "input" qemu) "$.qemu.input: must preserve the validated QEMU input JSON" fun input =>
    checkFile L.toPython B "$.qemu.input" input true ++
      (fileForRelativePath B (field "path" input)).toList.flatMap fun file =>
        replayed "$.qemu.input.path" "replay QEMU input validation"
          (QemuInput.validate L.toLibraries B.files (qemuArgs L evidence qemu file.1))

/-- The failures of what a run of QEMU that is required found. -/
def qemuFactFailures (qemu : Fields) : List String :=
  checkStrings "$.qemu" ["image", "firmware"] qemu ++
    (["image_sha256", "firmware_sha256"].flatMap fun name => checkSha256 s!"$.qemu.{name}" (field name qemu) true) ++
    (match field "guest_facts" qemu with
      | .dict (fact :: facts) =>
        ["os_release", "kernel", "rootfs", "failed_units", "network", "listeners", "firewall", "firstboot", "lockdown"].flatMap fun name =>
          failUnless s!"$.qemu.guest_facts: missing semantic fact: {name}" (lookup name (fact :: facts)).isSome
      | _ => ["$.qemu.guest_facts: must include semantic guest facts"]) ++
    failUnless "$.qemu.check_details: must preserve semantic QEMU check details"
      ((if (field "check_details" qemu).truthy then field "check_details" qemu else field "semantic_checks" qemu).asDict.any
        fun details => !details.isEmpty) ++
    failUnless "$.qemu.status: must be passed when QEMU evidence is required" ((field "status" qemu).pyEq (.str "passed")) ++
    failUnless "$.qemu.logs: must include at least one log when QEMU is required" (field "logs" qemu).truthy

/-- The failure of checks that a required run lacks. Checks that are no collection of texts raise. -/
def qemuMissingFailures (qemu : Fields) : Except String (List String) := do
  let checks := field "checks" qemu
  guardError "TypeError" (((checks.asList).getD []).all isHashable)
  let names ← (if checks.truthy then SubjectGraph.iterStrings checks else .ok [])
  let missing := sortedDiff requiredQemuChecks names
  .ok (failUnless s!"$.qemu.checks: missing required checks: {commaSeparated missing}" missing.isEmpty)

/-- The failures of a run of QEMU that is required. -/
def qemuNeededFailures (needed : Bool) (qemu : Fields) : Except String (List String) :=
  if needed then do
    let missing ← qemuMissingFailures qemu
    .ok (qemuInputFailures L B evidence qemu ++ qemuFactFailures qemu ++ missing)
  else .ok []

/-- `validate_qemu`. A class of failure that no set can hold raises. -/
def validateQemu (required : Bool) : Except String (List String) :=
  match field "qemu" evidence with
  | .dict qemu => do
    let status ← checkStatus "$.qemu.status" (field "status" qemu) statusValues
    let failureClass ← (lookup "failure_class" qemu).elim (.ok []) fun v =>
      checkStatus "$.qemu.failure_class" v failureClassValues
    let needed ← qemuNeededFailures L B evidence (requirePass && required) qemu
    .ok (requiredFailures "$.qemu.required" required (field "required" qemu) ++ status ++
      (match field "logs" qemu with
        | .list logs => logs.zipIdx.flatMap fun p => qemuLogFailures L B s!"$.qemu.logs[{p.2}]" p.1
        | _ => ["$.qemu.logs: must be a list"]) ++
      (match field "checks" qemu with
        | .list checks => checks.zipIdx.flatMap fun p => checkString s!"$.qemu.checks[{p.2}]" p.1
        | _ => ["$.qemu.checks: must be a list"]) ++
      failureClass ++ qemuExecutionFailures (requirePass && required) qemu ++
      failUnless "$.qemu.check_details: must be an object"
        ((field "check_details" qemu).pyEq .null || (field "check_details" qemu).asDict.isSome) ++ needed)
  | _ => .ok ["$.qemu: must be an object"]

/-- `runtime_suite_target_for`. -/
def runtimeSuiteTargetFor (target : String) : String := (((P.contract.suiteTargets.lookup target).getD []).head?).getD target

/-- The failures of a suite of the production runtime. -/
def suiteFailures (path : String) (v : Value) : List String :=
  let target := textField L.toPython "target" evidence
  let suites := (P.contract.suiteTargets.lookup target).getD []
  let suiteTarget := (field "target" (v.asDict.getD [])).asStr
  failUnless s!"{path}.target: must be one of: {commaSeparated (sortNames suites.dedup)}"
      (suites.isEmpty || suiteTarget.all suites.contains) ++
    preservedReplay L B requirePass path "replay production-runtime suite validation" v fun place =>
      V.productionRuntimeSuite place (versionText L.toPython evidence) (suiteTarget.getD (runtimeSuiteTargetFor P target)) (gitCommit evidence)

/-- `validate_runtime_qemu`. -/
def validateRuntimeQemu (production required : Bool) : Except String (List String) :=
  match field "runtime_qemu" evidence with
  | .dict runtime => do
    let status ← checkStatus "$.runtime_qemu.status" (field "status" runtime) statusValues
    let needed := requirePass && production && required
    let head := requiredFailures "$.runtime_qemu.required" required (field "required" runtime) ++ status
    .ok (head ++ match field "production_suites" runtime with
      | .list items =>
        let suites := (P.contract.suiteTargets.lookup (textField L.toPython "target" evidence)).getD []
        let missing := sortedDiff suites ((items.filterMap asDict).filterMap fun item => (field "target" item).asStr)
        failUnless "$.runtime_qemu.production_suites: must include production-runtime QEMU suite evidence" (!needed || !items.isEmpty) ++
          (items.zipIdx.flatMap fun p => suiteFailures L P V B requirePass evidence s!"$.runtime_qemu.production_suites[{p.2}]" p.1) ++
          failUnless s!"$.runtime_qemu.production_suites: missing required runtime suite targets: {commaSeparated missing}"
            (!needed || missing.isEmpty) ++
          failUnless "$.runtime_qemu.status: must be passed for production release evidence"
            (!needed || (field "status" runtime).pyEq (.str "passed"))
      | _ => ["$.runtime_qemu.production_suites: must be a list"])
  | _ => .ok ["$.runtime_qemu: must be an object"]

/-! ## Hardware -/

/-- The tools of the laboratory. -/
def labTools : Lab.Tools :=
  { L.toPython with
    fromIsoformat := L.microseconds
    now := now * 1000000
    osError := L.osError
    jsonError := L.jsonError
    float := L.float
    openssl := L.openssl }

/-- The arguments with which the input of the laboratory is replayed. -/
def labArgs (path : PosixPath) (registry : Option PosixPath) : Lab.Args where
  path := path
  checkFiles := true
  requirePass := true
  expectedVersion := some (versionText L.toPython evidence)
  expectedTarget := some (targetText L.toPython evidence)
  profile := versionProfile L evidence
  expectedSourceSha := gitCommit evidence
  expectedSourceRunId := runIdText L.toPython evidence
  stationRegistryPath := registry

/-- The failures of the registry of the stations. -/
def registryFailures (v : Value) : List String :=
  objectFailures v "$.hardware.station_registry: must preserve external station registry" fun registry =>
    failUnless "$.hardware.station_registry.source_domain: must be release-governance for release-ready evidence"
        ((field "source_domain" registry).pyEq (.str "release-governance")) ++
      checkFile L.toPython B "$.hardware.station_registry" registry true

/-- The failures of the input of the laboratory and of its replay. -/
def labInputFailures (hardware : Fields) : List String :=
  let registry := (preservedFile B (field "station_registry" hardware)).map (·.1)
  objectFailures (field "input" hardware) "$.hardware.input: must preserve the validated lab input JSON" fun input =>
    checkFile L.toPython B "$.hardware.input" input true ++
      (fileForRelativePath B (field "path" input)).toList.flatMap fun file =>
        replayed "$.hardware.input.path" "replay lab input validation"
          (Lab.validateLab (labTools L now) P.lab (labArgs L evidence file.1 registry) B.files)

/-- The failures of the signature of the station. -/
def stationSignatureFailures (v : Value) : List String :=
  let path := "$.hardware.station_signature"
  objectFailures v s!"{path}: must preserve station signature" fun signature =>
    checkStrings path ["algorithm", "signature", "public_key"] signature ++
      (["signature_sha256", "public_key_sha256"].flatMap fun name => checkSha256 s!"{path}.{name}" (field name signature) true) ++
      (["signature", "public_key"].flatMap fun name => checkRelativePath L.toPython B s!"{path}.{name}" (field name signature) true) ++
      checkFileSha256 L.toPython B s!"{path}.signature_sha256" (field "signature" signature) (field "signature_sha256" signature) ++
      checkFileSha256 L.toPython B s!"{path}.public_key_sha256" (field "public_key" signature) (field "public_key_sha256" signature)

/-- Whether a value is an object with something in it. -/
def isFilled (v : Value) : Bool := v.asDict.any fun fields => !fields.isEmpty

/-- The failures of the station that tested hardware. -/
def stationFailures (hardware : Fields) : List String :=
  registryFailures L B (field "station_registry" hardware) ++ labInputFailures L P B now evidence hardware ++
    failUnless "$.hardware.station: must preserve station identity" (isFilled (field "station" hardware)) ++
    failUnless "$.hardware.artifact_binding: must preserve artifact binding" (isFilled (field "artifact_binding" hardware)) ++
    objectFailures (field "station_bundle" hardware) "$.hardware.station_bundle: must preserve signed station bundle"
      (fun bundle => checkFile L.toPython B "$.hardware.station_bundle" bundle true) ++
    stationSignatureFailures L B (field "station_signature" hardware)

/-- The failures of a log of a device. -/
def deviceLogFailures (path : String) : Value → List String
  | .dict log =>
    checkRelativePath L.toPython B s!"{path}.path" (field "path" log) true ++
      ((lookup "sha256" log).toList.flatMap fun sha =>
        checkSha256 s!"{path}.sha256" sha true ++ checkFileSha256 L.toPython B s!"{path}.sha256" (field "path" log) sha) ++
      ((lookup "input_sha256" log).toList.flatMap fun sha => checkSha256 s!"{path}.input_sha256" sha true)
  | log => checkRelativePath L.toPython B path log true

/-- The failures of a digest of the evidence of a check, where one is recorded. -/
def evidenceDigestFailures (path : String) (check : Fields) : List String :=
  (lookup "evidence_sha256" check).toList.flatMap fun sha =>
    checkSha256 s!"{path}.evidence_sha256" sha true ++
      checkFileSha256 L.toPython B s!"{path}.evidence_sha256" (field "evidence" check) sha

/-- The failures of a check of a device. -/
def deviceCheckFailures (needed : Bool) (path name : String) : Value → Except String (List String)
  | .dict check => do
    let status ← checkStatus s!"{path}.status" (field "status" check) statusValues
    .ok (status ++ checkRelativePath L.toPython B s!"{path}.evidence" (field "evidence" check)
        (needed && P.hardwareRequiredChecks.contains name) ++
      evidenceDigestFailures L B path check ++
      failUnless s!"{path}.status: must be passed for release-ready evidence"
        (!requirePass || (field "status" check).pyEq (.str "passed")))
  | _ => .ok [s!"{path}: must be an object"]

/-- The failures of the checks of a device. -/
def deviceChecksFailures (needed : Bool) (path : String) : Value → Except String (List String)
  | .dict checks => do
    let found ← (members checks).mapM fun p => deviceCheckFailures L P B requirePass needed s!"{path}.{p.1}" p.1 p.2
    let missing := sortedDiff P.hardwareRequiredChecks (checks.map (·.1))
    .ok (found.flatten ++ failUnless s!"{path}: missing required checks: {commaSeparated missing}" (!needed || missing.isEmpty))
  | _ => .ok [s!"{path}: must be an object"]

/-- The failures of the readback of a device. -/
def readbackFailures (path : String) : Value → List String
  | .dict (p :: readback) =>
    let readback := p :: readback
    failUnless s!"{path}.scope: must be full" ((field "scope" readback).pyEq (.str "full")) ++
      (["expected_sha256", "actual_sha256"].flatMap fun name => checkSha256 s!"{path}.{name}" (field name readback) true) ++
      failUnless s!"{path}.actual_sha256: must match expected_sha256"
        ((field "expected_sha256" readback).pyEq (field "actual_sha256" readback)) ++
      checkPositiveInt s!"{path}.bytes_read" (field "bytes_read" readback) true
  | _ => [s!"{path}: must preserve full readback evidence"]

/-- The failures of a device that is required. -/
def neededDeviceFailures (path : String) (device : Fields) : List String :=
  failUnless s!"{path}.status: must be passed for release-ready evidence" ((field "status" device).pyEq (.str "passed")) ++
    failUnless s!"{path}.logs: must include serial/install logs" (field "logs" device).truthy ++
    (if isFilled (field "device_identity" device) then
      checkStrings s!"{path}.device_identity" ["model", "compatible", "storage_by_id", "storage_serial", "root_partuuid"]
        (objectAt "device_identity" device)
    else [s!"{path}.device_identity: must preserve board/storage identity"]) ++
    readbackFailures s!"{path}.readback" (field "readback" device)

/-- The failures of a device. -/
def deviceFailures (needed : Bool) (path : String) : Value → Except String (List String)
  | .dict device => do
    let status ← checkStatus s!"{path}.status" (field "status" device) statusValues
    let checks ← deviceChecksFailures L P B requirePass needed s!"{path}.checks" (field "checks" device)
    .ok (checkStrings path ["board", "serial", "operator"] device ++
      (["sku", "storage_serial", "uart_adapter", "power_supply", "boot_firmware", "tested_at"].flatMap fun name =>
        (lookup name device).toList.flatMap (checkString s!"{path}.{name}")) ++ status ++
      (match field "logs" device with
        | .list logs => logs.zipIdx.flatMap fun p => deviceLogFailures L B s!"{path}.logs[{p.2}]" p.1
        | _ => [s!"{path}.logs: must be a list"]) ++ checks ++
      if needed then neededDeviceFailures path device else [])
  | _ => .ok [s!"{path}: must be an object"]

/-- The failures of a negative test. -/
def negativeTestFailures (path : String) : Value → Except String (List String)
  | .dict item => do
    let status ← checkStatus s!"{path}.status" (field "status" item) statusValues
    .ok (checkStrings path ["name", "failure_code"] item ++ status ++
      checkRelativePath L.toPython B s!"{path}.evidence" (field "evidence" item) true ++ evidenceDigestFailures L B path item ++
      failUnless s!"{path}.status: must be passed for release-ready evidence" ((field "status" item).pyEq (.str "passed")))
  | _ => .ok [s!"{path}: must be an object"]

/-- The failures of the negative tests of the installer. -/
def negativeTestsFailures : Value → Except String (List String)
  | .list (item :: items) => do
    let found ← (item :: items).zipIdx.mapM fun p => negativeTestFailures L B s!"$.hardware.negative_tests[{p.2}]" p.1
    .ok found.flatten
  | _ => .ok ["$.hardware.negative_tests: must include USB installer negative tests"]

/-- The failures of the devices together, where they are required. -/
def neededDevicesFailures (needed : Bool) (hardware : Fields) (devices : List Value) : Except String (List String) :=
  if needed then do
    let target := textField L.toPython "target" evidence
    let missing := sortedDiff ((P.boardsByTarget.lookup target).getD [])
      ((devices.filterMap asDict).filterMap fun device => (field "board" device).asStr)
    let tests ← (if (field "target" evidence).pyEq (.str usbInstallerTarget) then
      negativeTestsFailures L B (field "negative_tests" hardware) else .ok [])
    .ok (failUnless "$.hardware.status: must be passed when hardware evidence is required"
        ((field "status" hardware).pyEq (.str "passed")) ++
      failUnless "$.hardware.devices: must include at least one device" (!devices.isEmpty) ++
      failUnless s!"$.hardware.devices: missing required board evidence: {commaSeparated missing}" missing.isEmpty ++ tests)
  else .ok []

/-- The failures of the devices. -/
def devicesFailures (needed : Bool) (hardware : Fields) : Except String (List String) :=
  match field "devices" hardware with
  | .list devices => do
    let found ← devices.zipIdx.mapM fun p => deviceFailures L P B requirePass needed s!"$.hardware.devices[{p.2}]" p.1
    let together ← neededDevicesFailures L P B evidence needed hardware devices
    .ok (found.flatten ++ together)
  | _ => .ok ["$.hardware.devices: must be a list"]

/-- `validate_hardware`. -/
def validateHardware (required : Bool) : Except String (List String) :=
  match field "hardware" evidence with
  | .dict hardware => do
    let needed := requirePass && required
    let status ← checkStatus "$.hardware.status" (field "status" hardware) statusValues
    let devices ← devicesFailures L P B requirePass evidence needed hardware
    .ok (requiredFailures "$.hardware.required" required (field "required" hardware) ++ status ++
      (if needed then stationFailures L P B now evidence hardware else []) ++ devices)
  | _ => .ok ["$.hardware: must be an object"]

/-! ## Stations -/

/-- The failure of a value that an acquisition is compared with and that is of another kind. -/
def unmatchedFailures (name what : String) (v : Value) (matched : Bool) : List String :=
  failUnless s!"{name} must match expected {what} {v.pyStr L.repr}" (v.pyEq .null || matched)

/-- What an acquisition must be of. -/
def expectedAcquisition (binding registry : Fields) : Station.Expected where
  version := some (versionText L.toPython evidence)
  target := some (targetText L.toPython evidence)
  sourceSha := gitCommit evidence
  sourceRunId := runIdText L.toPython evidence
  artifactSha256 := (field "build_artifact_sha256" binding).asStr
  artifactBytes := (field "build_artifact_bytes" binding).asInt
  registrySha256 := (field "sha256" registry).asStr
  stationRegistry := none

/-- The replay of an acquisition. -/
def acquisitionReplay (place : PosixPath) (payload : Fields) : Except String (List String) := do
  let hardware := objectAt "hardware" evidence
  let binding := objectAt "artifact_binding" hardware
  let registry := objectAt "station_registry" hardware
  let failures ← Station.validatePayload L.toPython P.station (expectedAcquisition L evidence binding registry) B.files
    ⟨place.root, place.names.dropLast⟩ B.checkFiles payload
  .ok (failures ++
    unmatchedFailures L "artifact_sha256" "artifact sha256" (field "build_artifact_sha256" binding)
      (field "build_artifact_sha256" binding).asStr.isSome ++
    unmatchedFailures L "artifact_bytes" "artifact bytes" (field "build_artifact_bytes" binding)
      (field "build_artifact_bytes" binding).asInt.isSome ++
    unmatchedFailures L "registry_sha256" "registry sha256" (field "sha256" registry) (field "sha256" registry).asStr.isSome)

/-- The failures of an acquisition that is preserved. -/
def acquisitionDocumentFailures (path : String) (place : PosixPath) : Option Value → List String
  | some (.dict payload) =>
    let schema := P.contract.schema "station_acquisition"
    failUnless s!"{path}.schema_version: must be {schema}" ((field "schema_version" payload).pyEq (.str schema)) ++
      failUnless s!"{path}.events: must include adapter events" ((field "events" payload).asList.any fun events => !events.isEmpty) ++
      replayed s!"{path}.path" "replay station acquisition" (acquisitionReplay L P B evidence place payload)
  | _ => [s!"{path}.path: must be station acquisition JSON"]

/-- The failures of an acquisition. -/
def acquisitionFailures (path : String) (v : Value) : Except String (List String) := do
  let found ← ((preservedFile B v).filter fun _ => requirePass).elim (.ok []) fun file => do
    let payload ← readJson L.toPython B.files file.1
    .ok (acquisitionDocumentFailures L P B evidence path file.1 payload)
  .ok (preservedRefFailures L.toPython B path v requirePass ++ found)

/-- `validate_station_acquisitions`. -/
def validateStationAcquisitions (production required : Bool) : Except String (List String) :=
  match field "station_acquisitions" evidence with
  | .list items => do
    let found ← items.zipIdx.mapM fun p => acquisitionFailures L P B requirePass evidence s!"$.station_acquisitions[{p.2}]" p.1
    .ok (failUnless "$.station_acquisitions: must preserve adapter-acquired station evidence"
      (!(requirePass && production && required) || !items.isEmpty) ++ found.flatten)
  | _ => .ok ["$.station_acquisitions: must be a list"]

/-! ## Manifests and keys -/

/-- The failures of the documents of one kind, each for a target. -/
def targetDocumentsFailures (name what missing : String) (needed : Bool)
    (validate : PosixPath → String → String → Option String → Option String → List String → Except String (List String)) : List String :=
  match field name evidence with
  | .list items =>
    failUnless s!"$.{name}: must preserve {missing}" (!needed || !items.isEmpty) ++
      items.zipIdx.flatMap fun p =>
        let target := field "target" (p.1.asDict.getD [])
        preservedReplay L B requirePass s!"$.{name}[{p.2}]" s!"replay {what} validation" p.1 (fun place =>
          validate place (versionText L.toPython evidence) (target.asStr.getD (targetText L.toPython evidence)) (gitCommit evidence)
            (runIdText L.toPython evidence) (evidenceArtifactSha256s evidence)) ++
        p.1.asDict.toList.flatMap fun _ => checkString s!"$.{name}[{p.2}].target" target
  | _ => [s!"$.{name}: must be a list"]

/-- `validate_signing_manifests_section`. -/
def validateSigningManifestsSection (production required : Bool) : List String :=
  targetDocumentsFailures L B requirePass evidence "signing_manifests" "signing manifest" "signing manifests"
    (requirePass && production && required) V.signingManifest

/-- `validate_hardware_subjects_section`. -/
def validateHardwareSubjectsSection (required : Bool) : List String :=
  targetDocumentsFailures L B requirePass evidence "hardware_subjects" "hardware subject" "hardware subject evidence"
    (requirePass && required) V.hardwareSubject

/-- The certificate beside a session with the digest that the session records. -/
def certificateByDigest (session : PosixPath) (sha : String) : Option PosixPath :=
  let dir : PosixPath := ⟨session.root, session.names.dropLast⟩
  ((B.tree.filesIn dir.names).map dir.child).find? fun candidate =>
    [".crt", ".cer", ".pem"].contains (L.lower candidate.suffix) && (B.files candidate).any fun bytes => L.hexdigest bytes = sha

/-- `find_certificate`: the certificate that a session names, or else the one with its digest. -/
def findCertificate (session : PosixPath) (payload : Fields) : Option PosixPath :=
  let named := (field "path" (objectAt "certificate" payload)).asStr.or (field "certificate_path" payload).asStr
  let candidate := (named.filter fun s => !isBlank s).map fun s =>
    (⟨session.root, session.names.dropLast⟩ : PosixPath).join (PosixPath.ofString s)
  (candidate.filter fun path => (B.files path).isSome).or ((field "certificate_sha256" payload).asStr.bind (certificateByDigest L B session))

/-- The failure of a replay of a session. -/
def commandFailures (path : String) (output : CommandOutput) : List String :=
  let strip := fun s : String => String.ofList (PyText.strip s.toList)
  if output.success then []
  else if strip output.stderr ≠ "" then [s!"{path}: {strip output.stderr}"]
  else if strip output.stdout ≠ "" then [s!"{path}: {strip output.stdout}"]
  else [s!"{path}: HSM validator replay failed"]

/-- The failures of the replays of a session, one for each artifact that it signed, or one without. -/
def sessionReplays (needed : Bool) (path : String) (session certificate : PosixPath) (uri : String) (payload : Fields) : List String :=
  let artifacts := match field "artifacts" payload with
    | .list (item :: items) => item :: items
    | _ => [.null]
  let matched := (artifacts.filterMap asDict).any fun artifact =>
    (field "role" artifact).asStr.any P.contract.signedArtifactRoles.contains &&
      (field "sha256" artifact).asStr.any (evidenceArtifactSha256s evidence).contains
  (artifacts.flatMap fun artifact =>
    let given := fun name => (field name (artifact.asDict.getD [])).asStr.filter fun s => !isBlank s
    commandFailures s!"{path}.path" (V.hsmSigning session certificate uri (given "role") (given "sha256"))) ++
    failUnless s!"{path}.path: must bind a production release artifact digest" (!needed || matched)

/-- The failures of a session that is preserved: the first of those before its replay. -/
def sessionDocumentFailures (needed : Bool) (path : String) (session : PosixPath) : Option Value → List String
  | some (.dict payload) =>
    match findCertificate L B session payload, (field "pkcs11_uri" payload).asStr.filter fun s => !isBlank s with
    | none, _ => [s!"{path}.certificate: must preserve certificate file"]
    | some _, none => [s!"{path}.pkcs11_uri: must be preserved"]
    | some certificate, some uri => sessionReplays P V evidence needed path session certificate uri payload
  | _ => [s!"{path}.path: must be HSM signing evidence JSON"]

/-- The failures of a session. -/
def sessionFailures (needed : Bool) (path : String) (v : Value) : Except String (List String) := do
  let found ← ((preservedFile B v).filter fun _ => requirePass).elim (.ok []) fun file => do
    let payload ← readJson L.toPython B.files file.1
    .ok (sessionDocumentFailures L P V B evidence needed path file.1 payload)
  .ok (preservedRefFailures L.toPython B path v requirePass ++ found)

/-- `validate_hsm_signing_sessions`. -/
def validateHsmSigningSessions (production required : Bool) : Except String (List String) :=
  match field "hsm_signing_sessions" evidence with
  | .list items => do
    let found ← items.zipIdx.mapM fun p =>
      sessionFailures L P V B requirePass evidence (production && required) s!"$.hsm_signing_sessions[{p.2}]" p.1
    .ok (failUnless "$.hsm_signing_sessions: must preserve production HSM signing sessions"
      (!(requirePass && production && required) || !items.isEmpty) ++ found.flatten)
  | _ => .ok ["$.hsm_signing_sessions: must be a list"]

end Devices

end SuderraOs.Evidence.ReleaseEvidence
