import SuderraOs.Evidence.OperatorIngress

/-!
# QEMU input

`validate` of `validate-qemu-input.py`: the evidence of a run of an image under QEMU, with its logs beside it. What an accepted input is
bound to is in `bound_of_validate`.
-/

namespace SuderraOs.Evidence.QemuInput

open Value OperatorIngress

def schemaVersion : String := "suderra.qemu-acceptance.v4"

def legacySchemaVersions : List String := ["suderra.qemu-acceptance.v2", "suderra.qemu-acceptance.v3"]

def statusValues : List String := ["failed", "infra-error", "infra_error", "not-applicable", "not_applicable", "passed", "timeout"]

def failureClasses : List String :=
  ["infra_error", "none", "operator_error", "security_failure", "semantic_failure", "timeout"]

def requiredChecks : List String :=
  ["boot", "systemd", "zero-failed-units", "no-kernel-panic", "no-emergency-mode", "os-release", "kernel", "rootfs", "network",
    "firstboot-idempotence", "lockdown-transition", "listeners", "firewall"]

def requiredStrictLogRoles : List String := ["serial", "qmp-events", "qemu-stderr", "qemu-semantic"]

def placeholderValues : List String := ["TO_BE_COLLECTED", "NOT_COLLECTED", "not_collected", "pending", "PENDING"]

def semanticFactFields : List String :=
  ["os_release", "kernel", "rootfs", "failed_units", "network", "listeners", "firewall", "firstboot", "lockdown"]

def productionFactFields : List String := ["secure_boot", "dm_verity", "rauc", "data_encryption", "anti_rollback"]

def semanticChecks : List String :=
  ["zero-failed-units", "os-release", "kernel", "rootfs", "network", "firstboot-idempotence", "lockdown-transition", "listeners",
    "firewall"]

def productionRuntimeChecks : List String :=
  ["secure-boot-enforced", "dm-verity-tamper-rejection", "rauc-good-update", "rauc-bad-signature-rejection", "rauc-health-rollback",
    "data-luks", "anti-rollback"]

def strictProfiles : List String := ["release-candidate", "production-candidate", "production-runtime"]

def productionProfiles : List String := ["production-candidate", "production-runtime"]

/-- The arguments of `validate`. -/
structure Args where
  path : PosixPath
  checkFiles : Bool
  requirePass : Bool
  profile : String
  expectedVersion : Option String
  expectedTarget : Option String
  expectedSourceSha : Option String
  expectedArtifactSha256 : Option String

namespace Args

variable (A : Args)

def strict : Bool := strictProfiles.contains A.profile

def production : Bool := productionProfiles.contains A.profile

/-- `expected_from_qemu_path`: what stands after the last `release-lab-input` on the path. -/
def inferred : Option String × Option String :=
  let after := (A.path.names.reverse.takeWhile (· ≠ "release-lab-input")).reverse
  if A.path.name = "qemu.json" ∧ A.path.names.contains "release-lab-input" = true ∧ 2 ≤ after.length then (after[0]?, after[1]?)
  else (none, none)

/-- The version that the input must have, if one is known. -/
def version : Option String := (A.expectedVersion.filter (· ≠ "")).or A.inferred.1

def target : Option String := (A.expectedTarget.filter (· ≠ "")).or A.inferred.2

end Args

/-! ## Checks of one value -/

def checkString (path : String) (v : Value) : List String :=
  failUnless s!"{path}: must be a non-empty string" (v.asStr.any fun s => !isBlank s)

def checkNonPlaceholder (path : String) (v : Value) : List String :=
  failUnless s!"{path}: must not be placeholder evidence" (!isPlaceholder placeholderValues v)

def checkSha256 (path : String) (v : Value) : List String :=
  if v.asStr.any (isHex 64) then failUnless s!"{path}: must not be the all-zero sha256 digest" (isDigest v)
  else [s!"{path}: must be a lowercase sha256 hex digest"]

section Input

variable (L : Libraries) (files : Files) (A : Args)

/-- The path of a log below the directory of the input, if it stays there. -/
def logPath (v : Value) : Option PosixPath :=
  (v.asStr.map PosixPath.ofString).bind fun rel =>
    if rel.isAbsolute || rel.hasParent then none else some ((⟨A.path.root, A.path.names.dropLast⟩ : PosixPath).join rel)

/-- The failures of `check_relative_file` for a text that names a path. -/
def fileFailures (path text : String) (actual : PosixPath) (expectedSha256 : Option String) (allowEmpty : Bool) : List String :=
  if A.checkFiles then
    match (files actual).filter fun bytes => allowEmpty || !bytes.isEmpty with
    | none => [s!"{path}: referenced file is missing or empty: {text}"]
    | some bytes => expectedSha256.toList.flatMap fun expected =>
      failUnless s!"{path}: referenced file sha256 mismatch: expected {expected}, got {L.hexdigest bytes}" (L.hexdigest bytes = expected)
  else []

/-- `check_relative_file`. -/
def checkRelativeFile (path : String) (v : Value) (expectedSha256 : Option String) (allowEmpty : Bool) : List String :=
  checkString path v ++
    v.asStr.toList.flatMap fun text =>
      match logPath A v with
      | none => [s!"{path}: must be relative and must not contain '..'"]
      | some actual => fileFailures L files A path text actual expectedSha256 allowEmpty

/-- The failures of facts that the semantic log does not have. -/
def semanticFactFailures (facts payload : Fields) : List String :=
  failUnless "$.logs[qemu-semantic].schema_version: must be suderra.qemu-semantic.v1"
      ((field "schema_version" payload).pyEq (.str "suderra.qemu-semantic.v1")) ++
    semanticFactFields.flatMap fun name =>
      failUnless s!"$.logs[qemu-semantic].{name}: must be present in semantic QEMU JSON" (lookup name payload).isSome ++
        ((lookup name facts).toList.flatMap fun fact =>
          failUnless s!"$.guest_facts.{name}: must match qemu-semantic log payload" ((field name payload).pyEq fact))

/-- `check_semantic_log`. -/
def checkSemanticLog (path : Option PosixPath) (facts : Fields) : Except String (List String) :=
  match path.filter fun _ => A.checkFiles with
  | none => .ok []
  | some path => do
    let payload ← readJson L.toPython files path
    .ok (match payload with
      | none => ["$.logs[qemu-semantic].path: cannot read semantic QEMU JSON"]
      | some (.dict payload) => semanticFactFailures facts payload
      | some _ => ["$.logs[qemu-semantic].path: semantic QEMU JSON must be an object"])

/-- `check_binding`. -/
def checkBinding (payload : Fields) : List String :=
  expectText s!"$.version: must match QEMU evidence path version {orEmpty A.version}" (field "version" payload) A.version ++
    expectText s!"$.target: must match QEMU evidence path target {orEmpty A.target}" (field "target" payload) A.target ++
    expectText s!"$.source_sha: must match bound source sha {orEmpty A.expectedSourceSha}" (field "source_sha" payload)
      A.expectedSourceSha ++
    failUnless "$.source_sha: must be a lowercase git commit sha"
      ((field "source_sha" payload).pyEq .null || (field "source_sha" payload).asStr.any (isHex 40)) ++
    expectText s!"$.image_sha256: must match bound artifact sha256 {orEmpty A.expectedArtifactSha256}" (field "image_sha256" payload)
      A.expectedArtifactSha256

/-- The failures of the end of a run that passed. -/
def passedTerminationFailures (payload termination : Fields) : List String :=
  failUnless "$.termination.acceptable: must be true for passed QEMU evidence" (field "acceptable" termination).isTrue ++
    failUnless "$.termination.killed: must be false for passed QEMU evidence" (isFalse (field "killed" termination)) ++
    failUnless "$.termination.timeout: must be false for passed QEMU evidence" (isFalse (field "timeout" termination)) ++
    failUnless "$.termination.exit_status: must be 0 for passed QEMU evidence" ((field "exit_status" termination).pyEq (.int 0)) ++
    failUnless "$.qemu_exit_status: must be 0 for passed QEMU evidence" ((field "qemu_exit_status" payload).pyEq (.int 0))

/-- The failures of the end of a run. -/
def terminationFailures (payload termination : Fields) : List String :=
  (["mode", "reason"].flatMap fun name => checkString s!"$.termination.{name}" (field name termination)) ++
    (["killed", "timeout", "qmp_quit_sent", "qmp_quit_ack", "acceptable"].flatMap fun name =>
      failUnless s!"$.termination.{name}: must be a boolean" (isBool (field name termination))) ++
    failUnless "$.termination.exit_status: must be an integer or null"
      ((field "exit_status" termination).pyEq .null || (field "exit_status" termination).asInt.isSome) ++
    failUnless "$.termination.signal: must be a positive integer or null"
      ((field "signal" termination).pyEq .null || isIntFrom 1 (field "signal" termination)) ++
    if A.requirePass || (field "status" payload).pyEq (.str "passed") then passedTerminationFailures payload termination else []

/-- `validate_termination`. -/
def validateTermination (payload : Fields) : List String :=
  if (field "schema_version" payload).pyEq (.str schemaVersion) then
    objectFailures (field "termination" payload) "$.termination: must be an object" (terminationFailures A payload)
  else failUnless s!"$.schema_version: strict QEMU profile requires {schemaVersion}" !A.strict

/-- Whether a text says that the root file system is one of dm-verity. -/
def showsVerity (v : Value) : Bool :=
  v.asStr.any fun s => Text.contains "dm-".toList s.toList || Text.contains "verity".toList (L.lower s).toList

/-- A field of a fact that may be no object. -/
def factField (name part : String) (facts : Fields) : Value := field part ((field name facts).asDict.getD [])

/-- `validate_production_facts`. A status that cannot be hashed raises. -/
def validateProductionFacts (facts checks : Fields) : Except String (List String) := do
  guardError "TypeError" (factField "lockdown" "status" facts).isHashable
  let flags := [("secure_boot", "enabled"), ("dm_verity", "active"), ("rauc", "available"), ("data_encryption", "encrypted")]
  .ok (failUnless "$.guest_facts.os_release.VARIANT: must be prod for production-runtime QEMU input"
      ((factField "os_release" "VARIANT" facts).pyEq (.str "prod")) ++
    failUnless "$.guest_facts.rootfs: must show dm-verity-backed rootfs for production-runtime"
      (["mount_source", "cmdline_root"].any fun name => showsVerity L (factField "rootfs" name facts)) ++
    failUnless "$.guest_facts.lockdown.status: must be an enforced lockdown state for production-runtime"
      ((factField "lockdown" "status" facts).isIn [.str "integrity", .str "confidentiality", .str "locked", .str "enforced"]) ++
    (match field "listeners" facts with
      | .list listeners => failUnless "$.guest_facts.listeners: must be empty for production-runtime" listeners.isEmpty
      | _ => ["$.guest_facts.listeners: must be a list for production-runtime"]) ++
    failUnless "$.guest_facts.firewall.loaded: must be true for production-runtime" (factField "firewall" "loaded" facts).isTrue ++
    (productionFactFields.flatMap fun name =>
      failUnless s!"$.guest_facts.{name}: must be collected for production-runtime" (lookup name facts).isSome) ++
    (flags.flatMap fun p =>
      failUnless s!"$.guest_facts.{p.1}.{p.2}: must be true for production-runtime" (factField p.1 p.2 facts).isTrue) ++
    failUnless "$.guest_facts.anti_rollback.rollback_floor: must be collected for production-runtime"
      ((factField "anti_rollback" "rollback_floor" facts).asStr.any fun s => !isBlank s && !placeholderValues.contains s) ++
    (["rootfs", "lockdown-transition", "listeners", "firewall"] ++ sortNames productionRuntimeChecks).flatMap fun name =>
      failUnless s!"$.checks.{name}.status: must be passed for production-runtime"
        ((field "status" ((field name checks).asDict.getD [])).pyEq (.str "passed")))

/-- The failures of the kind of an input and of how it failed. A schema version or a class that cannot be hashed raises. -/
def kindFailures (payload : Fields) : Except String (List String) := do
  let version := field "schema_version" payload
  let current := version.pyEq (.str schemaVersion)
  guardError "TypeError" (current || A.strict || version.isHashable)
  guardError "TypeError" (!current || (field "failure_class" payload).isHashable)
  .ok (failUnless s!"$.schema_version: must be {schemaVersion}"
      (current || (!A.strict && version.isIn (legacySchemaVersions.map .str))) ++
    if current then
      failUnless s!"$.failure_class: must be one of: {commaSeparated failureClasses}"
          ((field "failure_class" payload).isIn (failureClasses.map .str)) ++
        failUnless "$.failure_class: must be none when status is passed"
          (!(field "status" payload).pyEq (.str "passed") || (field "failure_class" payload).pyEq (.str "none"))
    else [])

/-- The failures of the identity of an input. A status that cannot be hashed raises. -/
def identityFailures (payload : Fields) : Except String (List String) := do
  let passed := (field "status" payload).pyEq (.str "passed")
  guardError "TypeError" (field "status" payload).isHashable
  .ok ((["version", "target", "generated_at", "image", "qemu_version", "firmware"].flatMap fun name =>
      checkString s!"$.{name}" (field name payload) ++
        if A.strict && passed then checkNonPlaceholder s!"$.{name}" (field name payload) else []) ++
    checkSha256 "$.image_sha256" (field "image_sha256" payload) ++ checkSha256 "$.firmware_sha256" (field "firmware_sha256" payload) ++
    checkBinding A payload ++
    failUnless s!"$.status: must be one of: {commaSeparated statusValues}" ((field "status" payload).isIn (statusValues.map .str)) ++
    failUnless "$.status: must be passed for release QEMU input" (!A.requirePass || passed))

/-- The failures of a log. -/
def logFailures (path : String) (item : Fields) : List String :=
  checkString s!"{path}.role" (field "role" item) ++ checkSha256 s!"{path}.sha256" (field "sha256" item) ++
    checkRelativeFile L files A s!"{path}.path" (field "path" item) (field "sha256" item).asStr
      ((field "role" item).pyEq (.str "qemu-stderr"))

/-- The objects in the list of logs. -/
def logsOf (payload : Fields) : List Fields := ((field "logs" payload).asList.getD []).filterMap asDict

/-- The failures of the logs. -/
def logsFailures (payload : Fields) : List String :=
  let missing := sortedDiff requiredStrictLogRoles ((logsOf payload).filterMap fun item => (field "role" item).asStr)
  (match field "logs" payload with
    | .list (item :: items) => (item :: items).zipIdx.flatMap fun p =>
        objectFailures p.1 s!"$.logs[{p.2}]: must be an object" (logFailures L files A s!"$.logs[{p.2}]")
    | _ => ["$.logs: must be a non-empty list"]) ++
  failUnless s!"$.logs: missing required log roles: {commaSeparated missing}" (!A.strict || missing.isEmpty)

/-- Where the last semantic log is. -/
def semanticLogPath (payload : Fields) : Option PosixPath :=
  ((logsOf payload).reverse.find? fun item => (field "role" item).pyEq (.str "qemu-semantic")).bind fun item =>
    logPath A (field "path" item)

/-- The failures of what a check was made with. -/
def collectedFailures (path message : String) (v : Value) : List String :=
  if v.asStr.any fun s => !isBlank s then checkNonPlaceholder path v else [s!"{path}: {message}"]

/-- The failures of a check. A status that cannot be hashed raises. -/
def checkFailures (name : String) (result : Value) : Except String (List String) :=
  match result with
  | .dict result => do
    guardError "TypeError" (field "status" result).isHashable
    .ok (failUnless s!"$.checks.{name}.status: must be passed, failed, or not_applicable"
        ((field "status" result).isIn [.str "passed", .str "failed", .str "not_applicable"]) ++
      failUnless s!"$.checks.{name}.status: must be passed for release QEMU input"
        (!A.requirePass || (field "status" result).pyEq (.str "passed")) ++
      if A.strict && semanticChecks.contains name then
        collectedFailures s!"$.checks.{name}.evidence" "must describe machine-collected evidence" (field "evidence" result) ++
          collectedFailures s!"$.checks.{name}.source" "must name the guest command or log source" (field "source" result)
      else [])
  | _ => .ok [s!"$.checks.{name}: must be an object"]

/-- The failures of the checks. -/
def checksFailures (payload : Fields) : Except String (List String) := do
  let checks := (field "checks" payload).asDict.getD []
  let missing := sortedDiff requiredChecks (checks.map (·.1))
  let missingProduction := sortedDiff productionRuntimeChecks (checks.map (·.1))
  let found ← (members checks).mapM fun p => checkFailures A p.1 p.2
  .ok (failUnless "$.checks: must be an object" (field "checks" payload).asDict.isSome ++
    failUnless s!"$.checks: missing required checks: {commaSeparated missing}" missing.isEmpty ++
    failUnless s!"$.checks: missing production-runtime checks: {commaSeparated missingProduction}"
      (!A.production || missingProduction.isEmpty) ++ found.flatten)

/-- The failures of a fact. -/
def factFailures (facts : Fields) (name : String) : List String :=
  match lookup name facts with
  | none => [s!"$.guest_facts.{name}: must be collected for release-candidate QEMU input"]
  | some fact =>
    if name = "listeners" then []
    else
      match fact with
      | .str s => failUnless s!"$.guest_facts.{name}: must not be empty" (!isBlank s) ++
          checkNonPlaceholder s!"$.guest_facts.{name}" (.str s)
      | .dict fields => failUnless s!"$.guest_facts.{name}: must not be an empty object" (!fields.isEmpty)
      | .null => [s!"$.guest_facts.{name}: must not be null"]
      | _ => []

/-- The failures of the facts of a strict profile. -/
def strictFactsFailures (payload facts : Fields) : Except String (List String) := do
  let semantic ← checkSemanticLog L files A (semanticLogPath A payload) facts
  let production ←
    (if A.production then validateProductionFacts L facts ((field "checks" payload).asDict.getD []) else .ok [])
  .ok ((semanticFactFields.flatMap (factFailures facts)) ++
    failUnless "$.guest_facts.listeners: must be a list"
      ((lookup "listeners" facts).isNone || (field "listeners" facts).asList.isSome) ++ semantic ++ production)

/-- The failures of the facts. -/
def factsFailures (payload : Fields) : Except String (List String) :=
  match field "guest_facts" payload with
  | .dict facts => if A.strict then strictFactsFailures L files A payload facts else .ok []
  | _ => .ok ["$.guest_facts: must be an object"]

/-- `validate`. -/
def validate : Except String (List String) := do
  let payload ← readJson L.toPython files A.path
  match payload with
  | none => .ok [s!"{A.path}: cannot read QEMU evidence"]
  | some (.dict payload) => do
    let kind ← kindFailures A payload
    let identity ← identityFailures A payload
    let checks ← checksFailures A payload
    let facts ← factsFailures L files A payload
    .ok (kind ++ identity ++ validateTermination A payload ++ logsFailures L files A payload ++ checks ++ facts)
  | some _ => .ok [s!"{A.path}: top-level JSON value must be an object"]

/-! ## What an accepted input is bound to -/

/-- The version, the target, the source and the image of an accepted input. -/
structure Bound (payload : Fields) : Prop where
  version : ∀ version, A.version = some version → field "version" payload = .str version
  target : ∀ target, A.target = some target → field "target" payload = .str target
  source_sha : ∀ sha, A.expectedSourceSha = some sha → field "source_sha" payload = .str sha
  image : ∀ sha, A.expectedArtifactSha256 = some sha → field "image_sha256" payload = .str sha
  status : A.requirePass = true → field "status" payload = .str "passed"

variable {L files A}

theorem bound_of_validate (h : validate L files A = .ok []) :
    ∃ payload, readJson L.toPython files A.path = .ok (some (.dict payload)) ∧ Bound A payload := by
  obtain ⟨payload, hread, h⟩ := bind_ok_iff.1 h
  split at h
  · simp at h
  · next payload =>
    obtain ⟨kind, _, h⟩ := bind_ok_iff.1 h
    obtain ⟨identity, hidentity, h⟩ := bind_ok_iff.1 h
    obtain ⟨checks, _, h⟩ := bind_ok_iff.1 h
    obtain ⟨facts, _, h⟩ := bind_ok_iff.1 h
    simp only [Except.ok.injEq, List.append_eq_nil_iff] at h
    obtain ⟨⟨⟨⟨⟨_, rfl⟩, _⟩, _⟩, _⟩, _⟩ := h
    obtain ⟨_, hidentity⟩ := guardError_bind_ok_iff.1 hidentity
    simp only [Except.ok.injEq, List.append_eq_nil_iff, checkBinding, failUnless_eq_nil] at hidentity
    obtain ⟨⟨⟨_, ⟨⟨⟨hversion, htarget⟩, hsource⟩, _⟩, himage⟩, _⟩, hstatus⟩ := hidentity
    have expected : ∀ {message : String} {v : Value} {x : Option String}, expectText message v x = [] → ∀ s, x = some s → v = .str s := by
      rintro message v _ hx s rfl
      simpa [expectText, pyEq_str_iff] using hx
    refine ⟨payload, hread, expected hversion, expected htarget, expected hsource, expected himage, fun hpass => ?_⟩
    simpa [hpass, pyEq_str_iff] using hstatus
  · simp at h

end Input

end SuderraOs.Evidence.QemuInput
