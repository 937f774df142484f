import SuderraOs.Evidence.Attestation
import SuderraOs.Evidence.OperatorIngress

/-!
# Security reports

`validate_security_report` of `validate-release-inputs.py` and, for the reports of the second version, `validate_report` of
`security-raw-replay.py`, which counts the findings of a scanner again (`foundSeverities`). What an accepted report is about is in
`reported_of_validateSecurityReport`.
-/

namespace SuderraOs.Evidence.SecurityReport

open Value OperatorIngress

def legacySchemaVersion : String := "suderra.release-security-report.v1"

def reportSchemaVersion : String := "suderra.release-security-report.v2"

def maxRawSecurityEvidenceBytes : Int := 10 * 1024 * 1024

inductive Severity where
  | critical
  | high
  | medium
  | low
  | unknown
  deriving DecidableEq, Repr

namespace Severity

def all : List Severity := [critical, high, medium, low, unknown]

def name : Severity → String
  | critical => "critical"
  | high => "high"
  | medium => "medium"
  | low => "low"
  | unknown => "unknown"

end Severity

/-- The objects that a loop over a value meets. A value that is no collection raises. -/
def iterDicts : Value → Except String (List Fields)
  | .list items => .ok (items.filterMap asDict)
  | .dict _ => .ok []
  | .str _ => .ok []
  | _ => .error "TypeError"

/-- `value or []`. -/
def orEmpty (v : Value) : Value := if v.truthy then v else .list []

/-- Whether a number is at least seven. -/
def isHighScore (v : Value) : Bool :=
  match v.number with
  | some (.finite x) => 7 ≤ x
  | some (.infinite negative) => !negative
  | _ => false

section Findings

variable (L : Libraries)

/-- The severity that a scanner gives as a text. -/
def severityOf (v : Value) : Severity :=
  match v.asStr.map fun s => String.ofList (L.unicode.upper s.toList) with
  | some "CRITICAL" => .critical
  | some "HIGH" => .high
  | some "MEDIUM" => .medium
  | some "LOW" => .low
  | _ => .unknown

def trivySeverities : Value → Except String (List Severity)
  | .dict payload => do
    let results ← iterDicts ((lookup "Results" payload).getD (.list []))
    let found ← results.mapM fun result =>
      ["Vulnerabilities", "Misconfigurations", "Secrets"].mapM fun name => do
        let items ← iterDicts (orEmpty (field name result))
        .ok (items.map fun item => severityOf L (field "Severity" item))
    .ok found.flatten.flatten
  | _ => .ok []

def grypeSeverities : Value → Except String (List Severity)
  | .dict payload => do
    let found ← iterDicts ((lookup "matches" payload).getD (.list []))
    .ok (found.map fun item => severityOf L (field "severity" ((field "vulnerability" item).asDict.getD [])))
  | _ => .ok []

/-- A secret has no severity of its own; every one blocks a release. -/
def gitleaksSeverities : Value → Except String (List Severity)
  | .list findings => .ok ((findings.filterMap asDict).map fun _ => .high)
  | .dict payload => do
    let findings ← iterDicts ((lookup "findings" payload).getD (.list []))
    .ok (findings.map fun _ => .high)
  | _ => .ok []

def cargoSeverities : Value → Except String (List Severity)
  | .dict payload => do
    let vulnerabilities ← orError "AttributeError" ((lookup "vulnerabilities" payload).getD (.dict [])).asDict
    let advisories ← iterDicts ((lookup "list" vulnerabilities).getD (.list []))
    .ok (advisories.map fun advisory =>
      if isHighScore (field "score" ((field "cvss" advisory).asDict.getD [])) then .high else .medium)
  | _ => .ok []

/-- The severities that `count_severities` counts; a tool that it does not know has found nothing. -/
def foundSeverities (payload : Value) (tool : String) : Except String (List Severity) :=
  match tool with
  | "trivy" => trivySeverities L payload
  | "grype" => grypeSeverities L payload
  | "gitleaks" => gitleaksSeverities payload
  | "cargo-audit" => cargoSeverities payload
  | "cargo-deny" => cargoSeverities payload
  | _ => .ok []

/-- `count_severities`, as an object. -/
def severityCounts (found : List Severity) : Fields := Severity.all.map fun severity => (severity.name, .int (found.count severity))

variable (float : Double → List Char)

/-- The digest of the canonical text of an object. -/
def canonicalSha256 (fields : Fields) : String :=
  L.hexdigest (Utf8.encode (String.ofList (JsonText.write (JsonText.compactAscii float) 0 (Value.dict fields).unique.sortKeys)))

/-- `canonical_replay_sha256`. -/
def canonicalReplaySha256 (rawSha256 : Value) (counts : Fields) : String :=
  canonicalSha256 L float [("raw_sha256", rawSha256), ("severity_counts", .dict counts)]

end Findings

/-! ## The fields of a report -/

/-- The failures of digests that must be set. -/
def checkDigest (name : String) (v : Value) : List String := failUnless s!"{name} must be a non-zero sha256" (isDigest v)

/-- The failures of texts that must be collected. -/
def checkCollected (path message : String) (names : List String) (fields : Fields) : List String :=
  names.flatMap fun name => failUnless s!"{path}{name} must be {message}" (!Attestation.isPlaceholder (field name fields))

def subjectGraphFailures (report : Fields) : List String :=
  objectFailures (field "subject_graph" report) "subject_graph must be an object" fun graph =>
    failUnless "subject_graph.sha256 must match subject_graph_sha256"
      ((field "sha256" graph).pyEq (field "subject_graph_sha256" report)) ++
    checkCollected "subject_graph." "non-placeholder" ["path"] graph ++
    failUnless "subject_graph.bytes must be positive" (isIntFrom 1 (field "bytes" graph))

def scannerBinaryFailures (report : Fields) : List String :=
  objectFailures (field "scanner_binary" report) "scanner_binary must be an object" fun binary =>
    checkCollected "scanner_binary." "non-placeholder" ["name", "version"] binary ++
      checkDigest "scanner_binary.sha256" (field "sha256" binary)

def scannedSubjectFailures (path : String) (subject : Fields) : List String :=
  checkCollected s!"{path}." "non-placeholder" ["subject_id", "name", "role", "path"] subject ++
    checkDigest s!"{path}.sha256" (field "sha256" subject) ++
    checkCollected s!"{path}." "non-placeholder" ["scan_mode"] subject ++
    failUnless s!"{path}.bytes must be positive" (isIntFrom 1 (field "bytes" subject))

def scannedSubjectsFailures (report : Fields) : List String :=
  match field "subjects" report with
  | .list (item :: items) => (item :: items).zipIdx.flatMap fun p =>
      objectFailures p.1 s!"subjects[{p.2}] must be an object" (scannedSubjectFailures s!"subjects[{p.2}]")
  | _ => ["subjects must be a non-empty list"]

/-- The failure of an archive that is not the one of the digest beside it. -/
def archiveFailures (db : Fields) : List String :=
  match (field "archive_sha256" db).asStr.filter fun sha => isDigest (.str sha) with
  | none => ["scanner_db.archive_sha256 must be a non-zero sha256"]
  | some sha =>
    failUnless "scanner_db.archive_sha256 must match scanner_db.digest"
      ((field "digest" db).asStr.all fun digest => !"sha256:".toList.isPrefixOf digest.toList || digest = "sha256:" ++ sha)

def scannerDbFailures (report : Fields) : List String :=
  objectFailures (field "scanner_db" report) "scanner_db must be an object" fun db =>
    checkCollected "scanner_db." "non-placeholder" ["type", "version", "created_at", "digest"] db ++ archiveFailures db ++
      failUnless "scanner_db.auto_update_disabled must be true" (field "auto_update_disabled" db).isTrue

def documentFailures (report : Fields) (name : String) : List String :=
  objectFailures (field name report) s!"{name} must be an object" fun ref =>
    checkCollected s!"{name}." "non-placeholder" ["path"] ref ++ checkDigest s!"{name}.sha256" (field "sha256" ref)

def replayFailures (report : Fields) : List String :=
  objectFailures (field "replay" report) "replay must be an object" fun replay =>
    failUnless "replay.status must be passed" ((field "status" replay).pyEq (.str "passed")) ++
      checkDigest "replay.output_sha256" (field "output_sha256" replay)

section Report

variable (L : Libraries) (float : Double → List Char)

/-- The failure of an environment that its digest is not of. -/
def environmentFailures (invocation : Fields) : List String :=
  failUnless "invocation.env must be an object" (field "env" invocation).asDict.isSome ++
    match (field "env_sha256" invocation).asStr.filter fun sha => isDigest (.str sha) with
    | none => ["invocation.env_sha256 must be a non-zero sha256"]
    | some sha =>
      failUnless "invocation.env_sha256 must replay from invocation.env"
        ((field "env" invocation).asDict.all fun env => canonicalSha256 L float env = sha)

def invocationFailures (report : Fields) : List String :=
  objectFailures (field "invocation" report) "invocation must be an object" fun invocation =>
    failUnless "invocation.argv must be a non-empty string list"
      ((field "argv" invocation).asList.any fun argv => !argv.isEmpty && argv.all fun item => item.asStr.any (· ≠ "")) ++
    environmentFailures L float invocation ++
    checkCollected "invocation." "non-placeholder" ["working_dir_policy"] invocation

/-- The failures of the fields of a report before its raw evidence. -/
def fieldFailures (report : Fields) : List String :=
  failUnless s!"schema_version must be {reportSchemaVersion}" ((field "schema_version" report).pyEq (.str reportSchemaVersion)) ++
    checkCollected "" "a non-placeholder string"
      ["version", "source_sha", "source_run_id", "scan", "tool", "tool_version", "generated_at", "subject_id"] report ++
    checkDigest "subject_graph_sha256" (field "subject_graph_sha256" report) ++ subjectGraphFailures report ++
    scannerBinaryFailures report ++ invocationFailures L float report ++ scannedSubjectsFailures report ++
    scannerDbFailures report ++ documentFailures report "sbom" ++ documentFailures report "vex" ++ replayFailures report

/-- The failures of the counts of a report against those of its raw evidence. -/
def countFailures (report raw : Fields) (found : List Severity) : List String :=
  match field "severity_counts" report with
  | .dict reported =>
    (Severity.all.flatMap fun severity => failUnless s!"severity_counts.{severity.name} must replay from raw evidence"
        (((lookup severity.name reported).getD (.int 0)).pyEq (.int (found.count severity)))) ++
      ((field "replay" report).asDict.toList.flatMap fun replay =>
        failUnless "replay.raw_sha256 must match raw.sha256" ((field "raw_sha256" replay).pyEq (field "sha256" raw)) ++
          failUnless "replay.severity_counts must match severity_counts" ((field "severity_counts" replay).pyEq (.dict reported)) ++
          failUnless "replay.output_sha256 must replay from raw evidence"
            ((field "output_sha256" replay).pyEq
              (.str (canonicalReplaySha256 L float (field "sha256" raw) (severityCounts found))))) ++
      failUnless "raw scanner evidence contains high/critical findings" (!found.contains .critical && !found.contains .high)
  | _ => ["severity_counts must be an object"]

/-- The tool of a report, in lower case. -/
def toolOf (report : Fields) : String :=
  L.lower (((lookup "tool" report).getD ((lookup "scan" report).getD (.str ""))).pyStr L.repr)

variable (T : FileTree)

/-- The files in a directory whose names start with a digest. -/
def storedUnder (dir : PosixPath) (sha : String) : List PosixPath :=
  ((T.filesIn dir.names).filter fun name => (sha ++ "-").toList.isPrefixOf name.toList).map dir.child

/-- `path.parent`. -/
def parentOf (path : PosixPath) : PosixPath := ⟨path.root, path.names.dropLast⟩

/-- Where the raw evidence of a report is: at its path, or else in `raw` beside the report under its digest. -/
def rawPlace (path : PosixPath) (rawRoot : Option PosixPath) (rel : PosixPath) (sha : Value) : PosixPath :=
  let given := (rawRoot.getD (parentOf (parentOf path))).join rel
  if (treeFiles T given).isSome then given
  else
    match sha.asStr.map (storedUnder T ((parentOf path).child "raw")) with
    | some [stored] => stored
    | _ => given

/-- The failures of the counts of a report against what its raw evidence says, which must be JSON. -/
def recountFailures (report raw : Fields) : Option Value → Except String (List String)
  | none => .ok ["raw scanner evidence must be JSON"]
  | some payload => do
    let found ← foundSeverities L payload (toolOf L report)
    .ok (countFailures L float report raw found)

/-- The failures of the file of the raw evidence. -/
def rawFileFailures (report raw : Fields) (place : PosixPath) : Except String (List String) :=
  match treeFiles T place with
  | none => .ok [s!"raw evidence missing: {place}"]
  | some bytes => do
    let payload ← readJson L.toPython (treeFiles T) place
    let counts ← recountFailures L float report raw payload
    .ok (failUnless "raw evidence byte size mismatch" ((field "bytes" raw).pyEq (.int bytes.length)) ++
      failUnless "raw evidence sha256 mismatch" ((field "sha256" raw).pyEq (.str (L.hexdigest bytes))) ++ counts)

/-- The failures of the raw evidence of a report. -/
def rawFailures (path : PosixPath) (rawRoot : Option PosixPath) (checkFiles : Bool) (report : Fields) : Except String (List String) :=
  match field "raw" report with
  | .dict raw =>
    if Attestation.isPlaceholder (field "path" raw) then .ok ["raw.path must be non-placeholder"]
    else
      match safeRelativePath (field "path" raw) with
      | none => .ok ["raw.path must be relative and confined"]
      | some rel => do
        let replayed ←
          (if checkFiles then rawFileFailures L float T report raw (rawPlace T path rawRoot rel (field "sha256" raw)) else .ok [])
        .ok (checkDigest "raw.sha256" (field "sha256" raw) ++
          failUnless "raw.bytes must be positive" (isIntFrom 1 (field "bytes" raw)) ++ replayed)
  | _ => .ok ["raw must be an object"]

/-- `validate_report`. -/
def validateReport (path : PosixPath) (rawRoot : Option PosixPath) (checkFiles : Bool) : Except String (List String) := do
  let payload ← readJson L.toPython (treeFiles T) path
  match payload with
  | none => .ok [s!"{path}: cannot read security report"]
  | some (.dict report) => do
    let raw ← rawFailures L float T path rawRoot checkFiles report
    .ok ((fieldFailures L float report ++ raw).map fun text => s!"{path}: {text}")
  | some _ => .ok [s!"{path}: security report must be a JSON object"]

/-! ## The report of a scan -/

/-- What an invocation asks of a report. -/
structure Query where
  path : PosixPath
  scan : String
  version : String
  sourceSha : Option String
  sourceRunId : Option String
  checkFiles : Bool

/-- The failures of what a report is about. -/
def bindingFailures (Q : Query) (payload : Fields) : List String :=
  failUnless s!"security report schema_version mismatch: {Q.path}"
      ((field "schema_version" payload).isIn [.str legacySchemaVersion, .str reportSchemaVersion]) ++
    failUnless s!"security report version mismatch: {Q.path}" ((field "version" payload).pyEq (.str Q.version)) ++
    expectText s!"security report source_sha mismatch: {Q.path}" (field "source_sha" payload) Q.sourceSha ++
    (Q.sourceRunId.toList.flatMap fun id => failUnless s!"security report source_run_id mismatch: {Q.path}"
      ((field "source_run_id" payload).pyStr L.repr = id)) ++
    failUnless s!"security report scan mismatch: {Q.path}" (((lookup "scan" payload).getD (.str Q.scan)).pyEq (.str Q.scan)) ++
    failUnless s!"security report status must be passed: {Q.path}" ((field "status" payload).pyEq (.str "passed"))

/-- The failures of the raw evidence of a report of the first version. -/
def legacyRawFailures (Q : Query) (payload : Fields) : List String :=
  match ((field "evidence_path" payload).asStr.map PosixPath.ofString).filter fun rel => !rel.isAbsolute && !rel.hasParent with
  | none => []
  | some rel =>
    let place := (parentOf (parentOf Q.path)).join rel
    match treeFiles T place with
    | none => [s!"security report raw evidence missing: {place}"]
    | some bytes =>
      failUnless s!"security report raw evidence size mismatch: {place}" ((field "evidence_bytes" payload).pyEq (.int bytes.length)) ++
        failUnless s!"security report raw evidence sha256 mismatch: {place}"
          (((field "evidence_sha256" payload).asStr.filter (isHex 64)).all fun sha => L.hexdigest bytes = sha)

/-- The failures of a report of the first version. -/
def legacyFailures (Q : Query) (payload : Fields) : List String :=
  (["generated_at", "tool", "tool_version", "evidence_type"].flatMap fun name =>
      failUnless s!"security report missing {name}: {Q.path}" (!Attestation.isPlaceholder (field name payload))) ++
    failUnless s!"security report evidence_sha256 must be a non-zero sha256: {Q.path}" (isDigest (field "evidence_sha256" payload)) ++
    (if Attestation.isPlaceholder (field "evidence_path" payload) then [s!"security report missing evidence_path: {Q.path}"]
    else failUnless s!"security report evidence_path must be relative and confined: {Q.path}"
      (safeRelativePath (field "evidence_path" payload)).isSome) ++
    (if isIntFrom 1 (field "evidence_bytes" payload) then
      failUnless s!"security report raw evidence exceeds size cap: {Q.path}"
        ((field "evidence_bytes" payload).asInt.all (· ≤ maxRawSecurityEvidenceBytes))
    else [s!"security report evidence_bytes must be positive: {Q.path}"]) ++
    (if Q.checkFiles then legacyRawFailures L T Q payload else []) ++
    (field "severity_counts" payload).asDict.toList.flatMap fun counts =>
      ["critical", "high"].flatMap fun severity =>
        failUnless s!"security report has {severity} findings: {Q.path}" (!isIntFrom 1 (field severity counts))

/-- The failures of a replay; an exception of the replay is one. -/
def replayedFailures (replayed : Except String (List String)) : List String :=
  match replayed with
  | .ok failures => failures
  | .error message => [s!"cannot replay scanner raw evidence: {message}"]

/-- `validate_security_report`. A schema version that cannot be hashed raises. -/
def validateSecurityReport (Q : Query) : Except String (List String) := do
  let payload ← readJson L.toPython (treeFiles T) Q.path
  match payload with
  | some (.dict payload) => do
    guardError "TypeError" (field "schema_version" payload).isHashable
    .ok (bindingFailures L Q payload ++
      if (field "schema_version" payload).pyEq (.str reportSchemaVersion) then
        replayedFailures (validateReport L float T Q.path none Q.checkFiles)
      else legacyFailures L T Q payload)
  | _ => .ok [s!"missing or invalid release security report: {Q.path}"]

/-- What a report that is accepted is about. -/
structure Reported (Q : Query) (payload : Fields) : Prop where
  version : field "version" payload = .str Q.version
  source_sha : ∀ sha, Q.sourceSha = some sha → field "source_sha" payload = .str sha
  source_run_id : ∀ id, Q.sourceRunId = some id → (field "source_run_id" payload).pyStr L.repr = id
  scan : lookup "scan" payload = none ∨ lookup "scan" payload = some (.str Q.scan)
  status : field "status" payload = .str "passed"

variable {L float T}

theorem reported_of_validateSecurityReport {Q : Query} (h : validateSecurityReport L float T Q = .ok []) :
    ∃ payload, readJson L.toPython (treeFiles T) Q.path = .ok (some (.dict payload)) ∧ Reported L Q payload := by
  obtain ⟨payload, hread, h⟩ := bind_ok_iff.1 h
  split at h
  · next payload =>
    obtain ⟨_, h⟩ := guardError_bind_ok_iff.1 h
    simp only [Except.ok.injEq, List.append_eq_nil_iff, bindingFailures, failUnless_eq_nil, pyEq_str_iff] at h
    obtain ⟨⟨⟨⟨⟨⟨_, hversion⟩, hsha⟩, hrun⟩, hscan⟩, hstatus⟩, _⟩ := h
    refine ⟨payload, hread, hversion, ?_, ?_, ?_, hstatus⟩
    · intro sha hexpected
      simpa [expectText, hexpected, pyEq_str_iff] using hsha
    · intro id hexpected
      simpa [hexpected] using hrun
    · cases hlookup : lookup "scan" payload with
      | none => exact .inl rfl
      | some scan => exact .inr (by rw [hlookup] at hscan; exact congrArg some hscan)
  · simp at h

end Report

end SuderraOs.Evidence.SecurityReport
