import SuderraOs.Evidence.Bundle
import SuderraOs.Evidence.Contract
import SuderraOs.Evidence.SubjectGraph

/-!
# Release inputs

The validators of `validate-release-inputs.py` for reproducibility reports, for the bindings of governance roles and for retention
manifests. An accepted report compares artifacts whose two digests are one, but the artifacts may be any (`reproduced_of_validateRepro`).
-/

namespace SuderraOs.Evidence.ReleaseInputs

open Value OperatorIngress

/-- A text that was collected. -/
def isCollected (v : Value) : Bool := v.asStr.any fun s => !isBlank s && !isPlaceholder SubjectGraph.placeholderValues v

/-- The failure of a text that a run was started with. -/
def expectRunId (Γ : Python) (message : String) (v : Value) (expected : Option String) : List String :=
  expected.toList.flatMap fun expected => failUnless message (v.pyStr Γ.repr = expected)

/-! ## Reproducibility -/

def reproducibilitySchemaVersion : String := "suderra.reproducibility.v1"

/-- The arguments of `validate_repro`. -/
structure ReproQuery where
  path : PosixPath
  version : Option String
  target : Option String
  sourceSha : Option String
  sourceRunId : Option String
  checkFiles : Bool

section Repro

variable (Γ : Python) (files : Files) (Q : ReproQuery)

/-- The failures of what a report is about. -/
def reproFieldFailures (payload : Fields) : List String :=
  failUnless s!"reproducibility schema_version mismatch: {Q.path}"
      ((field "schema_version" payload).pyEq (.str reproducibilitySchemaVersion)) ++
    expectText s!"reproducibility version mismatch: {Q.path}" (field "version" payload) Q.version ++
    expectText s!"reproducibility target mismatch: {Q.path}" (field "target" payload) Q.target ++
    expectText s!"reproducibility source_sha mismatch: {Q.path}" (field "source_sha" payload) Q.sourceSha ++
    expectRunId Γ s!"reproducibility source_run_id mismatch: {Q.path}" (field "source_run_id" payload) Q.sourceRunId ++
    failUnless s!"reproducibility status must be passed: {Q.path}" ((field "status" payload).pyEq (.str "passed")) ++
    ["comparison", "generated_at"].flatMap fun name =>
      failUnless s!"reproducibility {name} is required: {Q.path}" (isCollected (field name payload))

/-- The failures of a comparison of an artifact. -/
def comparisonFailures (idx : Nat) (item : Fields) : List String :=
  failUnless s!"reproducibility artifact_comparisons[{idx}].status must be matched: {Q.path}"
      ((field "status" item).pyEq (.str "matched")) ++
    failUnless s!"reproducibility artifact_comparisons[{idx}].artifact is required: {Q.path}" (isCollected (field "artifact" item)) ++
    (["reference_sha256", "rebuild_sha256"].flatMap fun name =>
      failUnless s!"reproducibility artifact_comparisons[{idx}].{name} must be a non-zero sha256: {Q.path}" (isDigest (field name item))) ++
    match field "reference_sha256" item, field "rebuild_sha256" item with
    | .str reference, .str rebuild =>
      failUnless s!"reproducibility artifact_comparisons[{idx}] digest mismatch: {Q.path}" (reference = rebuild)
    | _, _ => []

def comparisonsFailures (payload : Fields) : List String :=
  match field "artifact_comparisons" payload with
  | .list (item :: items) => (item :: items).zipIdx.flatMap fun p =>
      objectFailures p.1 s!"reproducibility artifact_comparisons[{p.2}] must be an object: {Q.path}" (comparisonFailures Q p.2)
  | _ => [s!"reproducibility artifact_comparisons must be a non-empty list: {Q.path}"]

/-- The failures of the file of a log. -/
def reproLogFileFailures (place : PosixPath) (digest : Value) : List String :=
  match (files place).filter (!·.isEmpty) with
  | none => [s!"reproducibility log missing or empty: {place}"]
  | some bytes => failUnless s!"reproducibility log sha mismatch: {place}" (digest.pyEq (.str (Γ.hexdigest bytes)))

/-- The failures of a log: the first that is found, before its file is looked at. -/
def reproLogFailures (idx : Nat) (item : Fields) : List String :=
  if isCollected (field "path" item) then
    match safeRelativePath (field "path" item) with
    | none => [s!"reproducibility logs[{idx}].path must be relative and contained: {Q.path}"]
    | some rel =>
      if isDigest (field "sha256" item) then
        if Q.checkFiles then
          reproLogFileFailures Γ files ((⟨Q.path.root, Q.path.names.dropLast⟩ : PosixPath).join rel) (field "sha256" item)
        else []
      else [s!"reproducibility logs[{idx}].sha256 must be a non-zero sha256: {Q.path}"]
  else [s!"reproducibility logs[{idx}].path is required: {Q.path}"]

def reproLogsFailures (payload : Fields) : List String :=
  match (lookup "logs" payload).getD (.list []) with
  | .list items => items.zipIdx.flatMap fun p =>
      objectFailures p.1 s!"reproducibility logs[{p.2}] must be an object: {Q.path}" (reproLogFailures Γ files Q p.2)
  | _ => [s!"reproducibility logs must be a list: {Q.path}"]

/-- `validate_repro`. -/
def validateRepro : Except String (List String) :=
  if ((files Q.path).filter (!·.isEmpty)).isNone then .ok [s!"missing reproducibility input: {Q.path}"]
  else do
    let payload ← readJson Γ files Q.path
    .ok (match payload with
      | some (.dict payload) => reproFieldFailures Γ Q payload ++ comparisonsFailures Q payload ++ reproLogsFailures Γ files Q payload
      | _ => [s!"reproducibility input must be suderra.reproducibility.v1 JSON: {Q.path}"])

/-- What an accepted report says: some artifact was rebuilt to the digest that it had. -/
structure Reproduced (payload : Fields) : Prop where
  version : ∀ version, Q.version = some version → field "version" payload = .str version
  target : ∀ target, Q.target = some target → field "target" payload = .str target
  source_sha : ∀ sha, Q.sourceSha = some sha → field "source_sha" payload = .str sha
  source_run_id : ∀ id, Q.sourceRunId = some id → (field "source_run_id" payload).pyStr Γ.repr = id
  compared : ∃ items item digest, field "artifact_comparisons" payload = .list items ∧ .dict item ∈ items ∧
    isDigest (.str digest) = true ∧ field "reference_sha256" item = .str digest ∧ field "rebuild_sha256" item = .str digest

variable {Γ files Q}

theorem isDigest_str {v : Value} (h : isDigest v = true) : ∃ s, v = .str s := by
  cases v with
  | str s => exact ⟨s, rfl⟩
  | _ => cases h

/-- A comparison without failures is of two equal digests. -/
theorem digest_of_comparisonFailures {idx : Nat} {item : Fields} (h : comparisonFailures Q idx item = []) :
    ∃ digest, isDigest (.str digest) = true ∧ field "reference_sha256" item = .str digest ∧ field "rebuild_sha256" item = .str digest := by
  simp only [comparisonFailures, List.append_eq_nil_iff, List.flatMap_cons, List.flatMap_nil, List.append_nil, failUnless_eq_nil] at h
  obtain ⟨⟨⟨_, _⟩, hreference, hrebuild⟩, hequal⟩ := h
  obtain ⟨reference, href⟩ := isDigest_str hreference
  obtain ⟨rebuild, hreb⟩ := isDigest_str hrebuild
  rw [href, hreb] at hequal
  obtain rfl : reference = rebuild := by simpa using hequal
  exact ⟨reference, href ▸ hreference, href, hreb⟩

theorem reproduced_of_validateRepro (h : validateRepro Γ files Q = .ok []) :
    ∃ payload, readJson Γ files Q.path = .ok (some (.dict payload)) ∧ Reproduced Γ Q payload := by
  unfold validateRepro at h
  split_ifs at h
  · simp at h
  obtain ⟨payload, hread, h⟩ := bind_ok_iff.1 h
  simp only [Except.ok.injEq] at h
  split at h
  · next payload =>
    simp only [List.append_eq_nil_iff, reproFieldFailures] at h
    obtain ⟨⟨⟨⟨⟨⟨⟨⟨_, hversion⟩, htarget⟩, hsource⟩, hrun⟩, _⟩, _⟩, hcompared⟩, _⟩ := h
    refine ⟨payload, hread, ?_, ?_, ?_, ?_, ?_⟩
    · intro s hs
      simpa [expectText, hs, pyEq_str_iff] using hversion
    · intro s hs
      simpa [expectText, hs, pyEq_str_iff] using htarget
    · intro s hs
      simpa [expectText, hs, pyEq_str_iff] using hsource
    · intro s hs
      simpa [expectRunId, hs] using hrun
    · unfold comparisonsFailures at hcompared
      split at hcompared
      · next item items hitems =>
        rw [List.zipIdx_cons, List.flatMap_cons, List.append_eq_nil_iff] at hcompared
        have hfirst := hcompared.1
        unfold objectFailures at hfirst
        split at hfirst
        · next fields heq =>
          obtain ⟨digest, hdigest⟩ := digest_of_comparisonFailures hfirst
          exact ⟨_, fields, digest, hitems, heq ▸ List.mem_cons_self, hdigest⟩
        · cases hfirst
      · cases hcompared
  · cases h

end Repro

/-! ## Governance -/

/-- A text with something in it. -/
def checkNonEmpty (message : String) (v : Value) : List String := failUnless message (v.asStr.any fun s => !isBlank s)

/-- The failure of a text that is no digest. -/
def checkTextDigest (message : String) (v : Value) : List String := failUnless message (v.asStr.all (isHex 64))

def roleBindingDigests : List String :=
  ["source_snapshot_sha256", "permission_snapshot_sha256", "environment_reviewer_binding_sha256"]

section Validators

variable (L : Libraries) (C : Contract) (files : Files) (path : PosixPath)

/-- The failures of the binding of a role. A type or a permission that cannot be hashed raises. -/
def roleBindingFailures (idx : Nat) (item : Fields) : Except String (List String) := do
  guardError "TypeError" ((field "subject_type" item).isHashable && (field "effective_permission" item).isHashable)
  let at_ := s!"governance role bindings[{idx}]"
  .ok ((["role", "github_subject", "subject_type", "github_node_id", "source_snapshot_sha256", "permission_snapshot_sha256",
        "environment_reviewer_binding_sha256", "effective_permission"].flatMap fun name =>
      checkNonEmpty s!"{at_}.{name} must be non-empty: {path}" (field name item)) ++
    failUnless s!"{at_}.github_subject must be a real GitHub identity, not the role name: {path}"
      (!(field "github_subject" item).pyEq (field "role" item)) ++
    failUnless s!"{at_}.subject_type must identify a GitHub user/team/app: {path}"
      ((field "subject_type" item).isIn [.str "user", .str "team", .str "github-app"]) ++
    failUnless s!"{at_}.github_node_id must be the real GitHub node id: {path}"
      ((field "github_node_id" item).asStr.all fun id => !(["unknown", "pending", "not_collected"].contains (L.lower id))) ++
    failUnless s!"{at_}.effective_permission must be admin/maintain/write: {path}"
      ((field "effective_permission" item).isIn [.str "admin", .str "maintain", .str "write"]) ++
    roleBindingDigests.flatMap fun name => checkTextDigest s!"{at_}.{name} must be a sha256: {path}" (field name item))

/-- The failures of the bindings of the roles. -/
def roleBindingsFailures : Value → Except String (List String)
  | .list (item :: items) => do
    let found ← (item :: items).zipIdx.mapM fun p =>
      (p.1.asDict.map (roleBindingFailures L path p.2)).getD (.ok [s!"governance role bindings[{p.2}] must be an object: {path}"])
    let seen := ((item :: items).filterMap asDict).filterMap fun binding => (field "role" binding).asStr
    .ok (found.flatten ++ ["release-owner", "security-owner"].flatMap fun role =>
      failUnless s!"governance role bindings missing {role}: {path}" (seen.contains role))
  | _ => .ok [s!"governance role bindings must be non-empty: {path}"]

/-- `validate_governance_role_bindings`. -/
def validateGovernanceRoleBindings (version : String) : Except String (List String) := do
  let payload ← readJson L.toPython files path
  match payload with
  | some (.dict payload) => do
    let bindings ← roleBindingsFailures L path (field "bindings" payload)
    let schema := C.schema "governance_role_bindings"
    .ok (failUnless s!"governance role bindings schema_version must be {schema}: {path}"
        ((field "schema_version" payload).pyEq (.str schema)) ++
      failUnless s!"governance role bindings version mismatch: {path}" ((field "version" payload).pyEq (.str version)) ++ bindings)
  | _ => .ok [s!"governance role bindings missing or invalid JSON: {path}"]

/-! ## Retention -/

/-- The parts of the retention policy that only a manifest is checked against. -/
structure RetentionPolicy where
  storeClass : String
  minimumYears : Int
  requiredReplay : List String

/-- The names in a list of objects. A name that no set can hold raises. -/
def namesIn (items : List Fields) : Except String (List Value) := do
  guardError "TypeError" (items.all fun item => (field "name" item).isHashable)
  .ok (items.map (field "name"))

/-- `sorted(set(required) - names)`. -/
def missingNames (required : List String) (names : List Value) : List String := sortedDiff required (names.filterMap asStr)

/-- `text.replace("Z", "+00:00")`. -/
def zoneText (s : String) : String := String.ofList (s.toList.flatMap fun c => if c = 'Z' then "+00:00".toList else [c])

/-- The failures of the end of a retention. -/
def retainUntilFailures (now : Int) (v : Value) : List String :=
  v.asStr.toList.flatMap fun s =>
    match L.fromisoformat (zoneText s) with
    | none => [s!"retention manifest retain_until must be an ISO-8601 UTC timestamp: {path}"]
    | some time =>
      if time.utcoffset.isNone then [s!"retention manifest retain_until must include timezone: {path}"]
      else failUnless s!"retention manifest retain_until must be in the future: {path}" (now < time.seconds)

def retentionFields : List String :=
  ["kms_key_id", "custody_chain", "access_log", "archive_object_uri", "archive_object_version_id", "archive_object_sha256",
    "retention_lock_mode", "retain_until", "legal_hold_status", "access_log_sha256", "restore_job_id", "restored_archive_sha256",
    "replay_validator_output_sha256"]

def retentionDigests : List String :=
  ["archive_object_sha256", "access_log_sha256", "restored_archive_sha256", "replay_validator_output_sha256"]

/-- The failures of an event of the custody. -/
def custodyEventFailures (idx : Nat) (event : Fields) : List String :=
  (["event_id", "event_type", "actor", "occurred_at", "evidence_sha256"].flatMap fun name =>
    checkNonEmpty s!"retention manifest custody_events[{idx}].{name} must be non-empty: {path}" (field name event)) ++
    checkTextDigest s!"retention manifest custody_events[{idx}].evidence_sha256 must be a sha256: {path}" (field "evidence_sha256" event)

def custodyFailures : Value → List String
  | .list (event :: events) => (event :: events).zipIdx.flatMap fun p =>
      objectFailures p.1 s!"retention manifest custody_events[{p.2}] must be an object: {path}" (custodyEventFailures path p.2)
  | _ => [s!"retention manifest custody_events must be a non-empty list: {path}"]

/-- The failures of where an archive is kept and how. -/
def archiveFailures (now : Int) (payload : Fields) : List String :=
  (retentionFields.flatMap fun name => failUnless s!"retention manifest {name} must be non-placeholder: {path}"
      ((field name payload).asStr.isSome && !isPlaceholder SubjectGraph.placeholderValues (field name payload))) ++
    (retentionDigests.flatMap fun name => checkTextDigest s!"retention manifest {name} must be a sha256: {path}" (field name payload)) ++
    failUnless ("retention manifest archive_object_uri must be an immutable archive object URI, not transient CI storage: " ++
        toString path)
      ((field "archive_object_uri" payload).asStr.all fun uri =>
        Text.contains "://".toList uri.toList && !"github-artifact://".toList.isPrefixOf uri.toList) ++
    failUnless s!"retention manifest retention_lock_mode must be governance or compliance: {path}"
      (["governance", "compliance"].contains (L.lower (textField L.toPython "retention_lock_mode" payload))) ++
    failUnless s!"retention manifest restored_archive_sha256 must match archived object digest after restore: {path}"
      ((field "restored_archive_sha256" payload).pyEq (field "archive_object_sha256" payload)) ++
    retainUntilFailures L path now (field "retain_until" payload) ++
    checkNonEmpty s!"retention manifest legal_hold_id must be non-placeholder: {path}" (field "legal_hold_id" payload) ++
    custodyFailures path (field "custody_events" payload)

/-- The failures of what a manifest retains and of what was replayed from it. -/
def exportsFailures (policy : RetentionPolicy) (payload : Fields) : Except String (List String) := do
  let replayed := (((field "restore_replay_tests" payload).asList.getD []).filterMap asDict).filter fun item =>
    (field "status" item).pyEq (.str "passed")
  let exports ← namesIn (((field "exports" payload).asList.getD []).filterMap asDict)
  let replays ← namesIn replayed
  let missing := missingNames C.retentionRequiredExports exports
  let missingReplay := missingNames policy.requiredReplay replays
  .ok (failUnless s!"retention manifest exports must be a list: {path}" (field "exports" payload).asList.isSome ++
    failUnless s!"retention manifest missing exports: {commaSeparated missing}" missing.isEmpty ++
    failUnless s!"retention manifest restore_replay_tests must be non-empty: {path}"
      ((field "restore_replay_tests" payload).asList.any fun tests => !tests.isEmpty) ++
    failUnless s!"retention manifest missing passed replay tests: {commaSeparated missingReplay}" missingReplay.isEmpty)

/-- `validate_retention_manifest`. -/
def validateRetentionManifest (policy : RetentionPolicy) (now : Int) (version : String) (sourceSha sourceRunId : Option String) :
    Except String (List String) := do
  let payload ← readJson L.toPython files path
  match payload with
  | some (.dict payload) => do
    let exports ← exportsFailures C path policy payload
    let schema := C.schema "retention_manifest"
    .ok (failUnless s!"retention manifest schema_version must be {schema}: {path}"
        ((field "schema_version" payload).pyEq (.str schema)) ++
      failUnless s!"retention manifest policy_id mismatch: {path}" ((field "policy_id" payload).pyEq (.str C.retentionPolicyId)) ++
      failUnless s!"retention manifest version mismatch: {path}" ((field "version" payload).pyEq (.str version)) ++
      expectText s!"retention manifest source_sha mismatch: {path}" (field "source_sha" payload) sourceSha ++
      expectRunId L.toPython s!"retention manifest source_run_id mismatch: {path}" (field "source_run_id" payload) sourceRunId ++
      failUnless s!"retention manifest store_class mismatch: {path}" ((field "store_class" payload).pyEq (.str policy.storeClass)) ++
      failUnless s!"retention manifest retention_years must be at least {policy.minimumYears}: {path}"
        (isIntFrom policy.minimumYears (field "retention_years" payload)) ++ exports ++ archiveFailures L path now payload)
  | _ => .ok [s!"retention manifest missing or invalid JSON: {path}"]

end Validators

end SuderraOs.Evidence.ReleaseInputs
