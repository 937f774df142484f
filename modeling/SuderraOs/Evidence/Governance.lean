import SuderraOs.Evidence.ScannerReplay

/-!
# Governance snapshots

`validate` of `validate-governance.py`. A snapshot is bound to its manifest where the manifest lists the files that are read: the
mandatory ones and, for the environments that the policy names, two files whose names the manifest need not list (`snapshot_bound_iff`).
-/

namespace SuderraOs.Evidence.Governance

open Value
open OperatorIngress (isIntFrom isText)
open SecurityReport (iterate)

/-- What the script asks of Python: `str.isdigit` of a character and `str.lower` besides what other scripts ask. -/
structure Libraries extends Python where
  unicode : PyText.Unicode
  lower : String → String
  isdigit : Char → Bool

/-- What stands at a path below a snapshot directory: a file, nothing, or something that cannot be read as a file. -/
abbrev Snapshot := PosixPath → Except String (Option Bytes)

/-- What stands at `snapshot_root / name`. -/
def Snapshot.file (S : Snapshot) (name : String) : Except String (Option Bytes) := S (PosixPath.ofString name)

/-- `path.is_file()`, with what the file holds. -/
def fileBytes : Except String (Option Bytes) → Option Bytes
  | .ok bytes => bytes
  | .error _ => none

def policySchemaVersion : String := "suderra.github-governance-policy.v2"

def legacyPolicySchemaVersions : List String := ["suderra.github-governance-policy.v1"]

section

variable (Γ : Libraries)

/-- What `json.loads` makes of the bytes of a file. -/
def parse (bytes : Bytes) : Except String Value := do
  let text ← orError "UnicodeDecodeError" (Utf8.decode bytes)
  orError "JSONDecodeError" (Γ.loads (PyText.universalNewlines text.toList))

/-- `read_json`. -/
def readJson (S : Snapshot) (name : String) : Except String Value := do
  let held ← S.file name
  match held with
  | none => .ok .null
  | some bytes => parse Γ bytes

/-- `is_sha256`. -/
def isSha256 (v : Value) : Bool :=
  v.asStr.any fun s => s.toList.length = 64 && (s.toList.all fun c => Γ.isdigit c || ('a' ≤ c && c ≤ 'f')) &&
    s ≠ String.ofList (List.replicate 64 '0')

/-- `text.removeprefix(start)`. -/
def removePrefix (start text : String) : String := ((Text.stripPrefix start.toList text.toList).map String.ofList).getD text

/-- `fields.get(name, {})` where a method of an object is called on it. -/
def dictAt (name : String) (fields : Fields) : Except String Fields :=
  orError "AttributeError" ((lookup name fields).getD (.dict [])).asDict

/-- `int(value)`. -/
def pyInt : Value → Except String Int
  | .int n => .ok n
  | .bool b => .ok (if b then 1 else 0)
  | .float (.finite x) => .ok (x.num.tdiv x.den)
  | .str s => orError "ValueError" (PyText.parseInt Γ.unicode s.toList)
  | _ => .error "TypeError"

/-- `set(value)`. -/
def setOf (v : Value) : Except String (List Value) := do
  let items ← iterate v
  guardError "TypeError" (items.all isHashable)
  .ok items

/-- `sorted(items - names)`, joined for a message: where something is left that is no string, sorting or joining raises. -/
def missingNames (items : List Value) (names : List String) : Except String (List String) := do
  let missing ← (items.filter fun item => !item.asStr.any fun s => names.contains s).mapM fun item => orError "TypeError" item.asStr
  .ok (sortNames missing.dedup)

/-- The failure of names of which there must be none. -/
def failNames (message : String) (names : List String) : List String :=
  if names = [] then [] else [message ++ commaSeparated names]

/-! ## Parts of the documents -/

/-- `status_check_contexts`. -/
def statusCheckContexts (branch : Fields) : List String :=
  match field "required_status_checks" branch with
  | .dict required =>
    ((field "contexts" required).asList.getD []).filterMap asStr ++
      ((field "checks" required).asList.getD []).filterMap fun item => item.asDict.bind fun check => (field "context" check).asStr
  | _ => []

/-- `has_rule`. -/
def hasRule (rules : List Value) (ruleType : String) : Bool :=
  rules.any fun rule => rule.asDict.any fun rule => (field "type" rule).pyEq (.str ruleType)

/-- `ruleset_named`. -/
def rulesetNamed (rulesets : Value) (name target : String) : Option Fields :=
  let items := match rulesets with
    | .dict fields => field "rulesets" fields
    | other => other
  ((items.asList.getD []).filterMap asDict).find? fun item =>
    (field "name" item).pyEq (.str name) && (field "target" item).pyEq (.str target)

/-- `ruleset_ref_includes`. -/
def rulesetRefIncludes (ruleset : Fields) (expected : String) (aliases : List String) : Bool :=
  (field "conditions" ruleset).asDict.any fun conditions => (field "ref_name" conditions).asDict.any fun refName =>
    (field "include" refName).asList.any fun includes => includes.any fun item => item.asStr.any (expected :: aliases).contains

/-- The rules of an environment that require reviewers. -/
def reviewerRules (environment : Fields) : List Fields :=
  (((field "protection_rules" environment).asList.getD []).filterMap asDict).filter fun rule =>
    (field "type" rule).pyEq (.str "required_reviewers")

/-- `environment_reviewers`. -/
def environmentReviewers (environment : Fields) : Int :=
  ((reviewerRules environment).map fun rule =>
    match field "reviewers" rule with
    | .list raw => (raw.length : Int)
    | _ => (field "reviewer_count" rule).asInt.getD 0).sum

/-- `environment_reviewer_identities`. -/
def environmentReviewerIdentities (environment : Fields) : List String :=
  (reviewerRules environment).flatMap fun rule =>
    (((field "reviewers" rule).asList.getD []).filterMap asDict).flatMap fun item =>
      let reviewerType := Γ.lower (((lookup "type" item).getD (.str "")).pyStr Γ.repr)
      (field "reviewer" item).asDict.toList.flatMap fun reviewer =>
        ["slug", "login", "name"].flatMap fun key =>
          ((field key reviewer).asStr.filter (· ≠ "")).toList.flatMap fun value => [value, s!"{reviewerType}:{value}"]

/-- `environment_prevents_self_review`. -/
def environmentPreventsSelfReview (environment : Fields) : Bool :=
  (field "prevent_self_review" environment).isTrue ||
    (reviewerRules environment).any fun rule => (field "prevent_self_review" rule).isTrue

/-- `deployment_policy_patterns`. -/
def deploymentPolicyPatterns (snapshot : Value) : List String :=
  let items := match snapshot with
    | .dict fields => field "branch_policies" fields
    | other => other
  ((items.asList.getD []).filterMap asDict).flatMap fun item =>
    (field "name" item).asStr.toList.flatMap fun name =>
      name :: if (field "type" item).pyEq (.str "tag") && !"refs/tags/".toList.isPrefixOf name.toList then ["refs/tags/" ++ name] else []

/-- `codeowners_patterns`. -/
def codeownersPatterns (snapshot : Value) : List String :=
  (snapshot.asDict.bind fun fields => (field "patterns" fields).asList).toList.flatMap fun items => items.map (pyStr Γ.repr)

/-! ## The manifest -/

def manifestName : String := "snapshot-manifest.json"

/-- The files that the manifest must list. -/
def requiredFiles : List String :=
  ["repo.json", "rulesets.json", "main-branch-protection.json", "release-sign-environment.json", "release-publish-environment.json",
    "workflow-permissions.json", "codeowners.json", "audit-log.json"]

/-- The name that an entry of the manifest gives a file. -/
def listedName (item : Value) : Option String :=
  (item.asDict.bind fun item => (field "name" item).asStr).filter fun name =>
    name ≠ "" && !name.toList.contains '/' && name ≠ manifestName

/-- The failures of a file that is listed with a digest. -/
def fileFailures (file : String → Except String (Option Bytes)) (name : String) (digest : Value) : List String :=
  match (fileBytes (file name)).filter fun bytes => !bytes.isEmpty with
  | none => [s!"snapshot manifest file missing: {name}"]
  | some bytes => failUnless s!"snapshot manifest sha mismatch: {name}" (digest.pyEq (.str (Γ.hexdigest bytes)))

/-- The failures of an entry of the manifest. -/
def entryFailures (file : String → Except String (Option Bytes)) (item : Value) : List String :=
  match item with
  | .dict fields =>
    match listedName item with
    | none => ["snapshot-manifest.json file names must be single relative filenames"]
    | some name =>
      if isSha256 Γ (field "sha256" fields) then fileFailures Γ file name (field "sha256" fields)
      else [s!"snapshot manifest file {name} must include a sha256"]
  | _ => ["snapshot-manifest.json files entries must be objects"]

/-- The failures of the files of the manifest. -/
def filesFailures (file : String → Except String (Option Bytes)) (files : Value) : List String :=
  match files with
  | .list (item :: items) =>
    (item :: items).flatMap (entryFailures Γ file) ++ requiredFiles.flatMap fun name =>
      failUnless s!"snapshot manifest missing required file: {name}" (((item :: items).filterMap listedName).contains name)
  | _ => ["snapshot-manifest.json files must be a non-empty list"]

/-- `validate_snapshot_manifest`. -/
def validateSnapshotManifest (read : String → Except String Value) (file : String → Except String (Option Bytes)) (policy : Fields) :
    Except String (List String) := do
  let manifest ← read manifestName
  let repo ← read "repo.json"
  let expected := field "repository" policy
  match manifest with
  | .dict manifest =>
    .ok (failUnless "snapshot-manifest.json schema_version is invalid"
        ((field "schema_version" manifest).pyEq (.str "suderra.github-governance-snapshot-manifest.v1")) ++
      failUnless "snapshot manifest repository must match governance policy"
        (!expected.truthy || (field "repository" manifest).pyEq expected) ++
      failUnless "repo.json full_name must match governance policy repository"
        (repo.asDict.all fun repo => !expected.truthy || (field "full_name" repo).pyEq expected) ++
      failUnless "governance snapshot manifest must not contain collection failures" (!(field "failures" manifest).truthy) ++
      filesFailures Γ file (field "files" manifest))
  | _ => .ok ["snapshot-manifest.json must be collected"]

/-! ## The audit log -/

/-- The failures of a part of the audit log that must be an object. -/
def objectFailures (message : String) (v : Value) (failures : Fields → List String) : List String := (v.asDict.map failures).getD [message]

/-- `validate_audit_log`. -/
def validateAuditLog (auditLog : Value) : Except String (List String) :=
  match auditLog with
  | .dict log => do
    guardError "TypeError" (field "source_kind" log).isHashable
    .ok (failUnless "audit-log.json schema_version is invalid" ((field "schema_version" log).pyEq (.str "suderra.audit-log-snapshot.v1")) ++
      failUnless "audit log must be collected" ((field "status" log).pyEq (.str "collected")) ++
      failUnless "audit log contains unapproved governance changes" (!(field "unapproved_governance_changes" log).truthy) ++
      failUnless "audit log must include events_sha256" (isSha256 Γ (field "events_sha256" log)) ++
      failUnless "audit log must identify an org/enterprise source"
        ((field "source_kind" log).isIn
          [.str "organization", .str "enterprise", .str "manual-org-export", .str "manual-enterprise-export"]) ++
      (["repository", "query"].flatMap fun name => failUnless s!"audit log must include {name}" (isText (field name log))) ++
      failUnless "audit log must include non-negative event_count" (isIntFrom 0 (field "event_count" log)) ++
      failUnless "audit log must include collector.identity"
        ((field "collector" log).asDict.any fun collector => isText (field "identity" collector)) ++
      objectFailures "audit log must include lookback_window" (field "lookback_window" log) (fun window =>
        failUnless "audit log must include lookback_window.start" (isText (field "start" window)) ++
        failUnless "audit log must include lookback_window.end" (isText (field "end" window)) ++
        failUnless "audit log must include positive lookback_window.days" (isIntFrom 1 (field "days" window))) ++
      objectFailures "audit log must include raw_export" (field "raw_export" log) (fun rawExport =>
        failUnless "audit log must include raw_export.path" (isText (field "path" rawExport)) ++
        failUnless "audit log must include positive raw_export.bytes" (isIntFrom 1 (field "bytes" rawExport)) ++
        failUnless "audit log must include raw_export.sha256" (isSha256 Γ (field "sha256" rawExport))) ++
      objectFailures "audit log must include replay" (field "replay" log) (fun replay =>
        failUnless "audit log replay.status must be passed" ((field "status" replay).pyEq (.str "passed")) ++
        failUnless "audit log replay.unapproved_events must be empty" ((field "unapproved_events" replay).isIn [.list [], .null])))
  | _ => .ok ["audit-log.json must be collected"]

/-! ## Environments -/

def environmentFile (name : String) : String := name ++ "-environment.json"

def deploymentPoliciesFile (name : String) : String := name ++ "-deployment-branch-policies.json"

/-- The failures of an environment that was collected. -/
def environmentFailures (policy : Fields) (name : String) (environment : Fields) (deploymentPolicies : Value) :
    Except String (List String) := do
  let minimum ← pyInt Γ ((lookup "minimum_reviewers" policy).getD (.int 1))
  let identities := environmentReviewerIdentities Γ environment
  let missing := sortNames (((((field "required_reviewers" policy).asList.getD []).map (pyStr Γ.repr)).filter fun s => !identities.contains s))
  let allowedRef := field "allowed_ref" policy
  let patterns := deploymentPolicyPatterns deploymentPolicies
  .ok (failUnless s!"{name} environment name mismatch" ((field "name" environment).pyEq (.str name)) ++
    failUnless s!"{name} environment must require reviewers" (minimum ≤ environmentReviewers environment) ++
    failNames s!"{name} environment missing required reviewer identities: " missing ++
    failUnless s!"{name} environment must prevent self review"
      (!(field "prevent_self_review" policy).isTrue || environmentPreventsSelfReview environment) ++
    (match field "deployment_branch_policy" environment with
    | .dict deployment =>
      failUnless s!"{name} environment must use selected tag refs, not only protected branches"
        (!(field "protected_branches" deployment).isTrue || (field "custom_branch_policies" deployment).isTrue) ++
      failUnless s!"{name} environment must use custom selected tag refs"
        (!allowedRef.truthy || (field "custom_branch_policies" deployment).isTrue)
    | _ => failUnless s!"{name} environment deployment branch policy must be collected" (!allowedRef.truthy)) ++
    failUnless s!"{name} environment deployment policy must include {allowedRef.pyStr Γ.repr}"
      (!allowedRef.truthy || patterns.contains (allowedRef.pyStr Γ.repr) ||
        patterns.contains (removePrefix "refs/tags/" (allowedRef.pyStr Γ.repr))))

/-- The name that a policy gives its environment. -/
def environmentName (policy : Fields) : Option String := (field "name" policy).asStr.filter (· ≠ "")

/-- `validate_environment_policy`. -/
def validateEnvironmentPolicy (read : String → Except String Value) (policy : Value) (policyName : String) : Except String (List String) :=
  match policy with
  | .dict policy =>
    match environmentName policy with
    | none => .ok [s!"{policyName} policy must name a GitHub environment"]
    | some name => do
      let environment ← read (environmentFile name)
      let deploymentPolicies ← read (deploymentPoliciesFile name)
      match environment with
      | .dict environment => environmentFailures Γ policy name environment deploymentPolicies
      | _ => .ok [s!"missing {environmentFile name}"]
  | _ => .ok [s!"{policyName} policy must be an object"]

/-! ## The branch and the rulesets -/

/-- The failures of the reviews that a branch requires. -/
def reviewFailures (minimum : Int) (reviews : Value) : List String :=
  failUnless "main branch must require pull request reviews" reviews.truthy ++
    match if reviews.truthy then reviews else .dict [] with
    | .dict reviews =>
      failUnless "main branch must require CODEOWNERS review" (field "require_code_owner_reviews" reviews).truthy ++
        failUnless "main branch must dismiss stale reviews" (field "dismiss_stale_reviews" reviews).truthy ++
        failUnless s!"main branch must require at least {minimum} approvals"
          (isIntFrom minimum (field "required_approving_review_count" reviews))
    | _ => []

/-- The failures of the protection of the main branch. -/
def branchFailures (policy : Fields) (branch : Value) : Except String (List String) :=
  match branch with
  | .dict branch => do
    let minimum ← pyInt Γ
      ((lookup "minimum_approving_reviews" (((lookup "branch_protection" policy).getD (.dict [])).asDict.getD [])).getD (.int 1))
    let admins ← dictAt "enforce_admins" branch
    let forcePushes ← dictAt "allow_force_pushes" branch
    let deletions ← dictAt "allow_deletions" branch
    let history ← dictAt "required_linear_history" branch
    let signatures ← dictAt "required_signatures" branch
    let policyChecks ← setOf ((lookup "required_checks" policy).getD (.list []))
    let missing ← missingNames policyChecks (statusCheckContexts branch)
    .ok (reviewFailures minimum (field "required_pull_request_reviews" branch) ++
      failUnless "main branch required status checks must require up-to-date branches"
        ((field "required_status_checks" branch).asDict.any fun checks => (field "strict" checks).isTrue) ++
      failUnless "main branch protection must enforce admins" (field "enabled" admins).isTrue ++
      failUnless "main branch must not allow force pushes" (!(field "enabled" forcePushes).isTrue) ++
      failUnless "main branch must not allow deletions" (!(field "enabled" deletions).isTrue) ++
      failUnless "main branch must require linear history" (field "enabled" history).isTrue ++
      failUnless "main branch must require signed commits" (field "enabled" signatures).isTrue ++
      failNames "missing required status checks: " missing ++
      failNames "unexpected required status checks: " (sortedDiff (statusCheckContexts branch) (policyChecks.filterMap asStr)))
  | _ => .ok ["missing main-branch-protection.json"]

/-- The failures of a ruleset that must be active and without bypass actors. -/
def activeFailures (kind : String) (rulePolicy ruleset : Fields) : List String :=
  failUnless s!"{kind} ruleset must be active" ((field "enforcement" ruleset).pyEq (.str "active")) ++
    failUnless s!"{kind} ruleset must not have bypass actors"
      (!((field "allow_bypass_actors" rulePolicy).isFalse && (field "bypass_actors" ruleset).truthy))

/-- The failures of rules that a ruleset lacks. -/
def ruleFailures (kind : String) (ruleset : Fields) (required : List String) : List String :=
  required.flatMap fun rule => failUnless s!"{kind} ruleset missing rule: {rule}" (hasRule ((field "rules" ruleset).asList.getD []) rule)

def branchRulesetFailures (policy rulePolicy : Fields) (rulesets : Value) : List String :=
  match rulesetNamed rulesets (((lookup "branch_name" rulePolicy).getD (.str "")).pyStr Γ.repr) "branch" with
  | none => ["missing active branch ruleset"]
  | some ruleset =>
    let protectedBranch := ((lookup "protected_branch" policy).getD (.str "main")).pyStr Γ.repr
    activeFailures "branch" rulePolicy ruleset ++
      ruleFailures "branch" ruleset ["pull_request", "required_signatures", "non_fast_forward", "required_linear_history"] ++
      failUnless s!"branch ruleset must apply to refs/heads/{protectedBranch}"
        (rulesetRefIncludes ruleset ("refs/heads/" ++ protectedBranch) [protectedBranch, "~DEFAULT_BRANCH"])

def tagRulesetFailures (policy rulePolicy : Fields) (rulesets : Value) : Except String (List String) :=
  match rulesetNamed rulesets (((lookup "tag_name" rulePolicy).getD (.str "")).pyStr Γ.repr) "tag" with
  | none => .ok ["release tag ruleset must exist"]
  | some ruleset => do
    let environment ← dictAt "release_environment" policy
    let allowedRef := ((lookup "allowed_ref" environment).getD (.str "refs/tags/v*")).pyStr Γ.repr
    .ok (activeFailures "tag" rulePolicy ruleset ++ ruleFailures "tag" ruleset ["non_fast_forward"] ++
      failUnless s!"tag ruleset must apply to {allowedRef}"
        (rulesetRefIncludes ruleset allowedRef [removePrefix "refs/tags/" allowedRef]))

/-! ## The verdict -/

/-- The failures and the warnings of `validate`. -/
structure Verdict where
  failures : List String
  warnings : List String

def Verdict.status (V : Verdict) : String := if V.failures = [] then "passed" else "failed"

def workflowFailures (permissions : Value) : List String :=
  permissions.asDict.toList.flatMap fun permissions =>
    failUnless "repository default workflow permissions must not be write"
        (!(field "default_workflow_permissions" permissions).pyEq (.str "write")) ++
      failUnless "GitHub Actions must not approve pull request reviews" (!(field "can_approve_pull_request_reviews" permissions).isTrue)

/-- `validate`, on what is read and what stands in the snapshot directory. A schema version that cannot be hashed raises. -/
def validateWith (policy : Fields) (read : String → Except String Value) (file : String → Except String (Option Bytes)) :
    Except String Verdict := do
  guardError "TypeError" (field "schema_version" policy).isHashable
  let manifest ← validateSnapshotManifest Γ read file policy
  let branch ← read "main-branch-protection.json"
  let rulesets ← read "rulesets.json"
  let tagProtection ← read "tag-protection.json"
  let permissions ← read "workflow-permissions.json"
  let codeowners ← read "codeowners.json"
  let auditLog ← read "audit-log.json"
  let branches ← branchFailures Γ policy branch
  let rulePolicy ← dictAt "ruleset" policy
  let tags ← tagRulesetFailures Γ policy rulePolicy rulesets
  let signing ← validateEnvironmentPolicy Γ read (field "signing_environment" policy) "signing_environment"
  let release ← validateEnvironmentPolicy Γ read (field "release_environment" policy) "release_environment"
  let patterns ← setOf ((lookup "required_codeowners_patterns" policy).getD (.list []))
  let missing ← missingNames patterns (codeownersPatterns Γ codeowners)
  let log ← validateAuditLog Γ auditLog
  .ok {
    failures := failUnless s!"policy schema_version must be {policySchemaVersion}"
        ((field "schema_version" policy).isIn ((policySchemaVersion :: legacyPolicySchemaVersions).map .str)) ++ manifest ++ branches ++
      branchRulesetFailures Γ policy rulePolicy rulesets ++ tags ++ signing ++ release ++ workflowFailures permissions ++
      failNames "missing CODEOWNERS patterns: " missing ++ log
    warnings :=
      failUnless "legacy tag protection snapshot is ignored; release tags must be governed by rulesets" (!tagProtection.truthy) ++
        failUnless "workflow-permissions.json not collected" permissions.asDict.isSome }

/-- `validate`. -/
def validate (policy : Fields) (S : Snapshot) : Except String Verdict := validateWith Γ policy (readJson Γ S) S.file

/-! ## What is bound -/

/-- `validate` returned `passed`. -/
def Passed (policy : Fields) (S : Snapshot) : Prop := ∃ V, validate Γ policy S = .ok V ∧ V.status = "passed"

/-- The environments that a policy names. -/
def environmentNames (policy : Fields) : List String :=
  ["signing_environment", "release_environment"].filterMap fun key => (field key policy).asDict.bind environmentName

/-- The files whose content decides the verdict. -/
def inspectedFiles (policy : Fields) : List String :=
  ["repo.json", "main-branch-protection.json", "rulesets.json", "workflow-permissions.json", "codeowners.json", "audit-log.json"] ++
    (environmentNames policy).flatMap fun name => [environmentFile name, deploymentPoliciesFile name]

/-- The files that the manifest of a snapshot lists. -/
def listedFiles (S : Snapshot) : List String :=
  match readJson Γ S manifestName with
  | .ok (.dict manifest) => ((field "files" manifest).asList.getD []).filterMap listedName
  | _ => []

/-- The manifest lists a file. -/
def Listed (S : Snapshot) (name : String) : Prop := ∃ listed ∈ listedFiles Γ S, PosixPath.ofString listed = PosixPath.ofString name

/-- The manifest of a snapshot that passed binds what was inspected: every snapshot with this manifest that passes has the same files. -/
def Bound (policy : Fields) (S : Snapshot) : Prop :=
  Passed Γ policy S → ∀ S', S'.file manifestName = S.file manifestName → Passed Γ policy S' →
    ∀ name ∈ inspectedFiles policy, S'.file name = S.file name

end

section

variable {Γ : Libraries} {policy : Fields} {S S' : Snapshot} {read : String → Except String Value}
  {file file' : String → Except String (Option Bytes)}

/-! ### A run that passed -/

/-- What a run that passed has read and found. -/
structure Inspected (Γ : Libraries) (policy : Fields) (read : String → Except String Value)
    (file : String → Except String (Option Bytes)) : Prop where
  manifest : validateSnapshotManifest Γ read file policy = .ok []
  signing : validateEnvironmentPolicy Γ read (field "signing_environment" policy) "signing_environment" = .ok []
  release : validateEnvironmentPolicy Γ read (field "release_environment" policy) "release_environment" = .ok []

theorem inspected_of_passed (h : Passed Γ policy S) : Inspected Γ policy (readJson Γ S) S.file := by
  obtain ⟨V, h, hstatus⟩ := h
  have hnone : V.failures = [] := by
    by_contra hsome
    rw [Verdict.status, if_neg hsome] at hstatus
    exact absurd hstatus (by decide)
  obtain ⟨_, h⟩ := guardError_bind_ok_iff.1 h
  obtain ⟨manifest, hmanifest, h⟩ := bind_ok_iff.1 h
  obtain ⟨branch, _, h⟩ := bind_ok_iff.1 h
  obtain ⟨rulesets, _, h⟩ := bind_ok_iff.1 h
  obtain ⟨tagProtection, _, h⟩ := bind_ok_iff.1 h
  obtain ⟨permissions, _, h⟩ := bind_ok_iff.1 h
  obtain ⟨codeowners, _, h⟩ := bind_ok_iff.1 h
  obtain ⟨auditLog, _, h⟩ := bind_ok_iff.1 h
  obtain ⟨branches, _, h⟩ := bind_ok_iff.1 h
  obtain ⟨rulePolicy, _, h⟩ := bind_ok_iff.1 h
  obtain ⟨tags, _, h⟩ := bind_ok_iff.1 h
  obtain ⟨signing, hsigning, h⟩ := bind_ok_iff.1 h
  obtain ⟨release, hrelease, h⟩ := bind_ok_iff.1 h
  obtain ⟨patterns, _, h⟩ := bind_ok_iff.1 h
  obtain ⟨missing, _, h⟩ := bind_ok_iff.1 h
  obtain ⟨log, _, h⟩ := bind_ok_iff.1 h
  obtain rfl := Except.ok.inj h
  simp only [List.append_eq_nil_iff] at hnone
  obtain ⟨⟨⟨⟨⟨⟨⟨⟨⟨_, rfl⟩, _⟩, _⟩, _⟩, rfl⟩, rfl⟩, _⟩, _⟩, _⟩ := hnone
  exact ⟨hmanifest, hsigning, hrelease⟩

theorem filesFailures_eq_nil {files : Value} : filesFailures Γ file files = [] ↔
    ∃ items, files = .list items ∧ items ≠ [] ∧ (∀ item ∈ items, entryFailures Γ file item = []) ∧
      ∀ name ∈ requiredFiles, name ∈ items.filterMap listedName := by
  unfold filesFailures
  split
  · next item items =>
    simp only [List.append_eq_nil_iff, List.flatMap_eq_nil_iff, failUnless_eq_nil, List.contains_eq_mem, decide_eq_true_eq,
      Value.list.injEq, exists_eq_left', ne_eq, reduceCtorEq, not_false_eq_true, true_and]
  · next hother =>
    refine iff_of_false (List.cons_ne_nil _ _) ?_
    rintro ⟨items, rfl, hne, -⟩
    obtain ⟨item, items, rfl⟩ := List.exists_cons_of_ne_nil hne
    exact hother item items rfl

/-- The manifest of a run that passed: its entries have no failures, and the mandatory files are among them. -/
theorem entries_of_manifest (h : validateSnapshotManifest Γ read file policy = .ok []) :
    ∃ manifest items, read manifestName = .ok (.dict manifest) ∧ field "files" manifest = .list items ∧
      (∀ item ∈ items, entryFailures Γ file item = []) ∧ ∀ name ∈ requiredFiles, name ∈ items.filterMap listedName := by
  obtain ⟨manifest, hmanifest, h⟩ := bind_ok_iff.1 h
  obtain ⟨repo, _, h⟩ := bind_ok_iff.1 h
  cases manifest with
  | dict manifest =>
    simp only [Except.ok.injEq, List.append_eq_nil_iff] at h
    obtain ⟨items, hfiles, -, hentries, hrequired⟩ := filesFailures_eq_nil.1 h.2
    exact ⟨manifest, items, hmanifest, hfiles, hentries, hrequired⟩
  | _ => simp at h

/-- A file that is listed in an entry without failures is there and has the digest of the entry. -/
theorem file_of_entry {item : Value} {name : String} (h : entryFailures Γ file item = []) (hname : listedName item = some name) :
    ∃ bytes, file name = .ok (some bytes) ∧ (item.asDict.map (field "sha256")) = some (.str (Γ.hexdigest bytes)) := by
  unfold entryFailures at h
  split at h
  · next fields =>
    rw [hname] at h
    simp only at h
    split_ifs at h
    unfold fileFailures at h
    split at h
    · cases h
    · next bytes hbytes =>
      rw [failUnless_eq_nil, pyEq_str_iff] at h
      have hheld := (Option.filter_eq_some_iff.1 hbytes).1
      cases hfile : file name with
      | error e => rw [hfile] at hheld; cases hheld
      | ok held =>
        rw [hfile] at hheld
        obtain rfl : held = some bytes := hheld
        exact ⟨bytes, rfl, congrArg some h⟩
  · cases h

theorem readJson_eq_of_file {name : String} (h : S'.file name = S.file name) : readJson Γ S' name = readJson Γ S name := by
  rw [readJson, readJson, h]

/-- Two runs that passed with the same manifest have the same listed files. -/
theorem file_eq_of_listed (hsha : Function.Injective Γ.sha256) (h : Inspected Γ policy (readJson Γ S) S.file)
    (h' : Inspected Γ policy (readJson Γ S') S'.file) (hsame : S'.file manifestName = S.file manifestName) {name : String}
    (hlisted : Listed Γ S name) : S'.file name = S.file name := by
  obtain ⟨manifest, items, hread, hfiles, hentries, -⟩ := entries_of_manifest h.manifest
  obtain ⟨manifest', items', hread', hfiles', hentries', -⟩ := entries_of_manifest h'.manifest
  rw [readJson_eq_of_file hsame, hread] at hread'
  obtain rfl : manifest = manifest' := Value.dict.inj (Except.ok.inj hread')
  obtain rfl : items = items' := Value.list.inj (hfiles.symm.trans hfiles')
  obtain ⟨listed, hmem, hpath⟩ := hlisted
  rw [listedFiles, hread] at hmem
  simp only [hfiles, asList, Option.getD_some, List.mem_filterMap] at hmem
  obtain ⟨item, hitem, hname⟩ := hmem
  obtain ⟨bytes, hbytes, hdigest⟩ := file_of_entry (hentries item hitem) hname
  obtain ⟨bytes', hbytes', hdigest'⟩ := file_of_entry (hentries' item hitem) hname
  have heq : bytes = bytes' :=
    Python.hexdigest_injective hsha (Value.str.inj (Option.some.inj (hdigest.symm.trans hdigest')))
  rw [Snapshot.file, Snapshot.file, ← hpath]
  exact hbytes'.trans (heq ▸ hbytes.symm)

/-! ### A file that is not listed -/

theorem filesFailures_congr {items : List Value} (h : ∀ name ∈ items.filterMap listedName, file' name = file name) :
    filesFailures Γ file' (.list items) = filesFailures Γ file (.list items) := by
  have hentry : ∀ item ∈ items, entryFailures Γ file' item = entryFailures Γ file item := by
    intro item hitem
    unfold entryFailures
    cases item with
    | dict fields =>
      cases hname : listedName (.dict fields) with
      | none => rfl
      | some name =>
        have hfile : fileFailures Γ file' name (field "sha256" fields) = fileFailures Γ file name (field "sha256" fields) := by
          unfold fileFailures
          rw [h name (List.mem_filterMap.2 ⟨_, hitem, hname⟩)]
        simp only [hfile]
    | _ => rfl
  cases items with
  | nil => rfl
  | cons item items => rw [filesFailures, filesFailures, List.flatMap_congr hentry]

theorem validateSnapshotManifest_congr
    (h : ∀ manifest, read manifestName = .ok (.dict manifest) → ∀ items, field "files" manifest = .list items →
      ∀ name ∈ items.filterMap listedName, file' name = file name) :
    validateSnapshotManifest Γ read file' policy = validateSnapshotManifest Γ read file policy := by
  unfold validateSnapshotManifest
  cases hread : read manifestName with
  | error e => rfl
  | ok manifest =>
    cases manifest with
    | dict manifest =>
      have hfiles : filesFailures Γ file' (field "files" manifest) = filesFailures Γ file (field "files" manifest) := by
        cases hitems : field "files" manifest with
        | list items => exact filesFailures_congr (h manifest hread items hitems)
        | _ => rfl
      simp only [ok_bind, hfiles]
    | _ => rfl

/-- A snapshot with something else at a path. -/
def Snapshot.set (S : Snapshot) (name : String) (bytes : Bytes) : Snapshot := fun path =>
  if path = PosixPath.ofString name then .ok (some bytes) else S path

theorem readJson_set {name : String} {bytes : Bytes} (h : parse Γ bytes = readJson Γ S name) :
    readJson Γ (S.set name bytes) = readJson Γ S := by
  funext other
  by_cases hpath : PosixPath.ofString other = PosixPath.ofString name
  · have hset : (S.set name bytes).file other = .ok (some bytes) := if_pos hpath
    have hsame : S.file other = S.file name := congrArg S hpath
    rw [readJson, hset, readJson, hsame, ← readJson]
    exact h
  · exact readJson_eq_of_file (if_neg hpath)

/-- What a file that is not listed holds can be written in another way, and nothing changes. -/
theorem passed_set {name : String} {bytes : Bytes} (hparse : parse Γ bytes = readJson Γ S name) (hlisted : ¬Listed Γ S name)
    (h : Passed Γ policy S) : Passed Γ policy (S.set name bytes) := by
  have hmanifest : validateSnapshotManifest Γ (readJson Γ S) (S.set name bytes).file policy =
      validateSnapshotManifest Γ (readJson Γ S) S.file policy := by
    refine validateSnapshotManifest_congr fun manifest hread items hitems listed hmem => if_neg fun hpath => hlisted ⟨listed, ?_, hpath⟩
    rw [listedFiles, hread]
    simpa only [hitems, asList, Option.getD_some] using hmem
  have hsame : validate Γ policy (S.set name bytes) = validate Γ policy S := by
    rw [validate, validate, readJson_set hparse, validateWith, validateWith, hmanifest]
  rw [Passed, hsame]
  exact h

/-- A name that ends in another way than the manifest's does not lead to the manifest. -/
theorem ofString_append_ne_manifest (env : String) {tail : String} (hslash : '/' ∉ tail.toList) (hlong : 1 < tail.toList.length)
    (hsuffix : tail.toList.isSuffixOf manifestName.toList = false) :
    PosixPath.ofString (env ++ tail) ≠ PosixPath.ofString manifestName := by
  obtain ⟨front, last, hnames⟩ := PosixPath.names_ofString_append (s := env) hslash hlong
  intro heq
  have hmanifest : PosixPath.ofString manifestName = ⟨"", [manifestName]⟩ := PosixPath.ofString_of_name (by decide)
  rw [heq, hmanifest] at hnames
  have hlast := congrArg List.getLast? hnames
  rw [List.getLast?_singleton, List.getLast?_concat, Option.some.injEq] at hlast
  have hends : tail.toList.isSuffixOf manifestName.toList = true := by
    rw [hlast, String.toList_ofList, List.isSuffixOf_iff_suffix]
    exact List.suffix_append last tail.toList
  exact absurd (hsuffix.symm.trans hends) Bool.false_ne_true

theorem path_ne_manifest {env name : String} (h : name ∈ [environmentFile env, deploymentPoliciesFile env]) :
    PosixPath.ofString name ≠ PosixPath.ofString manifestName := by
  rcases List.mem_cons.1 h with rfl | h
  · exact ofString_append_ne_manifest env (by decide) (by decide) (by decide)
  · obtain rfl := List.mem_singleton.1 h
    exact ofString_append_ne_manifest env (by decide) (by decide) (by decide)

/-- A run that passed has read both files of every environment. -/
theorem read_of_environment (h : Inspected Γ policy read file) {env : String} (henv : env ∈ environmentNames policy) :
    ∀ name ∈ [environmentFile env, deploymentPoliciesFile env], ∃ v, read name = .ok v := by
  have hread : ∀ {value policyName}, validateEnvironmentPolicy Γ read value policyName = .ok [] →
      value.asDict.bind environmentName = some env → ∀ name ∈ [environmentFile env, deploymentPoliciesFile env], ∃ v, read name = .ok v := by
    intro value policyName hvalid hname
    cases value with
    | dict fields =>
      have hname : environmentName fields = some env := hname
      rw [validateEnvironmentPolicy, hname] at hvalid
      obtain ⟨environment, henvironment, hvalid⟩ := bind_ok_iff.1 hvalid
      obtain ⟨deployment, hdeployment, -⟩ := bind_ok_iff.1 hvalid
      exact List.forall_mem_cons.2 ⟨⟨_, henvironment⟩, List.forall_mem_singleton.2 ⟨_, hdeployment⟩⟩
    | _ => cases hname
  obtain ⟨key, hkey, hname⟩ := List.mem_filterMap.1 henv
  rcases List.mem_cons.1 hkey with rfl | hkey
  · exact hread h.signing hname
  · obtain rfl := List.mem_singleton.1 hkey
    exact hread h.release hname

/-- What is read from a file can be written in another way: with a space before it, or as `null` where there is no file. -/
theorem exists_variant (hspace : ∀ text v, Γ.loads text = some v → Γ.loads (' ' :: text) = some v)
    (hnull : Γ.loads "null".toList = some .null) {name : String} {v : Value} (h : readJson Γ S name = .ok v) :
    ∃ bytes, parse Γ bytes = .ok v ∧ S.file name ≠ .ok (some bytes) := by
  obtain ⟨held, hheld, h⟩ := bind_ok_iff.1 h
  cases held with
  | none =>
    refine ⟨Utf8.encode "null", ?_, fun heq => ?_⟩
    · have hplain : PyText.universalNewlines "null".toList = "null".toList := by decide
      rw [parse, Utf8.decode_encode, orError_some, ok_bind, hplain, hnull, orError_some]
      exact h
    · cases hheld.symm.trans heq
  | some bytes =>
    refine ⟨0x20 :: bytes, ?_, fun heq => ?_⟩
    · obtain ⟨text, htext, h⟩ := orError_bind_ok_iff.1 h
      have hloads := hspace _ _ (orError_ok_iff.1 h)
      rw [parse, Utf8.decode_cons_space htext, orError_some, ok_bind, String.toList_ofList]
      exact orError_ok_iff.2 hloads
    · have := congrArg List.length (Option.some.inj (Except.ok.inj (hheld.symm.trans heq)))
      simp at this

/-- The mandatory files of a run that passed are listed. -/
theorem listed_of_required (h : Inspected Γ policy (readJson Γ S) file) {name : String} (hname : name ∈ requiredFiles) :
    Listed Γ S name := by
  obtain ⟨manifest, items, hread, hfiles, -, hrequired⟩ := entries_of_manifest h.manifest
  refine ⟨name, ?_, rfl⟩
  rw [listedFiles, hread]
  simpa only [hfiles, asList, Option.getD_some] using hrequired name hname

/-- The manifest of a snapshot binds what was inspected exactly when it lists both files of every environment that the policy names. -/
theorem snapshot_bound_iff (hsha : Function.Injective Γ.sha256) (hspace : ∀ text v, Γ.loads text = some v → Γ.loads (' ' :: text) = some v)
    (hnull : Γ.loads "null".toList = some .null) : Bound Γ policy S ↔
      (Passed Γ policy S → ∀ env ∈ environmentNames policy, ∀ name ∈ [environmentFile env, deploymentPoliciesFile env], Listed Γ S name) := by
  constructor
  · intro hbound hpassed env henv name hname
    by_contra hlisted
    obtain ⟨v, hread⟩ := read_of_environment (inspected_of_passed hpassed) henv name hname
    obtain ⟨bytes, hparse, hother⟩ := exists_variant hspace hnull hread
    have hmanifest : (S.set name bytes).file manifestName = S.file manifestName := if_neg fun heq => path_ne_manifest hname heq.symm
    have hmem : name ∈ inspectedFiles policy := List.mem_append_right _ (List.mem_flatMap.2 ⟨env, henv, hname⟩)
    have hsame := hbound hpassed _ hmanifest (passed_set (hparse.trans hread.symm) hlisted hpassed) name hmem
    have hset : (S.set name bytes).file name = .ok (some bytes) := if_pos rfl
    exact hother (hsame.symm.trans hset)
  · intro hcondition hpassed S' hmanifest hpassed' name hname
    have hinspected := inspected_of_passed hpassed
    refine file_eq_of_listed hsha hinspected (inspected_of_passed hpassed') hmanifest ?_
    rcases List.mem_append.1 hname with hname | hname
    · have hsubset : ["repo.json", "main-branch-protection.json", "rulesets.json", "workflow-permissions.json", "codeowners.json",
        "audit-log.json"] ⊆ requiredFiles := by decide
      exact listed_of_required hinspected (hsubset hname)
    · obtain ⟨env, henv, hname⟩ := List.mem_flatMap.1 hname
      exact hcondition hpassed env henv name hname

end

/-! ### Samples -/

def sampleEnvironment (name : String) : Fields :=
  [("name", .str name), ("protection_rules", .list [.dict [("type", .str "required_reviewers"), ("reviewer_count", .int 1)]]),
    ("deployment_branch_policy", .dict [("custom_branch_policies", .bool true)])]

def sampleBranch : Fields :=
  [("required_pull_request_reviews", .dict [("require_code_owner_reviews", .bool true), ("dismiss_stale_reviews", .bool true),
      ("required_approving_review_count", .int 1)]),
    ("required_status_checks", .dict [("strict", .bool true)]), ("enforce_admins", .dict [("enabled", .bool true)]),
    ("required_linear_history", .dict [("enabled", .bool true)]), ("required_signatures", .dict [("enabled", .bool true)])]

def sampleRuleset (name target : String) (rules : List String) (ref : String) : Value :=
  .dict [("name", .str name), ("target", .str target), ("enforcement", .str "active"),
    ("rules", .list (rules.map fun rule => .dict [("type", .str rule)])),
    ("conditions", .dict [("ref_name", .dict [("include", .list [.str ref])])])]

def sampleRulesets : Fields :=
  [("rulesets", .list
    [sampleRuleset "main" "branch" ["pull_request", "required_signatures", "non_fast_forward", "required_linear_history"] "~DEFAULT_BRANCH",
      sampleRuleset "tags" "tag" ["non_fast_forward"] "refs/tags/v*"])]

def sampleEvents : Value := .str "34dd567bde26307e87e1996f33d72215e0d5673222738bfc26baa066fdfeadfd"

def sampleAudit : Fields :=
  [("schema_version", .str "suderra.audit-log-snapshot.v1"), ("status", .str "collected"), ("events_sha256", sampleEvents),
    ("source_kind", .str "organization"), ("repository", .str "suderra/os"), ("query", .str "repo:suderra/os"), ("event_count", .int 0),
    ("collector", .dict [("identity", .str "release-manager")]),
    ("lookback_window", .dict [("start", .str "2026-06-01T00:00:00Z"), ("end", .str "2026-07-01T00:00:00Z"), ("days", .int 30)]),
    ("raw_export", .dict [("path", .str "audit-log.raw.json"), ("bytes", .int 2), ("sha256", sampleEvents)]),
    ("replay", .dict [("status", .str "passed"), ("unapproved_events", .list [])])]

/-- The mandatory files, with their digests. -/
def sampleDocuments : List (String × Fields × String) :=
  [("repo.json", [], "44136fa355b3678a1146ad16f7e8649e94fb4fc21fe77e8310c060f61caaff8a"),
    ("rulesets.json", sampleRulesets, "4953243e32614e29e7e79aa25c7757a2e6d0672bc9bd7725b46ff28da1857b16"),
    ("main-branch-protection.json", sampleBranch, "d91b80ace58eb0309db8d72f8d14b922b10416402b1e685be966185b21310274"),
    ("release-sign-environment.json", sampleEnvironment "release-sign", "c499f12abb538dbf73d251bd58b152566ed60bd4d12a297fb866785dd1f234d9"),
    ("release-publish-environment.json", sampleEnvironment "release-publish",
      "10c90f0aa16088de252aff6ce2e6b5b178c9a2475cd18f6e57b863b1faafa461"),
    ("workflow-permissions.json", [], "44136fa355b3678a1146ad16f7e8649e94fb4fc21fe77e8310c060f61caaff8a"),
    ("codeowners.json", [], "44136fa355b3678a1146ad16f7e8649e94fb4fc21fe77e8310c060f61caaff8a"),
    ("audit-log.json", sampleAudit, "fcb539a5bbaf04221914f67c703714d0363dafae58c3065abc79033c6de90486")]

def sampleManifest : Fields :=
  [("schema_version", .str "suderra.github-governance-snapshot-manifest.v1"),
    ("files", .list (sampleDocuments.map fun p => .dict [("name", .str p.1), ("sha256", .str p.2.2)]))]

def tagPolicy : Value := .dict [("name", .str "v*"), ("type", .str "tag")]

def anyBranchPolicy : Value := .dict [("name", .str "*"), ("type", .str "branch")]

/-- The files of a snapshot, with what may be deployed to the environment that signs. -/
def sampleFiles (policies : List Value) : List (String × Fields) :=
  ("snapshot-manifest.json", sampleManifest) :: sampleDocuments.map (fun p => (p.1, p.2.1)) ++
    [("release-sign-deployment-branch-policies.json", [("branch_policies", .list policies)]),
      ("release-publish-deployment-branch-policies.json", [("branch_policies", .list [tagPolicy])])]

def sampleSnapshot (policies : List Value) : Snapshot := fun path =>
  .ok (((sampleFiles policies).lookup (toString path)).map OperatorIngress.documentBytes)

def samplePolicy : Fields :=
  [("schema_version", .str policySchemaVersion), ("ruleset", .dict [("branch_name", .str "main"), ("tag_name", .str "tags")]),
    ("signing_environment", .dict [("name", .str "release-sign"), ("allowed_ref", .str "refs/tags/v*")]),
    ("release_environment", .dict [("name", .str "release-publish"), ("allowed_ref", .str "refs/tags/v*")])]

/-- The digests of the files of the sample are those of SHA-256; what else there is has longer ones. -/
def sampleSha256 (bytes : Bytes) : Bytes :=
  if bytes ∈ sampleDocuments.map fun p => OperatorIngress.documentBytes p.2.1 then Sha256.digest bytes
  else List.replicate 33 0 ++ bytes

def sampleLibraries : Libraries where
  sha256 := sampleSha256
  loads := JsonText.read
  repr := fun _ => ""
  unicode := ⟨fun _ => none, fun cs => cs.map Char.toUpper⟩
  lower := fun s => String.ofList (s.toList.map Char.toLower)
  isdigit := Char.isDigit

theorem digest_sample : ∀ p ∈ sampleDocuments,
    String.ofList (Hex.encode (Sha256.digest (OperatorIngress.documentBytes p.2.1))) = p.2.2 := by
  decide +kernel

theorem sampleSha256_injective : Function.Injective sampleSha256 := by
  have hfind : ∀ p ∈ sampleDocuments, (sampleDocuments.find? fun q => q.2.2 = p.2.2).map (·.2.1) = some p.2.1 :=
    List.forall_mem_cons.2 ⟨rfl, List.forall_mem_cons.2 ⟨rfl, List.forall_mem_cons.2 ⟨rfl, List.forall_mem_cons.2 ⟨rfl,
      List.forall_mem_cons.2 ⟨rfl, List.forall_mem_cons.2 ⟨rfl, List.forall_mem_cons.2 ⟨rfl, List.forall_mem_singleton.2 rfl⟩⟩⟩⟩⟩⟩⟩
  have hlong : ∀ bytes other, Sha256.digest bytes ≠ List.replicate 33 0 ++ other := by
    intro bytes other heq
    have := congrArg List.length heq
    rw [Sha256.length_digest, List.length_append, List.length_replicate] at this
    omega
  intro b b' h
  simp only [sampleSha256] at h
  split_ifs at h with hb hb' hb'
  · obtain ⟨p, hp, rfl⟩ := List.mem_map.1 hb
    obtain ⟨q, hq, rfl⟩ := List.mem_map.1 hb'
    have hdigest : p.2.2 = q.2.2 := by rw [← digest_sample p hp, ← digest_sample q hq, h]
    have hdocument := hfind p hp
    rw [hdigest, hfind q hq, Option.some.injEq] at hdocument
    rw [hdocument]
  · exact absurd h (hlong _ _)
  · exact absurd h.symm (hlong _ _)
  · exact List.append_cancel_left h

theorem parse_documentBytes {document : Fields} (hplain : (Value.dict document).plain = true) :
    parse sampleLibraries (OperatorIngress.documentBytes document) = .ok (.dict document) := by
  have hread : Evidence.readJson sampleLibraries.toPython (fun _ => some (OperatorIngress.documentBytes document)) ⟨"", []⟩ =
      .ok (some (.dict document)) := OperatorIngress.readJson_documentBytes rfl hplain rfl
  obtain ⟨text, htext, hread⟩ := bind_ok_iff.1 hread
  exact bind_ok_iff.2 ⟨text, htext, orError_ok_iff.2 (Except.ok.inj hread)⟩

theorem file_sample {policies : List Value} {name : String} {document : Fields} (hpath : toString (PosixPath.ofString name) = name)
    (h : (sampleFiles policies).lookup name = some document) :
    (sampleSnapshot policies).file name = .ok (some (OperatorIngress.documentBytes document)) := by
  rw [Snapshot.file, sampleSnapshot, hpath, h]
  rfl

theorem read_sample {policies : List Value} {name : String} {document : Fields} (hpath : toString (PosixPath.ofString name) = name)
    (h : (sampleFiles policies).lookup name = some document) (hplain : (Value.dict document).plain = true) :
    readJson sampleLibraries (sampleSnapshot policies) name = .ok (.dict document) := by
  rw [readJson, file_sample hpath h]
  exact parse_documentBytes hplain

theorem hexdigest_sample {p : String × Fields × String} (hp : p ∈ sampleDocuments) :
    sampleLibraries.hexdigest (OperatorIngress.documentBytes p.2.1) = p.2.2 := by
  have hmem : OperatorIngress.documentBytes p.2.1 ∈ sampleDocuments.map fun p => OperatorIngress.documentBytes p.2.1 :=
    List.mem_map.2 ⟨p, hp, rfl⟩
  have hsha : sampleLibraries.sha256 (OperatorIngress.documentBytes p.2.1) = Sha256.digest (OperatorIngress.documentBytes p.2.1) := if_pos hmem
  rw [Python.hexdigest, hsha, digest_sample p hp]

theorem isSha256_sample {p : String × Fields × String} (hp : p ∈ sampleDocuments) : isSha256 sampleLibraries (.str p.2.2) = true := by
  have hdigits : ∀ d < 16, (Char.isDigit (Nat.digitChar d) || ('a' ≤ Nat.digitChar d && Nat.digitChar d ≤ 'f')) = true := by decide +kernel
  have hzeros : ∀ p ∈ sampleDocuments, p.2.2 ≠ String.ofList (List.replicate 64 '0') := by decide +kernel
  rw [isSha256, asStr, Option.any_some, Bool.and_eq_true, Bool.and_eq_true, decide_eq_true_eq, decide_eq_true_eq, List.all_eq_true]
  refine ⟨⟨?_, fun c hc => ?_⟩, hzeros p hp⟩
  · rw [← digest_sample p hp, String.toList_ofList, Hex.length_encode, Sha256.length_digest]
  · rw [← digest_sample p hp, String.toList_ofList] at hc
    obtain ⟨d, hd, rfl⟩ := Hex.mem_encode hc
    exact hdigits d hd

theorem lookup_sample (policies : List Value) {p : String × Fields × String} (hp : p ∈ sampleDocuments) :
    (sampleFiles policies).lookup p.1 = some p.2.1 := by
  have hnodup : ((sampleFiles policies).map (·.1)).Nodup :=
    show ("snapshot-manifest.json" :: sampleDocuments.map (·.1) ++
      ["release-sign-deployment-branch-policies.json", "release-publish-deployment-branch-policies.json"]).Nodup by decide
  rw [lookup_eq_some_iff_mem hnodup]
  exact List.mem_append_left _ (List.mem_cons_of_mem _ (List.mem_map.2 ⟨p, hp, rfl⟩))

theorem manifest_sample (policies : List Value) :
    validateSnapshotManifest sampleLibraries (readJson sampleLibraries (sampleSnapshot policies)) (sampleSnapshot policies).file samplePolicy =
      .ok [] := by
  have hentry : ∀ p ∈ sampleDocuments, entryFailures sampleLibraries (sampleSnapshot policies).file
      (.dict [("name", .str p.1), ("sha256", .str p.2.2)]) = [] := by
    intro p hp
    have hname : ∀ p ∈ sampleDocuments, listedName (.dict [("name", .str p.1), ("sha256", .str p.2.2)]) = some p.1 := by decide +kernel
    have hpath : ∀ p ∈ sampleDocuments, toString (PosixPath.ofString p.1) = p.1 := by decide +kernel
    have hne : ∀ p ∈ sampleDocuments, (!(OperatorIngress.documentBytes p.2.1).isEmpty) = true := by decide +kernel
    have hfield : field "sha256" [("name", .str p.1), ("sha256", .str p.2.2)] = .str p.2.2 := rfl
    rw [entryFailures]
    simp only [hname p hp, hfield, isSha256_sample hp, if_true, fileFailures, file_sample (hpath p hp) (lookup_sample policies hp), fileBytes,
      Option.filter_some, hne p hp, hexdigest_sample hp, failUnless_eq_nil, pyEq_str, beq_self_eq_true]
  have hmanifest : readJson sampleLibraries (sampleSnapshot policies) manifestName = .ok (.dict sampleManifest) :=
    read_sample (by decide +kernel) rfl (by decide +kernel)
  have hrepo : readJson sampleLibraries (sampleSnapshot policies) "repo.json" = .ok (.dict []) := read_sample (by decide +kernel) rfl rfl
  have hfiles : filesFailures sampleLibraries (sampleSnapshot policies).file (field "files" sampleManifest) = [] := by
    have hnames : ∀ name ∈ requiredFiles,
        name ∈ (sampleDocuments.map fun p => Value.dict [("name", .str p.1), ("sha256", .str p.2.2)]).filterMap listedName := by decide +kernel
    exact filesFailures_eq_nil.2 ⟨sampleDocuments.map fun p => .dict [("name", .str p.1), ("sha256", .str p.2.2)], rfl,
      List.cons_ne_nil _ _, List.forall_mem_map.2 hentry, hnames⟩
  refine bind_ok_iff.2 ⟨_, hmanifest, bind_ok_iff.2 ⟨_, hrepo, ?_⟩⟩
  simp only [hfiles, List.append_nil]
  rfl

/-- An environment of the sample has no failures if release tags may be deployed to it. -/
theorem environment_sample {policyName name : String} {read : String → Except String Value} {policies : Value}
    (hname : name ∈ ["release-sign", "release-publish"])
    (henvironment : read (environmentFile name) = .ok (.dict (sampleEnvironment name)))
    (hpolicies : read (deploymentPoliciesFile name) = .ok policies) (hpatterns : (deploymentPolicyPatterns policies).contains "v*" = true) :
    validateEnvironmentPolicy sampleLibraries read (.dict [("name", .str name), ("allowed_ref", .str "refs/tags/v*")]) policyName = .ok [] := by
  have hpolicy : environmentName [("name", .str name), ("allowed_ref", .str "refs/tags/v*")] = some name := by
    rcases List.mem_cons.1 hname with rfl | hname
    · rfl
    · obtain rfl := List.mem_singleton.1 hname
      rfl
  rw [validateEnvironmentPolicy, hpolicy]
  refine bind_ok_iff.2 ⟨_, henvironment, bind_ok_iff.2 ⟨_, hpolicies, bind_ok_iff.2 ⟨1, rfl, congrArg Except.ok ?_⟩⟩⟩
  have hsame : (field "name" (sampleEnvironment name)).pyEq (.str name) = true := pyEq_str_iff.2 rfl
  have hreviewers : environmentReviewers (sampleEnvironment name) = 1 := rfl
  have hrequired : field "required_reviewers" [("name", Value.str name), ("allowed_ref", .str "refs/tags/v*")] = .null := rfl
  have hself : field "prevent_self_review" [("name", Value.str name), ("allowed_ref", .str "refs/tags/v*")] = .null := rfl
  have hdeployment : field "deployment_branch_policy" (sampleEnvironment name) = .dict [("custom_branch_policies", .bool true)] := rfl
  have hcustom : field "custom_branch_policies" [("custom_branch_policies", Value.bool true)] = .bool true := rfl
  have hallowed : field "allowed_ref" [("name", Value.str name), ("allowed_ref", .str "refs/tags/v*")] = .str "refs/tags/v*" := rfl
  have hremoved : removePrefix "refs/tags/" "refs/tags/v*" = "v*" := by decide
  have hnone : sortNames [] = [] := rfl
  simp only [hsame, hreviewers, hrequired, hself, hdeployment, hcustom, hallowed, pyStr, hremoved, hpatterns, asList, Option.getD_none,
    List.map_nil, List.filter_nil, hnone, List.append_eq_nil_iff, failUnless_eq_nil, failNames, if_true, Bool.or_true, decide_eq_true_eq,
    le_refl, and_true, true_and]
  exact ⟨rfl, rfl, rfl⟩

/-- The sample passes, whatever may be deployed to the environment that signs, if release tags may. -/
theorem passed_sample {policies : List Value} (hplain : (Value.dict [("branch_policies", .list policies)]).plain = true)
    (hpatterns : (deploymentPolicyPatterns (.dict [("branch_policies", .list policies)])).contains "v*" = true) :
    Passed sampleLibraries samplePolicy (sampleSnapshot policies) := by
  have hread : ∀ p ∈ sampleDocuments, readJson sampleLibraries (sampleSnapshot policies) p.1 = .ok (.dict p.2.1) := by
    have hpath : ∀ p ∈ sampleDocuments, toString (PosixPath.ofString p.1) = p.1 := by decide +kernel
    have hplain : ∀ p ∈ sampleDocuments, (Value.dict p.2.1).plain = true := by decide +kernel
    exact fun p hp => read_sample (hpath p hp) (lookup_sample policies hp) (hplain p hp)
  have hsign : readJson sampleLibraries (sampleSnapshot policies) "release-sign-deployment-branch-policies.json" =
      .ok (.dict [("branch_policies", .list policies)]) := read_sample (by decide +kernel) rfl hplain
  have hpublish : readJson sampleLibraries (sampleSnapshot policies) "release-publish-deployment-branch-policies.json" =
      .ok (.dict [("branch_policies", .list [tagPolicy])]) := read_sample (by decide +kernel) rfl (by decide +kernel)
  have htags : readJson sampleLibraries (sampleSnapshot policies) "tag-protection.json" = .ok .null := rfl
  rw [sampleDocuments, List.forall_mem_cons, List.forall_mem_cons, List.forall_mem_cons, List.forall_mem_cons, List.forall_mem_cons,
    List.forall_mem_cons, List.forall_mem_cons, List.forall_mem_singleton] at hread
  obtain ⟨-, hrulesets, hbranch, hsigning, hrelease, hpermissions, hcodeowners, hlog⟩ := hread
  refine ⟨⟨[], []⟩, ?_, rfl⟩
  refine guardError_bind_ok_iff.2 ⟨rfl, bind_ok_iff.2 ⟨_, manifest_sample policies, bind_ok_iff.2 ⟨_, hbranch, bind_ok_iff.2 ⟨_, hrulesets,
    bind_ok_iff.2 ⟨_, htags, bind_ok_iff.2 ⟨_, hpermissions, bind_ok_iff.2 ⟨_, hcodeowners, bind_ok_iff.2 ⟨_, hlog, ?_⟩⟩⟩⟩⟩⟩⟩⟩
  refine bind_ok_iff.2 ⟨[], ?_, bind_ok_iff.2 ⟨_, rfl, bind_ok_iff.2 ⟨[], ?_, bind_ok_iff.2 ⟨[], environment_sample (by decide +kernel) hsigning hsign
    hpatterns, bind_ok_iff.2 ⟨[], environment_sample (by decide +kernel) hrelease hpublish (by decide +kernel), bind_ok_iff.2 ⟨[], rfl, bind_ok_iff.2 ⟨[], ?_,
      bind_ok_iff.2 ⟨[], ?_, ?_⟩⟩⟩⟩⟩⟩⟩⟩
  · rfl
  · rfl
  · rfl
  · rfl
  · rfl

theorem snapshot_bound_iff_sample : Bound sampleLibraries samplePolicy (sampleSnapshot [tagPolicy]) ↔
    (Passed sampleLibraries samplePolicy (sampleSnapshot [tagPolicy]) → ∀ env ∈ environmentNames samplePolicy,
      ∀ name ∈ [environmentFile env, deploymentPoliciesFile env], Listed sampleLibraries (sampleSnapshot [tagPolicy]) name) :=
  snapshot_bound_iff sampleSha256_injective (fun _ _ h => JsonText.read_cons_space h) rfl

/-- With the same manifest, any branch may be deployed to the environment that signs. -/
theorem branches_not_bound : ¬Bound sampleLibraries samplePolicy (sampleSnapshot [tagPolicy]) := by
  intro h
  have hname : deploymentPoliciesFile "release-sign" ∈ inspectedFiles samplePolicy := by decide
  have hsame := h (passed_sample (by decide) (by decide)) (sampleSnapshot [tagPolicy, anyBranchPolicy]) rfl
    (passed_sample (by decide) (by decide)) _ hname
  have hone : (sampleSnapshot [tagPolicy]).file (deploymentPoliciesFile "release-sign") =
      .ok (some (OperatorIngress.documentBytes [("branch_policies", .list [tagPolicy])])) := file_sample (by decide) rfl
  have htwo : (sampleSnapshot [tagPolicy, anyBranchPolicy]).file (deploymentPoliciesFile "release-sign") =
      .ok (some (OperatorIngress.documentBytes [("branch_policies", .list [tagPolicy, anyBranchPolicy])])) := file_sample (by decide) rfl
  rw [hone, htwo, Except.ok.injEq, Option.some.injEq] at hsame
  have hparse := (parse_documentBytes (by decide)).symm.trans ((congrArg (parse sampleLibraries) hsame).trans (parse_documentBytes (by decide)))
  cases hparse

end SuderraOs.Evidence.Governance
