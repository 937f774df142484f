import SuderraOs.Evidence.Sections

/-!
# The decision on a release

The sections of an `evidence.json` with the governance, the approvals, the residual risk and the decision. They are checked by
themselves, by the rules for an approval (`approves_of_sections`), and not against the approval that the evidence preserves.
-/

namespace SuderraOs.Evidence.ReleaseEvidence

open Value OperatorIngress

def governanceValidationSchema : String := "suderra.github-governance-validation.v2"

def legacyGovernanceValidationSchema : String := "suderra.github-governance-validation.v1"

section

variable (L : Libraries) (B : Bundle) (requirePass : Bool) (evidence : Fields)

/-! ## Governance -/

/-- The failures of what the validation of a policy says. A schema that no set can hold raises. -/
def policyDocumentFailures (path : String) : Value → Except String (List String)
  | .dict payload => do
    guardError "TypeError" (requirePass || (field "schema_version" payload).isHashable)
    .ok ((if requirePass then
        failUnless s!"{path}.evidence: schema_version must be {governanceValidationSchema}"
          ((field "schema_version" payload).pyEq (.str governanceValidationSchema))
      else failUnless s!"{path}.evidence: schema_version must be suderra.github-governance-validation.v1 or v2"
        ((field "schema_version" payload).isIn [.str legacyGovernanceValidationSchema, .str governanceValidationSchema])) ++
      failUnless s!"{path}.evidence: governance policy validation must be passed" ((field "status" payload).pyEq (.str "passed")))
  | _ => .ok [s!"{path}.evidence: must be a governance validation JSON object"]

/-- The failures of a check of the governance. -/
def governanceCheckFailures (name : String) : Value → Except String (List String)
  | .dict check => do
    let path := s!"$.governance.checks.{name}"
    let status ← checkStatus s!"{path}.status" (field "status" check) statusValues
    let document ← (if requirePass && name = "policy_validation" then
      documentFailures L B (field "evidence" check) [s!"{path}.evidence: must be a governance validation JSON object"]
        (policyDocumentFailures requirePass path) else .ok [])
    .ok (status ++ checkRelativePath L.toPython B s!"{path}.evidence" (field "evidence" check) requirePass ++
      failUnless s!"{path}.status: must be passed for release-ready evidence"
        (!requirePass || (field "status" check).pyEq (.str "passed")) ++ document)
  | _ => .ok [s!"$.governance.checks.{name}: must be an object"]

/-- The failures of the checks of the governance. -/
def governanceChecksFailures : Value → Except String (List String)
  | .dict checks => do
    let found ← (members checks).mapM fun p => governanceCheckFailures L B requirePass p.1 p.2
    .ok ((governanceChecks.flatMap fun name =>
      failUnless s!"$.governance.checks: missing required check: {name}" (lookup name checks).isSome) ++ found.flatten)
  | _ => .ok ["$.governance.checks: must be an object"]

/-- `validate_governance`. -/
def validateGovernance : Except String (List String) :=
  match field "governance" evidence with
  | .dict governance => do
    let checks ← governanceChecksFailures L B requirePass (field "checks" governance)
    let years := field "retention_years" governance
    .ok ((if isIntFrom 1 years then
        failUnless "$.governance.retention_years: must be at least 7 for enterprise release evidence" (!requirePass || isIntFrom 7 years)
      else ["$.governance.retention_years: must be a positive integer"]) ++
      checkString "$.governance.approval_model" (field "approval_model" governance) ++ checks)
  | _ => .ok ["$.governance: must be an object"]

/-! ## The approvals, the decision and the risk -/

/-- The failures of an approval. -/
def approvalFailures (path : String) (approval : Fields) : List String :=
  checkStrings path ["role", "name", "approved_at"] approval ++
    (parseTimestamp L.fromisoformat s!"{path}.approved_at" (field "approved_at" approval) true).1 ++
    (lookup "ticket" approval).toList.flatMap (checkString s!"{path}.ticket")

/-- `validate_approvals`. -/
def validateApprovals : List String :=
  match field "approvals" evidence with
  | .list items =>
    (items.zipIdx.flatMap fun p =>
      objectFailures p.1 s!"$.approvals[{p.2}]: must be an object" (approvalFailures L s!"$.approvals[{p.2}]")) ++
      failUnless "$.approvals: must include at least one approval" (!requirePass || !items.isEmpty) ++
      Approval.roleFailures requirePass (Approval.roles (field "approvals" evidence))
  | _ => ["$.approvals: must be a list"]

/-- `validate_release_decision`. A status that no set can hold raises. -/
def validateReleaseDecision : Except String (List String) :=
  match field "release_decision" evidence with
  | .dict decision => do
    let status ← checkStatus "$.release_decision.status" (field "status" decision) decisionStatusValues
    .ok (status ++ (["decided_by", "decided_at", "rationale"].flatMap fun name =>
        if requirePass || name = "rationale" || !(field name decision).pyEq .null then
          checkString s!"$.release_decision.{name}" (field name decision)
        else []) ++
      (parseTimestamp L.fromisoformat "$.release_decision.decided_at" (field "decided_at" decision) requirePass).1 ++
      failUnless "$.release_decision.status: must be approved for release-ready evidence"
        (!requirePass || (field "status" decision).isIn [.str "approved", .str "approved_with_residual_risk"]))
  | _ => .ok ["$.release_decision: must be an object"]

/-- The failures of a risk that goes with an approval. -/
def acceptedRiskFailures (now : Int) (risk : Fields) (items : List Value) : List String :=
  failUnless "$.residual_risk.status: must be accepted when release decision carries residual risk"
      ((field "status" risk).pyEq (.str "accepted")) ++
    failUnless "$.residual_risk.items: must list accepted residual risks" (!items.isEmpty) ++
    checkStrings "$.residual_risk" ["accepted_by", "accepted_at", "expires_at"] risk ++
    (parseTimestamp L.fromisoformat "$.residual_risk.accepted_at" (field "accepted_at" risk) true).1 ++
    (parseTimestamp L.fromisoformat "$.residual_risk.expires_at" (field "expires_at" risk) true).1 ++
    (parseTimestamp L.fromisoformat "$.residual_risk.expires_at" (field "expires_at" risk) true).2.toList.flatMap fun time =>
      failUnless "$.residual_risk.expires_at: must be in the future" (now < time.seconds)

/-- `validate_residual_risk`. -/
def validateResidualRisk (now : Int) : Except String (List String) :=
  match field "residual_risk" evidence with
  | .dict risk => do
    let items := (field "items" risk).asList.getD []
    let decision := field "status" (objectAt "release_decision" evidence)
    let status ← checkStatus "$.residual_risk.status" (field "status" risk) riskStatusValues
    .ok (status ++ failUnless "$.residual_risk.items: must be a list" (field "items" risk).asList.isSome ++
      Approval.riskItemsFailures items ++
      failUnless "$.residual_risk.status: must not be blocked for release-ready evidence"
        (!requirePass || !(field "status" risk).pyEq (.str "blocked")) ++
      (if requirePass && decision.pyEq (.str "approved") then
        failUnless "$.residual_risk.status: must be none when release decision is approved without residual risk"
            ((field "status" risk).pyEq (.str "none")) ++
          failUnless "$.residual_risk.items: must be empty when release decision is approved without residual risk" items.isEmpty
      else []) ++
      if requirePass && decision.pyEq (.str "approved_with_residual_risk") then acceptedRiskFailures L now risk items else [])
  | _ => .ok ["$.residual_risk: must be an object"]

/-! ## What accepted sections say -/

variable {L B evidence}

/-- A time without failures is one. -/
theorem time_of_parseTimestamp {path : String} {v : Value} (h : (parseTimestamp L.fromisoformat path v true).1 = []) :
    ∃ time, (parseTimestamp L.fromisoformat path v true).2 = some time ∧ Approval.IsTime L v time := by
  unfold parseTimestamp at h ⊢
  simp only [Bool.not_true, Bool.and_false, Bool.false_eq_true, if_false] at h ⊢
  split at h
  · cases h
  · next s hs =>
    obtain ⟨hstr, _⟩ := Option.filter_eq_some_iff.1 hs
    split_ifs at h ⊢ with hz
    split at h
    · cases h
    · next time htime => exact ⟨time, rfl, s, _, asStr_eq_some.1 hstr, .inr rfl, htime⟩

/-- The approvals, the decision and the risk of an evidence that is accepted for a release approve it, by the rules for an approval. -/
theorem approves_of_sections {now : Int} (happrovals : validateApprovals L true evidence = [])
    (hdecision : validateReleaseDecision L true evidence = .ok []) (hrisk : validateResidualRisk L true evidence now = .ok []) :
    Approval.Approves L now (field "approvals" evidence) (field "release_decision" evidence) (field "residual_risk" evidence) := by
  unfold validateApprovals at happrovals
  split at happrovals
  · next items happ =>
    simp only [List.append_eq_nil_iff] at happrovals
    obtain ⟨howner, hsecond⟩ := Approval.roles_of_roleFailures happrovals.2
    unfold validateReleaseDecision at hdecision
    split at hdecision
    · next decision hdec =>
      obtain ⟨status, _, hdecision⟩ := bind_ok_iff.1 hdecision
      simp only [Except.ok.injEq, List.append_eq_nil_iff, failUnless_eq_nil, Bool.not_true, Bool.false_or] at hdecision
      have happroved := Approval.status_of_isIn hdecision.2
      unfold validateResidualRisk at hrisk
      split at hrisk
      · next risk hrsk =>
        obtain ⟨_, _, hrisk⟩ := bind_ok_iff.1 hrisk
        have hstatus : field "status" (objectAt "release_decision" evidence) = field "status" decision := by rw [objectAt, hdec]; rfl
        simp only [Except.ok.injEq, List.append_eq_nil_iff, failUnless_eq_nil, Bool.true_and, hstatus] at hrisk
        obtain ⟨⟨⟨⟨⟨_, hlist⟩, _⟩, _⟩, hnone⟩, haccepted⟩ := hrisk
        have hitems := eq_list_of_isSome hlist
        refine ⟨howner, hsecond, ⟨decision, hdec, happroved⟩, ?_, ?_⟩
        · intro fields hfields happ
          obtain rfl : decision = fields := by rw [hdec] at hfields; exact Value.dict.inj hfields
          rw [happ, pyEq_str, beq_self_eq_true, if_pos rfl] at hnone
          simp only [List.append_eq_nil_iff, failUnless_eq_nil, pyEq_str_iff, List.isEmpty_iff] at hnone
          exact ⟨risk, hrsk, hnone.1, by rw [hitems, hnone.2]⟩
        · intro fields hfields happ
          obtain rfl : decision = fields := by rw [hdec] at hfields; exact Value.dict.inj hfields
          rw [happ, pyEq_str, beq_self_eq_true, if_pos rfl] at haccepted
          simp only [acceptedRiskFailures, List.append_eq_nil_iff, failUnless_eq_nil, pyEq_str_iff] at haccepted
          obtain ⟨⟨⟨⟨⟨hstatus, hne⟩, _⟩, _⟩, hexpires⟩, hfuture⟩ := haccepted
          obtain ⟨time, htime, hat⟩ := time_of_parseTimestamp hexpires
          rw [htime, Option.toList_some, List.flatMap_cons, List.flatMap_nil, List.append_nil, failUnless_eq_nil,
            decide_eq_true_eq] at hfuture
          exact ⟨risk, _, time, hrsk, hstatus, hitems, by simpa using hne, hat, hfuture⟩
      · simp at hrisk
    · simp at hdecision
  · simp at happrovals

end

end SuderraOs.Evidence.ReleaseEvidence
