import SuderraOs.Evidence.Bundle

/-!
# Release approvals

`validate_approval_payload` of `release_approval.py`, and what an accepted approval says (`approves_of_validateApprovalPayload`): who
approved, what was decided and which residual risks go with the decision.
-/

namespace SuderraOs.Evidence.Approval

open Value OperatorIngress ReleaseEvidence

def schemaVersion : String := "suderra.release-approval.v2"

/-- `_timestamp`: the failures, and the time. -/
def timestamp (fromisoformat : String → Option DateTime) (path : String) (v : Value) : List String × Option DateTime :=
  match v.asStr.filter fun s => s.toList.getLast? = some 'Z' with
  | none => ([s!"{path}: must be an ISO-8601 UTC timestamp ending in Z"], none)
  | some s =>
    match fromisoformat (String.ofList s.toList.dropLast ++ "+00:00") with
    | none => ([s!"{path}: must be an ISO-8601 UTC timestamp"], none)
    | some time => ([], some time)

/-- The roles of a list of approvals. -/
def roles (approvals : Value) : List String :=
  ((approvals.asList.getD []).filterMap asDict).filterMap fun approval => (field "role" approval).asStr

/-- The failures of a set of roles, of which a release needs two. -/
def roleFailures (requirePass : Bool) (roles : List String) : List String :=
  failUnless "$.approvals: must include release-owner approval" (!requirePass || roles.contains "release-owner") ++
    failUnless "$.approvals: must include maintainer or security-compliance approval"
      (!requirePass || roles.contains "maintainer" || roles.contains "security-compliance") ++
    failUnless "$.approvals: must include at least two distinct approval roles" (!requirePass || 2 ≤ roles.dedup.length)

/-- A residual risk that an approval without one has. -/
def noRisk : Value := .dict [("status", .str "none"), ("items", .list [])]

section

variable (L : Libraries) (now : Int)

/-- The failures of the approvals from a place on, after the roles before it. -/
def approvalsFailuresFrom (seen : List String) (idx : Nat) : List Value → List String
  | [] => []
  | .dict approval :: items =>
    let path := s!"$.approvals[{idx}]"
    let role := (field "role" approval).asStr
    checkStrings path ["role", "name", "approved_at"] approval ++
      failUnless s!"{path}.role: must be unique within approvals" (!role.any seen.contains) ++
      (timestamp L.fromisoformat s!"{path}.approved_at" (field "approved_at" approval)).1 ++
      ((lookup "ticket" approval).toList.flatMap (checkString s!"{path}.ticket")) ++
      approvalsFailuresFrom (role.toList ++ seen) (idx + 1) items
  | _ :: items => s!"$.approvals[{idx}]: must be an object" :: approvalsFailuresFrom seen (idx + 1) items

/-- The failures of the approvals. -/
def approvalsFailures (requirePass : Bool) (approvals : Value) : List String :=
  failUnless "$.approvals: must be a list" approvals.asList.isSome ++
    failUnless "$.approvals: must include at least one approval" (!requirePass || (approvals.asList.getD []) ≠ []) ++
    approvalsFailuresFrom L [] 0 (approvals.asList.getD []) ++ roleFailures requirePass (roles approvals)

/-- The failures of the decision. A status that cannot be hashed raises. -/
def decisionFailures (requirePass : Bool) (decision : Value) : Except String (List String) := do
  let fields := decision.asDict.getD []
  guardError "TypeError" (field "status" fields).isHashable
  .ok (failUnless "$.release_decision: must be an object" decision.asDict.isSome ++
    failUnless "$.release_decision.status: must be approved, approved_with_residual_risk, or blocked"
      ((field "status" fields).asStr.any decisionStatusValues.contains) ++
    checkStrings "$.release_decision" ["decided_by", "decided_at", "rationale"] fields ++
    (timestamp L.fromisoformat "$.release_decision.decided_at" (field "decided_at" fields)).1 ++
    failUnless "$.release_decision.status: must approve the release input"
      (!requirePass || (field "status" fields).isIn [.str "approved", .str "approved_with_residual_risk"]))

/-- The failures of the items of the residual risk. -/
def riskItemsFailures (items : List Value) : List String :=
  items.zipIdx.flatMap fun p =>
    objectFailures p.1 s!"$.residual_risk.items[{p.2}]: must be an object"
      (checkStrings s!"$.residual_risk.items[{p.2}]" ["id", "severity", "description", "mitigation", "owner", "ticket"])

/-- The failures of a residual risk that goes with an approval. -/
def acceptedRiskFailures (risk : Fields) (items : List Value) : List String :=
  failUnless "$.residual_risk.status: must be accepted for residual-risk approval" ((field "status" risk).pyEq (.str "accepted")) ++
    failUnless "$.residual_risk.items: must list accepted residual risks" (items ≠ []) ++
    checkStrings "$.residual_risk" ["accepted_by", "accepted_at", "expires_at"] risk ++
    (timestamp L.fromisoformat "$.residual_risk.accepted_at" (field "accepted_at" risk)).1 ++
    (timestamp L.fromisoformat "$.residual_risk.expires_at" (field "expires_at" risk)).1 ++
    (timestamp L.fromisoformat "$.residual_risk.expires_at" (field "expires_at" risk)).2.toList.flatMap fun time =>
      failUnless "$.residual_risk.expires_at: must be in the future" (now < time.seconds)

/-- The failures of the residual risk beside a decision of this status. -/
def riskFailures (requirePass : Bool) (status risk : Value) : Except String (List String) := do
  let fields := risk.asDict.getD []
  let items := (field "items" fields).asList.getD []
  guardError "TypeError" (field "status" fields).isHashable
  .ok (failUnless "$.residual_risk: must be an object" risk.asDict.isSome ++
    failUnless "$.residual_risk.status: must be none, accepted, or blocked" ((field "status" fields).asStr.any riskStatusValues.contains) ++
    failUnless "$.residual_risk.items: must be a list" (field "items" fields).asList.isSome ++
    riskItemsFailures items ++
    (if requirePass && status.pyEq (.str "approved") then
      failUnless "$.residual_risk.status: must be none for approved releases" ((field "status" fields).pyEq (.str "none")) ++
        failUnless "$.residual_risk.items: must be empty for approved releases" (items = [])
    else []) ++
    (if requirePass && status.pyEq (.str "approved_with_residual_risk") then acceptedRiskFailures L now fields items else []) ++
    failUnless "$.residual_risk.status: must not be blocked" (!requirePass || !(field "status" fields).pyEq (.str "blocked")))

/-- The failures of what the approval is for. -/
def bindingFailures (payload : Fields) (version target : String) (expectedSourceSha : Option String) : List String :=
  failUnless s!"$.schema_version: must be {schemaVersion}" ((field "schema_version" payload).pyEq (.str schemaVersion)) ++
    failUnless s!"$.version: must match {version}" ((field "version" payload).pyEq (.str version)) ++
    failUnless s!"$.target: must match {target}" ((field "target" payload).pyEq (.str target)) ++
    match field "source_sha" payload with
    | .null =>
      failUnless "$.source_sha: must be present when source binding is enforced" expectedSourceSha.isNone
    | sourceSha =>
      if sourceSha.asStr.any (isHex 40) then
        expectText s!"$.source_sha: must match bound source sha {orEmpty expectedSourceSha}" sourceSha expectedSourceSha
      else ["$.source_sha: must be a lowercase git commit sha"]

/-- The risk of an approval. -/
def riskOf (payload : Fields) : Value := (lookup "residual_risk" payload).getD noRisk

/-- `validate_approval_payload`. -/
def validateApprovalPayload (payload : Value) (version target : String) (expectedSourceSha : Option String) (requirePass : Bool) :
    Except String (List String) :=
  match payload with
  | .dict payload => do
    let decision ← decisionFailures L requirePass (field "release_decision" payload)
    let risk ← riskFailures L now requirePass (field "status" ((field "release_decision" payload).asDict.getD [])) (riskOf payload)
    .ok (bindingFailures payload version target expectedSourceSha ++ approvalsFailures L requirePass (field "approvals" payload) ++
      decision ++ risk)
  | _ => .ok ["approval input must be a JSON object"]

/-! ## What an accepted approval says -/

/-- A time that a text names, with or without space around it. -/
def IsTime (v : Value) (time : DateTime) : Prop :=
  ∃ s cs, v = .str s ∧ (cs = s.toList ∨ cs = PyText.strip s.toList) ∧
    L.fromisoformat (String.ofList cs.dropLast ++ "+00:00") = some time

/-- Approvals, a decision and a residual risk that let a release pass. -/
structure Approves (approvals decision risk : Value) : Prop where
  owner : "release-owner" ∈ roles approvals
  second : "maintainer" ∈ roles approvals ∨ "security-compliance" ∈ roles approvals
  decided : ∃ fields, decision = .dict fields ∧
    (field "status" fields = .str "approved" ∨ field "status" fields = .str "approved_with_residual_risk")
  no_risk : ∀ fields, decision = .dict fields → field "status" fields = .str "approved" →
    ∃ riskFields, risk = .dict riskFields ∧ field "status" riskFields = .str "none" ∧ field "items" riskFields = .list []
  accepted : ∀ fields, decision = .dict fields → field "status" fields = .str "approved_with_residual_risk" →
    ∃ riskFields items time, risk = .dict riskFields ∧ field "status" riskFields = .str "accepted" ∧
      field "items" riskFields = .list items ∧ items ≠ [] ∧ IsTime L (field "expires_at" riskFields) time ∧ now < time.seconds

variable {L now}

theorem timestamp_eq_nil {path : String} {v : Value} (h : (timestamp L.fromisoformat path v).1 = []) :
    ∃ time, (timestamp L.fromisoformat path v).2 = some time ∧ IsTime L v time := by
  unfold timestamp at h ⊢
  split at h
  · cases h
  · next s hs =>
    obtain ⟨hstr, _⟩ := Option.filter_eq_some_iff.1 hs
    split at h
    · cases h
    · next time htime => exact ⟨time, rfl, s, s.toList, asStr_eq_some.1 hstr, .inl rfl, htime⟩

theorem roles_of_roleFailures {roles : List String} (h : roleFailures true roles = []) :
    "release-owner" ∈ roles ∧ ("maintainer" ∈ roles ∨ "security-compliance" ∈ roles) := by
  simp only [roleFailures, List.append_eq_nil_iff, failUnless_eq_nil, Bool.not_true, Bool.false_or, Bool.or_eq_true,
    List.contains_eq_mem, decide_eq_true_eq] at h
  exact ⟨h.1.1, h.1.2⟩

/-- The status of a decision that lets a release pass. -/
theorem status_of_isIn {v : Value} (h : v.isIn [.str "approved", .str "approved_with_residual_risk"] = true) :
    v = .str "approved" ∨ v = .str "approved_with_residual_risk" := by
  simpa [isIn, str_pyEq_iff] using h

/-- What an approval is for, if it binds a version, a target and a source. -/
theorem bound_of_bindingFailures {payload : Fields} {version target : String} {expectedSourceSha : Option String}
    (h : bindingFailures payload version target expectedSourceSha = []) :
    field "version" payload = .str version ∧ field "target" payload = .str target ∧
      ∀ sha, expectedSourceSha = some sha → field "source_sha" payload = .str sha := by
  simp only [bindingFailures, List.append_eq_nil_iff, failUnless_eq_nil, pyEq_str_iff] at h
  obtain ⟨⟨⟨_, hversion⟩, htarget⟩, hsha⟩ := h
  refine ⟨hversion, htarget, ?_⟩
  rintro sha rfl
  split at hsha
  · simp at hsha
  · split_ifs at hsha
    simpa [expectText, pyEq_str_iff] using hsha

/-- An approval that is accepted for a release approves it. -/
theorem approves_of_validateApprovalPayload {payload : Fields} {version target : String} {expectedSourceSha : Option String}
    (h : validateApprovalPayload L now (.dict payload) version target expectedSourceSha true = .ok []) :
    field "version" payload = .str version ∧ field "target" payload = .str target ∧
      (∀ sha, expectedSourceSha = some sha → field "source_sha" payload = .str sha) ∧
      Approves L now (field "approvals" payload) (field "release_decision" payload) (riskOf payload) := by
  obtain ⟨decision, hdecision, h⟩ := bind_ok_iff.1 h
  obtain ⟨risk, hrisk, h⟩ := bind_ok_iff.1 h
  simp only [Except.ok.injEq, List.append_eq_nil_iff] at h
  obtain ⟨⟨⟨hbinding, happrovals⟩, rfl⟩, rfl⟩ := h
  obtain ⟨_, hdecision⟩ := guardError_bind_ok_iff.1 hdecision
  obtain ⟨_, hrisk⟩ := guardError_bind_ok_iff.1 hrisk
  simp only [Except.ok.injEq, List.append_eq_nil_iff, failUnless_eq_nil, Bool.not_true, Bool.false_or, Bool.true_and] at hdecision hrisk
  obtain ⟨⟨⟨⟨hobject, _⟩, _⟩, _⟩, hstatus⟩ := hdecision
  obtain ⟨⟨⟨⟨⟨⟨hriskObject, _⟩, hitems⟩, _⟩, hnone⟩, haccepted⟩, _⟩ := hrisk
  obtain ⟨hversion, htarget, hsha⟩ := bound_of_bindingFailures hbinding
  obtain ⟨howner, hsecond⟩ := roles_of_roleFailures (List.append_eq_nil_iff.1 happrovals).2
  have hfields : ∀ {fields}, field "release_decision" payload = .dict fields → (field "release_decision" payload).asDict.getD [] = fields :=
    fun hfields => by rw [hfields]; rfl
  refine ⟨hversion, htarget, hsha, howner, hsecond, ⟨_, eq_dict_of_isSome hobject, status_of_isIn hstatus⟩, ?_, ?_⟩
  · intro fields hdecided happroved
    rw [hfields hdecided, happroved, pyEq_str, beq_self_eq_true, if_pos rfl, List.append_eq_nil_iff, failUnless_eq_nil, failUnless_eq_nil,
      pyEq_str_iff, decide_eq_true_eq] at hnone
    refine ⟨_, eq_dict_of_isSome hriskObject, hnone.1, ?_⟩
    rw [eq_list_of_isSome hitems, hnone.2]
  · intro fields hdecided happroved
    rw [hfields hdecided, happroved, pyEq_str, beq_self_eq_true, if_pos rfl] at haccepted
    simp only [acceptedRiskFailures, List.append_eq_nil_iff, failUnless_eq_nil, pyEq_str_iff, decide_eq_true_eq] at haccepted
    obtain ⟨⟨⟨⟨⟨hstatus, hne⟩, _⟩, _⟩, hexpires⟩, hfuture⟩ := haccepted
    obtain ⟨time, htime, hat⟩ := timestamp_eq_nil hexpires
    rw [htime, Option.toList_some, List.flatMap_cons, List.flatMap_nil, List.append_nil, failUnless_eq_nil, decide_eq_true_eq] at hfuture
    exact ⟨_, _, time, eq_dict_of_isSome hriskObject, hstatus, eq_list_of_isSome hitems, hne, hat, hfuture⟩

end

end SuderraOs.Evidence.Approval
