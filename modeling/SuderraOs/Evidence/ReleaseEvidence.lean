import SuderraOs.Evidence.DeviceSections

/-!
# Release-ready evidence

`validate_evidence` of `release-evidence.py`. Every section is checked on its own, so an accepted evidence has no failure in any of them
(`section_eq_nil`); what its sections say together is only what they say one by one.
-/

namespace SuderraOs.Evidence.ReleaseEvidence

open Value OperatorIngress

section Evidence

variable (L : Tools) (P : DevicePolicies) (V : Validators) (B : Bundle) (I : Invocation) (now : Int)

/-- The matrix of an invocation, if there is one that can be read. -/
def Invocation.readMatrix : Option Matrix := I.matrix.bind id

/-- The names of the scans of the matrix, where they are asked for. -/
def expectedScans : Option (List String) :=
  (I.readMatrix.filter fun _ => I.requirePass).map fun M => M.securityScans.map (pyStr L.repr)

/-- The sections of an evidence, in their order. -/
def sections (evidence : Fields) : List (Except String (List String)) :=
  let M := I.readMatrix
  let production := effectiveTier I evidence = "production"
  let gates := expectedGateRequirements L.toPython P.contract evidence M
  [.ok (headFailures L.toLibraries P.contract B I evidence),
    validateTargetContract L.toPython evidence M,
    .ok (policyFailures L.toPython P.contract evidence M),
    .ok (validateSource I.requirePass evidence),
    validateAssetManifest L.toLibraries B I.requirePass evidence,
    .ok (validateArtifacts L.toLibraries B I.requirePass evidence),
    validateSbom L.toLibraries B I.requirePass evidence,
    validateVex L.toLibraries B I.requirePass evidence production,
    validateReproducibility L.toLibraries B I.requirePass evidence,
    validateStatusList L.toLibraries B I.requirePass "$.security_scans" (field "security_scans" evidence) false (expectedScans L I),
    validateMachineVerification L B I.requirePass evidence,
    validateBuildEvidence L.toIdentity B I.requirePass evidence,
    .ok (validatePreflightInputs L B I.requirePass now evidence),
    validateSubjectGraphSection L P.toPolicies B I.requirePass evidence I.subjectGraphClosure,
    validateGovernance L.toLibraries B I.requirePass evidence,
    .ok (validateGovernanceRoleBindingsSection L P.toPolicies B I.requirePass evidence),
    validateQemu L B I.requirePass evidence gates.qemu,
    validateRuntimeQemu L P V B I.requirePass evidence production gates.runtime,
    .ok (validateRuntimeObservations L.toLibraries P.toSite I.requirePass evidence production gates.runtime),
    .ok (validateSigningManifestsSection L V B I.requirePass evidence production gates.signing),
    validateHardware L P B I.requirePass now evidence gates.hardware,
    .ok (validateHardwareSubjectsSection L V B I.requirePass evidence gates.hardware),
    validateStationAcquisitions L P B I.requirePass evidence production gates.hardware,
    validateHsmSigningSessions L P V B I.requirePass evidence production gates.signing,
    validateReleaseImageScanReports L.toLibraries P.toSite B I.requirePass evidence production gates.imageScan,
    validateScannerNativeReports L.toLibraries P.toSite B I.requirePass evidence production gates.imageScan,
    .ok (validateRetentionManifestSection L P.toPolicies B I.requirePass now evidence),
    validateRuntimeChecks L.toLibraries P.toSite B I.requirePass evidence production gates.runtime,
    .ok (validateApprovals L.toLibraries I.requirePass evidence),
    validateReleaseDecision L.toLibraries I.requirePass evidence,
    validateResidualRisk L.toLibraries I.requirePass evidence now]

/-- `validate_evidence`. -/
def validateEvidence : Except String (List String) :=
  if (B.files B.evidencePath).isNone then .ok [s!"{B.evidencePath}: cannot read evidence"]
  else do
    let evidence ← readJson L.toPython B.files B.evidencePath
    match evidence with
    | none => .ok [s!"{B.evidencePath}: invalid JSON"]
    | some (.dict evidence) => do
      let found ← (sections L P V B I now evidence).mapM id
      .ok found.flatten
    | some _ => .ok [s!"{B.evidencePath}: top-level JSON value must be an object"]

/-- An evidence that is accepted for a release, with its files. -/
structure Ready (evidence : Fields) : Prop where
  pass : I.requirePass = true
  files : B.checkFiles = true
  read : readJson L.toPython B.files B.evidencePath = .ok (some (.dict evidence))
  accepted : validateEvidence L P V B I now = .ok []

variable {L P V B I now} {evidence : Fields}

/-- No section of an accepted evidence has a failure. -/
theorem Ready.section_eq_nil (h : Ready L P V B I now evidence) : ∀ found ∈ sections L P V B I now evidence, found = .ok [] := by
  have haccepted := h.accepted
  unfold validateEvidence at haccepted
  split_ifs at haccepted
  · simp at haccepted
  rw [h.read, ok_bind] at haccepted
  obtain ⟨found, hfound, hnil⟩ := bind_ok_iff.1 haccepted
  exact fun x hx => mapM_flatten_eq_nil hfound (Except.ok.inj hnil) x hx

end Evidence

end SuderraOs.Evidence.ReleaseEvidence
