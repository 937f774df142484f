import SuderraOs.Evidence.Contract

/-!
# The matrix and the contract

`validate_matrix_join` of `evidence_contract.py`: the rows of `ci/build-matrix.yml` and the targets of `ci/evidence-contract.yml` belong
together. A target of the contract has one row, and what the row says of a release and of production is what the contract says.
-/

namespace SuderraOs.Evidence

open Value

/-- What a signed role is required for, and the fields of its digests. -/
structure RoleBinding where
  requiredForOtaCapable : Bool
  requiredForReleasePublic : Bool
  inputDigestField : String
  finalDigestField : String

/-- The parts of a contract that the matrix is joined with. -/
structure JoinContract extends Contract where
  /-- The targets of `hardware.required_boards_by_target`. -/
  hardwareBoards : List String
  /-- `hardware.subject_binding.required_fields`. -/
  hardwareRequiredFields : List String
  roleBindings : List (String × RoleBinding)
  /-- The targets of `ota.targets`, with `ota_capable`. -/
  otaTargets : List (String × Bool)

/-- The rows that name their target by a text, under that name. -/
def joinRows (defconfigs : List Value) : List (String × Fields) :=
  (defconfigs.filterMap asDict).filterMap fun row => (field "target" row).asStr.map (·, row)

/-- `rows.get(target)`: of rows of one target, the last one. -/
def rowOf (defconfigs : List Value) (target : String) : Option Fields :=
  ((joinRows defconfigs).reverse.find? fun p => p.1 = target).map (·.2)

/-- The targets whose row has a field that is `True`. -/
def targetsWhere (defconfigs : List Value) (name : String) : List String :=
  ((joinRows defconfigs).map (·.1)).filter fun target => (rowOf defconfigs target).any fun row => (field name row).isTrue

/-- `UNSIGNED_SIGNING_MODES`. -/
def unsignedSigningModes : List String := ["unsigned-lab", "unsupported"]

section

variable (Γ : Python) (quoted : Value → String) (J : JoinContract) (defconfigs : List Value)

/-- `runtime_suite_targets_for`. -/
def runtimeSuiteTargetsFor (target : String) : List String := (J.suiteTargets.lookup target).getD []

def runtimeErrors (target : String) : List String :=
  let suites := runtimeSuiteTargetsFor J target
  failUnless s!"{target}: runtime_required requires a runtime suite target mapping" (!suites.isEmpty) ++
    suites.flatMap fun suite =>
      failUnless s!"{target}: runtime suite target {suite} is missing from ci/build-matrix.yml" (rowOf defconfigs suite).isSome ++
        failUnless s!"{target}: runtime suite target {suite} is missing from ci/evidence-contract.yml" (J.targets.lookup suite).isSome

def hardwareErrors (target : String) : List String :=
  failUnless s!"{target}: hardware_required requires hardware.required_boards_by_target entry" (J.hardwareBoards.contains target) ++
    failUnless s!"{target}: hardware_required requires hardware.subject_binding policy" (!J.hardwareRequiredFields.isEmpty)

/-- The roles that must sign a target. -/
def requiredRoles (policy : TargetPolicy) : List String :=
  (if policy.otaCapable then (J.roleBindings.filter (·.2.requiredForOtaCapable)).map (·.1) else []) ++
    if policy.releasePublic then (J.roleBindings.filter (·.2.requiredForReleasePublic)).map (·.1) else []

def signingErrors (row : Fields) (target : String) (policy : TargetPolicy) : List String :=
  let roles := requiredRoles J policy
  let signing := field "signing" row
  failUnless s!"{target}: signing_required cannot use matrix signing={quoted signing}"
      (!unsignedSigningModes.contains (signing.pyStr Γ.repr)) ++
    failUnless s!"{target}: signing_required requires signing manifest role binding" (!roles.isEmpty) ++
    (sortNames roles.dedup).flatMap fun role =>
      failUnless s!"{target}: signing role {role} requires input/final digest fields"
        ((J.roleBindings.lookup role).any fun binding => binding.finalDigestField ≠ "" && binding.inputDigestField ≠ "")

/-- The errors of a target of the contract. -/
def targetErrors (p : String × TargetPolicy) : List String :=
  let target := p.1
  let policy := p.2
  match rowOf defconfigs target with
  | none => [s!"ci/evidence-contract.yml target {target} is missing from ci/build-matrix.yml"]
  | some row =>
    failUnless s!"{target}: matrix release must match evidence-contract release_public" ((field "release" row).truthy == policy.releasePublic) ++
      failUnless s!"{target}: production_required targets must keep production_ready=false until retained production evidence closes"
        (!(field "production_required" row).isTrue || isFalse (field "production_ready" row)) ++
      failUnless s!"{target}: production_gate requires matrix production_required=true"
        (!policy.productionGate || (field "production_required" row).isTrue) ++
      (if policy.runtimeRequired then runtimeErrors J defconfigs target else []) ++
      (if policy.hardwareRequired then hardwareErrors J target else []) ++
      (if policy.signingRequired then signingErrors Γ quoted J row target policy else []) ++
      failUnless s!"{target}: ota target policy must match evidence target ota_capable"
        ((J.otaTargets.lookup target).getD false == policy.otaCapable)

/-- The targets that a rule of the matrix asks the contract for. -/
def missingErrors (message field : String) : List String :=
  let missing := sortedDiff (targetsWhere defconfigs field) (J.targets.map (·.1))
  failUnless (message ++ ", ".intercalate missing) missing.isEmpty

/-- `validate_matrix_join`. -/
def validateMatrixJoin : List String :=
  missingErrors J defconfigs "ci/evidence-contract.yml must define every production_required target: " "production_required" ++
    missingErrors J defconfigs "ci/evidence-contract.yml must define every release=true target: " "release" ++
    J.targets.flatMap (targetErrors Γ quoted J defconfigs) ++
    J.otaTargets.flatMap fun p =>
      failUnless s!"ota target {p.1} is missing from evidence-contract targets" (J.targets.lookup p.1).isSome

end

end SuderraOs.Evidence
