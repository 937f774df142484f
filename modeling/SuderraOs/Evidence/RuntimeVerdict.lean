import SuderraOs.Evidence.Contract
import SuderraOs.Lib.JsonAscii
import SuderraOs.Lib.Sha256

/-!
# The verdict of the runtime suites

The loop of `apply_release_inputs` of `release-evidence.py` over the production runtime suites of a target. It only raises statuses: one
suite whose scenarios all passed is enough, and a suite without scenarios is such a suite (`conjunctive_iff`).
-/

namespace SuderraOs.Evidence.RuntimeVerdict

open Value

/-- What the contract says of the runtime: `suite_targets`, `required_checks` and `scenario_to_checks`. -/
structure RuntimePolicy where
  suiteTargets : List (String × List String)
  requiredChecks : List String
  scenarioToChecks : List (String × List String)

structure RuntimeCheck where
  required : Bool
  status : String
  evidence : Option String

structure SuiteRecord where
  target : String
  path : String
  sha256 : String
  bytes : Nat

structure Observation where
  suiteTarget : String
  scenario : Value
  observedOutcome : Value
  source : Value
  schemaVersion : Value
  suitePath : String
  suiteSha256 : String

/-- The parts of an `evidence.json` that the suites change, and the files that were copied beside it, the last one first. -/
structure RuntimeEvidence where
  required : Bool
  status : String
  productionSuites : List SuiteRecord
  observations : List Observation
  checks : List (String × RuntimeCheck)
  bundle : List (PosixPath × Bytes)

section

variable (Γ : Python) (files : Files) (policy : RuntimePolicy)

/-- `runtime_suite_targets_for`. -/
def runtimeSuiteTargetsFor (target : String) : List String := (policy.suiteTargets.lookup target).getD []

/-- `SCENARIO_TO_RUNTIME_CHECKS.get(name, ())`. -/
def checksOf (name : String) : List String := (policy.scenarioToChecks.lookup name).getD []

/-- The evidence before the inputs of a release are applied to it. -/
def template (required : Bool) : RuntimeEvidence where
  required := required
  status := if required then "not_run" else "not_applicable"
  productionSuites := []
  observations := []
  checks := policy.requiredChecks.map fun name => (name, ⟨required, if required then "not_run" else "not_applicable", none⟩)
  bundle := []

/-- `copy_into_bundle`. -/
def RuntimeEvidence.copy (E : RuntimeEvidence) (source : Bytes) (rel : PosixPath) : RuntimeEvidence :=
  { E with bundle := (rel, source) :: E.bundle }

/-- `sha256_file` of a file that was copied. -/
def RuntimeEvidence.digest (E : RuntimeEvidence) (rel : PosixPath) : String := Γ.hexdigest ((E.bundle.lookup rel).getD [])

/-- A check passed, by the suite at a path. -/
def RuntimeEvidence.pass (E : RuntimeEvidence) (suite : PosixPath) (name : String) : RuntimeEvidence :=
  { E with checks := E.checks.map fun p => if p.1 = name then (p.1, { p.2 with status := "passed", evidence := some (toString suite) }) else p }

def suitePath (inputRoot : PosixPath) (version target : String) : PosixPath :=
  (((inputRoot.child "release-runtime").join (PosixPath.ofString version)).join (PosixPath.ofString target)).child "production-runtime.json"

/-- The place of a file of a suite in the bundle. -/
def runtimeDest (target : String) (rel : PosixPath) : PosixPath :=
  ((⟨"", ["preflight", "runtime"]⟩ : PosixPath).join (PosixPath.ofString target)).join rel

/-- The path of a log, if it stays below the suite. -/
def logPath (log : Value) : Option PosixPath :=
  ((log.asDict.bind fun log => (field "path" log).asStr).map PosixPath.ofString).filter fun rel => !rel.isAbsolute && !rel.hasParent

/-- The logs of the scenarios that are there. -/
def logFiles (dir : PosixPath) (scenarios : List Value) : List (PosixPath × Bytes) :=
  (scenarios.filterMap asDict).flatMap fun scenario =>
    ((field "logs" scenario).asList.getD []).filterMap fun log => (logPath log).bind fun rel => (files (dir.join rel)).map (rel, ·)

/-- A scenario that passed. -/
def isPassed (item : Value) : Bool := item.asDict.any fun scenario => (field "status" scenario).pyEq (.str "passed")

def observationOf (E : RuntimeEvidence) (target : String) (suite : PosixPath) (scenario : Fields) : List Observation :=
  match field "observation" scenario with
  | .dict observation =>
    [⟨target, field "name" scenario, field "observed_outcome" scenario, field "source" observation, field "schema_version" observation,
      toString suite, E.digest Γ suite⟩]
  | _ => []

/-- A scenario of a suite that passed. -/
def applyScenario (target : String) (suite : PosixPath) (E : RuntimeEvidence) (scenario : Fields) : RuntimeEvidence :=
  (checksOf policy ((field "name" scenario).pyStr Γ.repr)).foldl (fun E name => E.pass suite name)
    { E with observations := E.observations ++ observationOf Γ E target suite scenario }

/-- The document of a suite: its logs are copied, and if all scenarios passed, so did the suite. -/
def applyPayload (dir : PosixPath) (target : String) (suite : PosixPath) (E : RuntimeEvidence) (payload : Fields) : RuntimeEvidence :=
  let scenarios := (field "scenarios" payload).asList
  let E := (logFiles files dir (scenarios.getD [])).foldl (fun E log => E.copy log.2 (runtimeDest target log.1)) E
  match scenarios with
  | some items =>
    if items.all isPassed then (items.filterMap asDict).foldl (applyScenario Γ policy target suite) { E with status := "passed" } else E
  | none => E

/-- A round of the loop: a suite that is missing or empty is passed over. -/
def applySuite (inputRoot : PosixPath) (version : String) (E : RuntimeEvidence) (target : String) : Except String RuntimeEvidence :=
  let path := suitePath inputRoot version target
  match (files path).filter (!·.isEmpty) with
  | none => .ok E
  | some bytes => do
    let suite := runtimeDest target ⟨"", ["production-runtime.json"]⟩
    let E := { E.copy bytes suite with
      productionSuites := E.productionSuites ++ [⟨target, toString suite, (E.copy bytes suite).digest Γ suite, bytes.length⟩] }
    let payload ← readJson Γ files path
    .ok (match payload with
      | some (.dict payload) => applyPayload Γ files policy ⟨path.root, path.names.dropLast⟩ target suite E payload
      | _ => E)

/-- The loop over these suites. -/
def applySuites (inputRoot : PosixPath) (version : String) (targets : List String) (E : RuntimeEvidence) : Except String RuntimeEvidence :=
  targets.foldlM (applySuite Γ files policy inputRoot version) E

/-- The runtime suites in `apply_release_inputs`. -/
def applyReleaseInputs (inputRoot : PosixPath) (version target : String) (E : RuntimeEvidence) : Except String RuntimeEvidence :=
  applySuites Γ files policy inputRoot version (runtimeSuiteTargetsFor policy target) E

/-! ## What the suites say -/

variable (inputRoot : PosixPath) (version : String)

/-- A suite is there. -/
def Present (target : String) : Prop := ∃ bytes, files (suitePath inputRoot version target) = some bytes ∧ bytes ≠ []

/-- The scenarios of a suite that is there and is an object with a list of them. -/
def Scenarios (target : String) (items : List Value) : Prop :=
  Present files inputRoot version target ∧ ∃ payload, readJson Γ files (suitePath inputRoot version target) = .ok (some (.dict payload)) ∧
    field "scenarios" payload = .list items

/-- A suite none of whose scenarios failed. -/
def Complete (target : String) : Prop := ∃ items, Scenarios Γ files inputRoot version target items ∧ ∀ item ∈ items, isPassed item = true

/-- A suite that is complete and has a scenario. -/
def Passed (target : String) : Prop :=
  ∃ items, Scenarios Γ files inputRoot version target items ∧ items ≠ [] ∧ ∀ item ∈ items, isPassed item = true

/-- A suite has scenarios of a name, and all of them passed. -/
def PassedScenario (target name : String) : Prop :=
  ∃ items, Scenarios Γ files inputRoot version target items ∧
    (∃ scenario, .dict scenario ∈ items ∧ (field "name" scenario).pyStr Γ.repr = name) ∧
    ∀ scenario, .dict scenario ∈ items → (field "name" scenario).pyStr Γ.repr = name → isPassed (.dict scenario) = true

/-- A suite has a scenario that stands for a check. -/
def Mentions (target check : String) : Prop :=
  ∃ items, Scenarios Γ files inputRoot version target items ∧
    ∃ scenario, .dict scenario ∈ items ∧ check ∈ checksOf policy ((field "name" scenario).pyStr Γ.repr)

/-- The statuses that were assembled. -/
def RuntimeEvidence.verdict (E : RuntimeEvidence) : String × List (String × String) := (E.status, E.checks.map fun p => (p.1, p.2.status))

/-- The verdict is a conjunction over the suites. -/
structure Conjunctive (targets : List String) (start E : RuntimeEvidence) : Prop where
  status : E.status = "passed" → ∀ target ∈ targets, Passed Γ files inputRoot version target
  checks : ∀ p ∈ E.checks, p.2.status = "passed" → ∀ target ∈ targets, Present files inputRoot version target →
    ∀ name, p.1 ∈ checksOf policy name → PassedScenario Γ files inputRoot version target name
  order : ∀ targets' : List String, targets'.Perm targets →
    ∃ E', applySuites Γ files policy inputRoot version targets' start = .ok E' ∧ E'.verdict = E.verdict

/-- The suites agree: one of them is complete only where all are and have scenarios, and a complete one speaks of a check only where every
suite that is there passed all scenarios of the check. -/
structure Agree (targets : List String) : Prop where
  suites : (∃ target ∈ targets, Complete Γ files inputRoot version target) → ∀ target ∈ targets, Passed Γ files inputRoot version target
  checks : ∀ check ∈ policy.requiredChecks,
    (∃ target ∈ targets, Complete Γ files inputRoot version target ∧ Mentions Γ files policy inputRoot version target check) →
    ∀ target ∈ targets, Present files inputRoot version target →
      ∀ name, check ∈ checksOf policy name → PassedScenario Γ files inputRoot version target name

/-! ## What a suite raises -/

/-- The scenarios of a suite, if it has a list of them. -/
def suiteItems (target : String) : Option (List Value) :=
  match (files (suitePath inputRoot version target)).filter (!·.isEmpty), readJson Γ files (suitePath inputRoot version target) with
  | some _, .ok (some (.dict payload)) => (field "scenarios" payload).asList
  | _, _ => none

/-- The scenarios of a suite that is complete. -/
def completeItems (target : String) : Option (List Value) := (suiteItems Γ files inputRoot version target).filter (·.all isPassed)

/-- The checks that a suite raises. -/
def raisedBy (target : String) : List String :=
  (((completeItems Γ files inputRoot version target).getD []).filterMap asDict).flatMap fun scenario =>
    checksOf policy ((field "name" scenario).pyStr Γ.repr)

/-- A verdict with these checks raised, and the status if a suite is complete. -/
def raise (complete : Bool) (names : List String) (verdict : String × List (String × String)) : String × List (String × String) :=
  (if complete then "passed" else verdict.1, verdict.2.map fun p => (p.1, if p.1 ∈ names then "passed" else p.2))

variable {Γ files policy inputRoot version}

theorem raise_raise (c c' : Bool) (names names' : List String) (verdict : String × List (String × String)) :
    raise c' names' (raise c names verdict) = raise (c || c') (names ++ names') verdict := by
  refine Prod.ext ?_ ?_
  · cases c <;> cases c' <;> rfl
  · simp only [raise, List.map_map]
    refine List.map_congr_left fun p _ => Prod.ext rfl ?_
    by_cases h : p.1 ∈ names <;> by_cases h' : p.1 ∈ names' <;> simp [h, h']

theorem raise_nil (verdict : String × List (String × String)) : raise false [] verdict = verdict := by
  refine Prod.ext rfl ?_
  simp [raise]

/-- What is raised does not depend on the order. -/
theorem raise_congr {c : Bool} {names names' : List String} (h : ∀ name, name ∈ names ↔ name ∈ names')
    (verdict : String × List (String × String)) : raise c names verdict = raise c names' verdict := by
  simp only [raise, h]

theorem suiteItems_eq_some {target : String} {items : List Value} :
    suiteItems Γ files inputRoot version target = some items ↔ Scenarios Γ files inputRoot version target items := by
  unfold suiteItems Scenarios Present
  constructor
  · intro h
    split at h
    · next bytes payload hbytes hread =>
      obtain ⟨hfile, hne⟩ := Option.filter_eq_some_iff.1 hbytes
      exact ⟨⟨bytes, hfile, by simpa using hne⟩, payload, hread, asList_eq_some.1 h⟩
    · cases h
  · rintro ⟨⟨bytes, hfile, hne⟩, payload, hread, hlist⟩
    have hbytes : (files (suitePath inputRoot version target)).filter (!·.isEmpty) = some bytes :=
      Option.filter_eq_some_iff.2 ⟨hfile, by simpa using hne⟩
    simp only [hbytes, hread, hlist, asList]

/-- The list of scenarios is one. -/
theorem Scenarios.unique {target : String} {items items' : List Value} (h : Scenarios Γ files inputRoot version target items)
    (h' : Scenarios Γ files inputRoot version target items') : items = items' :=
  Option.some.inj ((suiteItems_eq_some.2 h).symm.trans (suiteItems_eq_some.2 h'))

theorem isSome_completeItems {target : String} :
    (completeItems Γ files inputRoot version target).isSome = true ↔ Complete Γ files inputRoot version target := by
  rw [Option.isSome_iff_exists]
  refine exists_congr fun items => ?_
  rw [completeItems, Option.filter_eq_some_iff, suiteItems_eq_some, List.all_eq_true]

theorem mem_raisedBy {target check : String} : check ∈ raisedBy Γ files policy inputRoot version target ↔
    Complete Γ files inputRoot version target ∧ Mentions Γ files policy inputRoot version target check := by
  rw [raisedBy]
  cases hitems : completeItems Γ files inputRoot version target with
  | none =>
    refine iff_of_false (by simp) fun h => ?_
    rw [← isSome_completeItems, hitems] at h
    cases h.1
  | some items =>
    obtain ⟨hsome, hall⟩ := Option.filter_eq_some_iff.1 hitems
    have hscenarios := suiteItems_eq_some.1 hsome
    have hmem : check ∈ ((some items).getD [] |>.filterMap asDict).flatMap (fun scenario => checksOf policy ((field "name" scenario).pyStr Γ.repr)) ↔
        ∃ scenario, .dict scenario ∈ items ∧ check ∈ checksOf policy ((field "name" scenario).pyStr Γ.repr) := by
      simp only [Option.getD_some, List.mem_flatMap, List.mem_filterMap, asDict_eq_some, exists_eq_right]
    rw [hmem]
    refine ⟨fun h => ⟨⟨items, hscenarios, List.all_eq_true.1 hall⟩, items, hscenarios, h⟩, ?_⟩
    rintro ⟨-, items', hscenarios', h⟩
    exact hscenarios.unique hscenarios' ▸ h

/-! ## A round and the loop -/

theorem verdict_pass (E : RuntimeEvidence) (suite : PosixPath) (name : String) : (E.pass suite name).verdict = raise false [name] E.verdict := by
  refine Prod.ext rfl ?_
  simp only [RuntimeEvidence.verdict, RuntimeEvidence.pass, raise, List.map_map, List.mem_singleton]
  refine List.map_congr_left fun p _ => ?_
  by_cases h : p.1 = name <;> simp [h]

theorem verdict_passes (suite : PosixPath) (names : List String) (E : RuntimeEvidence) :
    (names.foldl (fun E name => E.pass suite name) E).verdict = raise false names E.verdict := by
  induction names generalizing E with
  | nil => rw [List.foldl_nil, raise_nil]
  | cons name names ih => rw [List.foldl_cons, ih, verdict_pass, raise_raise, List.singleton_append, Bool.or_self]

theorem verdict_applyScenarios (target : String) (suite : PosixPath) (scenarios : List Fields) (E : RuntimeEvidence) :
    (scenarios.foldl (applyScenario Γ policy target suite) E).verdict =
      raise false (scenarios.flatMap fun scenario => checksOf policy ((field "name" scenario).pyStr Γ.repr)) E.verdict := by
  induction scenarios generalizing E with
  | nil => rw [List.foldl_nil, List.flatMap_nil, raise_nil]
  | cons scenario scenarios ih =>
    rw [List.foldl_cons, ih, applyScenario, verdict_passes, List.flatMap_cons, raise_raise, Bool.or_self]
    rfl

theorem verdict_copies (logs : List (PosixPath × Bytes)) (dest : PosixPath → PosixPath) (E : RuntimeEvidence) :
    (logs.foldl (fun E log => E.copy log.2 (dest log.1)) E).verdict = E.verdict := by
  induction logs generalizing E with
  | nil => rfl
  | cons log logs ih => exact ih _

/-- A document raises what its scenarios stand for, if all of them passed. -/
theorem verdict_applyPayload (dir : PosixPath) (target : String) (suite : PosixPath) (E : RuntimeEvidence) (payload : Fields) :
    (applyPayload Γ files policy dir target suite E payload).verdict =
      raise ((field "scenarios" payload).asList.filter (·.all isPassed)).isSome
        (((((field "scenarios" payload).asList.filter (·.all isPassed)).getD []).filterMap asDict).flatMap fun scenario =>
          checksOf policy ((field "name" scenario).pyStr Γ.repr)) E.verdict := by
  unfold applyPayload
  cases (field "scenarios" payload).asList with
  | none => exact (verdict_copies _ _ E).trans (raise_nil _).symm
  | some items =>
    cases hall : items.all isPassed with
    | false =>
      rw [Option.filter_some, hall, if_neg Bool.false_ne_true]
      dsimp only
      rw [hall, if_neg Bool.false_ne_true]
      exact (verdict_copies _ _ E).trans (raise_nil _).symm
    | true =>
      rw [Option.filter_some, hall, if_pos rfl]
      dsimp only
      rw [hall, if_pos rfl]
      refine (verdict_applyScenarios target suite _ _).trans ?_
      have hcopies := verdict_copies (logFiles files dir items) (runtimeDest target) E
      refine Prod.ext rfl ?_
      change List.map _ ((logFiles files dir items).foldl (fun E log => E.copy log.2 (runtimeDest target log.1)) E).verdict.2 = _
      rw [hcopies]
      rfl

/-- A round raises what its suite raises. -/
theorem verdict_applySuite {E E' : RuntimeEvidence} {target : String} (h : applySuite Γ files policy inputRoot version E target = .ok E') :
    E'.verdict = raise (completeItems Γ files inputRoot version target).isSome (raisedBy Γ files policy inputRoot version target) E.verdict := by
  rw [raisedBy, completeItems, suiteItems]
  unfold applySuite at h
  cases hbytes : (files (suitePath inputRoot version target)).filter (!·.isEmpty) with
  | none =>
    simp only [hbytes] at h
    obtain rfl := Except.ok.inj h
    exact (raise_nil _).symm
  | some bytes =>
    simp only [hbytes] at h
    obtain ⟨payload, hread, h⟩ := bind_ok_iff.1 h
    obtain rfl := Except.ok.inj h
    rw [hread]
    cases payload with
    | none => exact (raise_nil _).symm
    | some payload =>
      cases payload with
      | dict payload => exact verdict_applyPayload _ target _ _ payload
      | _ => exact (raise_nil _).symm

/-- The loop raises what its suites raise. -/
theorem verdict_applySuites {targets : List String} {E E' : RuntimeEvidence}
    (h : applySuites Γ files policy inputRoot version targets E = .ok E') :
    E'.verdict = raise (targets.any fun target => (completeItems Γ files inputRoot version target).isSome)
      (targets.flatMap (raisedBy Γ files policy inputRoot version)) E.verdict := by
  induction targets generalizing E with
  | nil =>
    obtain rfl := Except.ok.inj h
    exact (raise_nil _).symm
  | cons target targets ih =>
    rw [applySuites, List.foldlM_cons] at h
    obtain ⟨E₁, hround, h⟩ := bind_ok_iff.1 h
    rw [ih h, verdict_applySuite hround, raise_raise, List.any_cons, List.flatMap_cons]

/-- A suite that can be read: one that is passed over, or whose text is UTF-8. -/
def Readable (Γ : Python) (files : Files) (inputRoot : PosixPath) (version target : String) : Prop :=
  (files (suitePath inputRoot version target)).filter (!·.isEmpty) = none ∨
    ∃ payload, readJson Γ files (suitePath inputRoot version target) = .ok payload

theorem exists_applySuite (policy : RuntimePolicy) (E : RuntimeEvidence) {target : String} :
    (∃ E', applySuite Γ files policy inputRoot version E target = .ok E') ↔ Readable Γ files inputRoot version target := by
  unfold applySuite Readable
  cases hbytes : (files (suitePath inputRoot version target)).filter (!·.isEmpty) with
  | none =>
    simp only [hbytes]
    exact iff_of_true ⟨E, rfl⟩ (.inl trivial)
  | some bytes =>
    simp only [hbytes, reduceCtorEq, false_or]
    refine ⟨fun ⟨E', h⟩ => ?_, fun ⟨payload, hread⟩ => ⟨_, bind_ok_iff.2 ⟨payload, hread, rfl⟩⟩⟩
    obtain ⟨payload, hread, -⟩ := bind_ok_iff.1 h
    exact ⟨payload, hread⟩

/-- The loop comes to an end where every suite can be read. -/
theorem exists_applySuites {targets : List String} {E : RuntimeEvidence} :
    (∃ E', applySuites Γ files policy inputRoot version targets E = .ok E') ↔
      ∀ target ∈ targets, Readable Γ files inputRoot version target := by
  induction targets generalizing E with
  | nil => exact ⟨fun _ => List.forall_mem_nil _, fun _ => ⟨E, rfl⟩⟩
  | cons target targets ih =>
    rw [List.forall_mem_cons, ← exists_applySuite policy E, applySuites, List.foldlM_cons]
    constructor
    · rintro ⟨E', h⟩
      obtain ⟨E₁, hround, h⟩ := bind_ok_iff.1 h
      exact ⟨⟨E₁, hround⟩, ih.1 ⟨E', h⟩⟩
    · rintro ⟨⟨E₁, hround⟩, hrest⟩
      obtain ⟨E', h⟩ := ih.2 hrest
      exact ⟨E', bind_ok_iff.2 ⟨E₁, hround, h⟩⟩

/-- The verdict is the same in every order of the suites. -/
theorem verdict_perm {targets targets' : List String} (hperm : targets'.Perm targets) {E E' : RuntimeEvidence}
    (h : applySuites Γ files policy inputRoot version targets E = .ok E') :
    ∃ E'', applySuites Γ files policy inputRoot version targets' E = .ok E'' ∧ E''.verdict = E'.verdict := by
  obtain ⟨E'', h'⟩ := exists_applySuites.2 fun target htarget => exists_applySuites.1 ⟨E', h⟩ target (hperm.mem_iff.1 htarget)
  refine ⟨E'', h', ?_⟩
  have hany : targets'.any (fun target => (completeItems Γ files inputRoot version target).isSome) =
      targets.any fun target => (completeItems Γ files inputRoot version target).isSome := by
    rw [Bool.eq_iff_iff, List.any_eq_true, List.any_eq_true]
    simp only [hperm.mem_iff]
  rw [verdict_applySuites h', verdict_applySuites h, hany]
  exact raise_congr (fun name => by simp only [List.mem_flatMap, hperm.mem_iff]) _

/-! ## The verdict -/

/-- The runtime passed where some suite is complete. -/
theorem status_applySuites {required : Bool} {targets : List String} {E : RuntimeEvidence}
    (h : applySuites Γ files policy inputRoot version targets (template policy required) = .ok E) :
    E.status = "passed" ↔ ∃ target ∈ targets, Complete Γ files inputRoot version target := by
  have hstatus : E.status = if targets.any (fun target => (completeItems Γ files inputRoot version target).isSome) then "passed"
    else if required then "not_run" else "not_applicable" := congrArg Prod.fst (verdict_applySuites h)
  rw [hstatus]
  simp only [← isSome_completeItems, ← List.any_eq_true (p := fun target => (completeItems Γ files inputRoot version target).isSome)]
  cases targets.any _ <;> cases required <;> simp

/-- A check passed where some complete suite speaks of it. -/
theorem checks_applySuites {required : Bool} {targets : List String} {E : RuntimeEvidence}
    (h : applySuites Γ files policy inputRoot version targets (template policy required) = .ok E) (check : String) :
    (∃ p ∈ E.checks, p.1 = check ∧ p.2.status = "passed") ↔ check ∈ policy.requiredChecks ∧
      ∃ target ∈ targets, Complete Γ files inputRoot version target ∧ Mentions Γ files policy inputRoot version target check := by
  have hchecks : E.checks.map (fun p => (p.1, p.2.status)) = policy.requiredChecks.map fun name =>
      (name, if name ∈ targets.flatMap (raisedBy Γ files policy inputRoot version) then "passed"
        else if required then "not_run" else "not_applicable") := by
    refine (congrArg Prod.snd (verdict_applySuites h)).trans ?_
    simp only [raise, RuntimeEvidence.verdict, template, List.map_map]
    rfl
  have hpassed : (check, "passed") ∈ E.checks.map (fun p => (p.1, p.2.status)) ↔ ∃ p ∈ E.checks, p.1 = check ∧ p.2.status = "passed" := by
    simp only [List.mem_map, Prod.mk.injEq]
  rw [← hpassed, hchecks]
  simp only [← mem_raisedBy, ← List.mem_flatMap, List.mem_map, Prod.mk.injEq]
  constructor
  · rintro ⟨name, hname, rfl, hstatus⟩
    refine ⟨hname, ?_⟩
    by_contra hnot
    rw [if_neg hnot] at hstatus
    cases required <;> simp at hstatus
  · rintro ⟨hname, hraised⟩
    exact ⟨check, hname, rfl, if_pos hraised⟩

/-- The verdict is a conjunction exactly where the suites agree. -/
theorem conjunctive_iff {required : Bool} {target : String} {E : RuntimeEvidence}
    (h : applyReleaseInputs Γ files policy inputRoot version target (template policy required) = .ok E) :
    Conjunctive Γ files policy inputRoot version (runtimeSuiteTargetsFor policy target) (template policy required) E ↔
      Agree Γ files policy inputRoot version (runtimeSuiteTargetsFor policy target) := by
  constructor
  · intro hconj
    refine ⟨fun hsome => hconj.status ((status_applySuites h).2 hsome), fun check hcheck hsome => ?_⟩
    obtain ⟨p, hp, rfl, hpassed⟩ := (checks_applySuites h check).2 ⟨hcheck, hsome⟩
    exact hconj.checks p hp hpassed
  · intro hagree
    refine ⟨fun hpassed => hagree.suites ((status_applySuites h).1 hpassed), fun p hp hpassed => ?_, fun targets' hperm => verdict_perm hperm h⟩
    obtain ⟨hcheck, hsome⟩ := (checks_applySuites h p.1).1 ⟨p, hp, rfl, hpassed⟩
    exact hagree.checks p.1 hcheck hsome

end

/-! ### The suite of a gateway -/

/-- `runtime` of `ci/evidence-contract.yml`. -/
def contractRuntime : RuntimePolicy where
  suiteTargets := evidenceContract.suiteTargets
  requiredChecks := ["secure_boot", "dm_verity", "dm_verity_tamper", "rauc_good_update", "rauc_bad_signature", "rauc_health_rollback",
    "anti_rollback", "data_luks", "lockdown", "nmap", "systemd_security"]
  scenarioToChecks := [("anti-rollback-downgrade-rejection", ["anti_rollback"]), ("data-luks-swtpm", ["data_luks"]),
    ("dm-verity-rootfs-tamper-rejection", ["dm_verity_tamper"]), ("rauc-bad-signature-rejection", ["rauc_bad_signature"]),
    ("rauc-good-update", ["rauc_good_update"]), ("rauc-health-rollback", ["rauc_health_rollback"]),
    ("signed-boot", ["secure_boot", "dm_verity", "lockdown", "nmap", "systemd_security"])]

def suitePython : Python := ⟨Sha256.digest, JsonText.read, fun _ => "None"⟩

/-- A suite with these scenarios. -/
def suiteDocument (scenarios : List Value) : Fields :=
  [("schema_version", .str "suderra.qemu-production-runtime-suite.v2"), ("status", .str "passed"), ("scenarios", .list scenarios)]

def bootScenario : Value := .dict [("name", .str "signed-boot"), ("status", .str "passed")]

def inputs : PosixPath := ⟨"", ["inputs"]⟩

def suiteBytes (scenarios : List Value) : Bytes :=
  Utf8.encode (String.ofList (JsonText.write (JsonText.compactAscii fun _ => []) 0 (.dict (suiteDocument scenarios))))

def suiteFiles (scenarios : List Value) : Files := fun path =>
  if path = suitePath inputs "v1.0.0" "qemu-x86_64-prod-ab" then some (suiteBytes scenarios) else none

theorem scenarios_suite (scenarios : List Value) (hplain : (Value.dict (suiteDocument scenarios)).plain = true) :
    Scenarios suitePython (suiteFiles scenarios) inputs "v1.0.0" "qemu-x86_64-prod-ab" scenarios := by
  have hfile : suiteFiles scenarios (suitePath inputs "v1.0.0" "qemu-x86_64-prod-ab") = some (suiteBytes scenarios) := if_pos rfl
  have hne : suiteBytes scenarios ≠ [] := by
    rw [suiteBytes, suiteDocument, JsonText.write, Utf8.encode_ofList]
    exact List.cons_ne_nil _ _
  exact ⟨⟨_, hfile, hne⟩, suiteDocument scenarios,
    readJson_write (JsonText.compactAscii_lawful _) (JsonText.compactAscii_noReturn _) hplain rfl hfile, rfl⟩

theorem assembled_suite (scenarios : List Value) (hplain : (Value.dict (suiteDocument scenarios)).plain = true) :
    ∃ E, applyReleaseInputs suitePython (suiteFiles scenarios) contractRuntime inputs "v1.0.0" "x86_64" (template contractRuntime true) =
      .ok E := by
  refine exists_applySuites.2 fun target htarget => .inr ?_
  obtain rfl : target = "qemu-x86_64-prod-ab" := List.mem_singleton.1 htarget
  obtain ⟨-, payload, hread, -⟩ := scenarios_suite scenarios hplain
  exact ⟨_, hread⟩

/-- The verdict on a suite whose one scenario passed. -/
theorem conjunctive_boot : ∃ E, applyReleaseInputs suitePython (suiteFiles [bootScenario]) contractRuntime inputs "v1.0.0" "x86_64"
    (template contractRuntime true) = .ok E ∧
    (Conjunctive suitePython (suiteFiles [bootScenario]) contractRuntime inputs "v1.0.0" (runtimeSuiteTargetsFor contractRuntime "x86_64")
        (template contractRuntime true) E ↔
      Agree suitePython (suiteFiles [bootScenario]) contractRuntime inputs "v1.0.0" (runtimeSuiteTargetsFor contractRuntime "x86_64")) := by
  obtain ⟨E, h⟩ := assembled_suite [bootScenario] (by decide)
  exact ⟨E, h, conjunctive_iff h⟩

/-- A suite without scenarios passes. -/
theorem not_conjunctive_empty : ∃ E, applyReleaseInputs suitePython (suiteFiles []) contractRuntime inputs "v1.0.0" "x86_64"
    (template contractRuntime true) = .ok E ∧
    ¬Conjunctive suitePython (suiteFiles []) contractRuntime inputs "v1.0.0" (runtimeSuiteTargetsFor contractRuntime "x86_64")
      (template contractRuntime true) E := by
  obtain ⟨E, h⟩ := assembled_suite [] (by decide)
  have hscenarios := scenarios_suite [] (by decide)
  have hmem : "qemu-x86_64-prod-ab" ∈ runtimeSuiteTargetsFor contractRuntime "x86_64" := by decide
  refine ⟨E, h, fun hconj => ?_⟩
  have hpassed := (status_applySuites h).2 ⟨_, hmem, [], hscenarios, List.forall_mem_nil _⟩
  obtain ⟨items, hitems, hne, -⟩ := hconj.status hpassed _ hmem
  exact hne (hitems.unique hscenarios)

end SuderraOs.Evidence.RuntimeVerdict
