import Mathlib.Data.List.Dedup
import SuderraOs.Evidence.Common

/-!
# Station acquisition evidence

`station-acquisition.py`: what `run_event` derives from the output of an adapter, and what `validate_payload` checks of the recorded
events. The validator compares the digests of the logs; it never derives again what the events say about them. So an accepted event
replays exactly when somebody derived it with `run_event` (`replays_iff_recorded`).
-/

namespace SuderraOs.Evidence

open Value

namespace Station

/-- What the scripts read from the evidence contract. -/
structure Contract where
  schemaVersion : String
  adapterRoles : List String

/-- The values an invocation may ask for, and the station registry. -/
structure Expected where
  version : Option String
  target : Option String
  sourceSha : Option String
  sourceRunId : Option String
  artifactSha256 : Option String
  artifactBytes : Option Int
  registrySha256 : Option String
  stationRegistry : Option Fields

/-! ## What `run_event` derives -/

variable (Γ : Python)

/-- The measurement in one text, if it is an object. -/
def measurementOf (text : List Char) : Option Fields :=
  (Γ.loads text).bind fun payload => payload.asDict.map fun fields => ((field "measured" fields).asDict).getD fields

/-- `measurement_from_stdout`: the whole output, or its last line that is an object. -/
def measurementFromStdout (stdout : Bytes) : Fields :=
  let text := PyText.strip (PyText.universalNewlines (Utf8.decodeReplace stdout.length stdout))
  let lines := ((PyText.splitlines text).reverse.map PyText.strip).filter (· ≠ [])
  if text = [] then [] else ((text :: lines).findSome? (measurementOf Γ)).getD []

/-- `event_id_for`. -/
def eventIdFor (index : Nat) (role adapterId : String) (stdout stderr : Bytes) : String :=
  let digest := Γ.hexdigest (Utf8.encode s!"{index}:{role}:{adapterId}" ++ 0 :: (Utf8.encode (Γ.hexdigest stdout) ++
    0 :: Utf8.encode (Γ.hexdigest stderr)))
  "station-event:" ++ String.ofList (digest.toList.take 24)

/-! ## The validator -/

/-- `station_registry_entry`. -/
def stationRegistryEntry (registry : Fields) (stationId : Value) : Option Fields :=
  match stationId, field "stations" registry with
  | .str id, .list stations =>
    if id = "" then none
    else stations.findSome? fun item => item.asDict.filter fun fields => (field "station_id" fields).pyEq (.str id)
  | _, _ => none

/-- `registry_adapter_entry`. -/
def registryAdapterEntry (station : Fields) (role : String) : Option Fields :=
  (field "adapter_inventory" station).asDict.bind fun inventory => (field role inventory).asDict

def adapterFieldPairs : List (String × String) :=
  [("adapter_id", "id"), ("adapter_version", "version"), ("adapter_binary_sha256", "binary_sha256"),
    ("command_schema_id", "command_schema_id")]

/-- The errors of one event against its station. -/
def adapterErrors (station : Fields) (idx : Nat) (event : Value) : List String :=
  match event with
  | .dict event =>
    match field "role" event with
    | .str role =>
      match registryAdapterEntry station role with
      | none => [s!"events[{idx}].role must have an exact adapter_inventory entry in station registry"]
      | some adapter =>
        failUnless s!"events[{idx}].role must match station registry adapter role"
            (((lookup "role" adapter).getD (.str role)).pyEq (.str role)) ++
          adapterFieldPairs.flatMap fun p =>
            failUnless s!"events[{idx}].{p.1} must match station registry adapter {p.2}"
              ((field p.1 event).pyEq (field p.2 adapter))
    | _ => []
  | _ => []

/-- The errors of the targets and the storage that a station allows. -/
def stationErrors (payload station : Fields) : List String :=
  (match field "allowed_targets" station with
    | .list [] => ["station registry allowed_targets must be a non-empty list"]
    | .list targets =>
      if Value.isIn (.str "*") targets then ["station registry allowed_targets must not use wildcard target authorization"]
      else failUnless "target must be allowed by station registry" (Value.isIn (field "target" payload) targets)
    | _ => ["station registry allowed_targets must be a non-empty list"]) ++
  match field "allowed_storage_by_id" station with
  | .list storage =>
    failUnless "station registry allowed_storage_by_id must not use wildcard storage authorization" !(Value.isIn (.str "*") storage)
  | _ => []

/-- `validate_registry_binding`. -/
def validateRegistryBinding (payload : Fields) : Option Fields → List String
  | none => []
  | some registry =>
    failUnless "station registry schema_version must be suderra.lab-station-registry.v1"
        ((field "schema_version" registry).pyEq (.str "suderra.lab-station-registry.v1")) ++
      match stationRegistryEntry registry (field "station_id" payload) with
      | none => ["station_id must exist in station registry"]
      | some station =>
        stationErrors payload station ++
          match field "events" payload with
          | .list events => events.zipIdx.flatMap fun p => adapterErrors station p.2 p.1
          | _ => []

/-- The flags that the measurement of a role must set. -/
def roleFlags : String → List String
  | "power" => ["cycled"]
  | "tpm" => ["present"]
  | "secure-boot" => ["enabled", "enforced"]
  | "rauc" => ["rollback_verified", "mark_good_verified"]
  | "tamper" => ["dm_verity_rejected", "boot_tamper_rejected"]
  | _ => []

/-- The errors of a measurement of a role. -/
def roleErrors (payload : Fields) (idx : Nat) (role : Value) (measured : Fields) : List String :=
  match role with
  | .str role =>
    (if role = "readback" then
      failUnless s!"events[{idx}].measured.sha256 must match artifact_sha256"
          ((orElse (orElse (field "sha256" measured) (field "actual_sha256" measured)) (field "readback_sha256" measured)).pyEq
            (field "artifact_sha256" payload)) ++
        failUnless s!"events[{idx}].measured.bytes_read must match artifact_bytes"
          ((field "bytes_read" measured).asInt.isSome && (field "bytes_read" measured).pyEq (field "artifact_bytes" payload))
    else []) ++
    ((roleFlags role).flatMap fun flag => failUnless s!"events[{idx}].measured.{flag} must be true" (field flag measured).isTrue) ++
    if role = "power" then
      failUnless s!"events[{idx}].measured.transcript_sha256 must be a non-zero sha256" (isDigest (field "transcript_sha256" measured))
    else []
  | _ => []

/-- The path of a log of an event: relative to the root of the events. -/
def logPath (root : PosixPath) (payload ref : Fields) : PosixPath :=
  (root.join (PosixPath.ofString (((lookup "events_root" payload).getD (.str "")).pyStr Γ.repr))).join
    (PosixPath.ofString (((lookup "path" ref).getD (.str "")).pyStr Γ.repr))

/-- The errors of one log of an event. -/
def logErrors (files : Files) (root : PosixPath) (checkFiles : Bool) (payload : Fields) (idx : Nat) (event : Fields)
    (logField : String) : List String :=
  match field logField event with
  | .dict ref =>
    let rel := PosixPath.ofString (((lookup "path" ref).getD (.str "")).pyStr Γ.repr)
    if rel.isAbsolute || rel.hasParent then [s!"events[{idx}].{logField}.path must be relative"]
    else if checkFiles then
      match files (logPath Γ root payload ref) with
      | none => [s!"events[{idx}].{logField}.path missing"]
      | some bytes =>
        failUnless s!"events[{idx}].{logField}.sha256 mismatch" ((field "sha256" ref).pyEq (.str (Γ.hexdigest bytes)))
    else []
  | _ => [s!"events[{idx}].{logField} must be an object"]

/-- The errors of the fields of an event that are no logs. -/
def eventFieldErrors (payload : Fields) (idx : Nat) (event : Fields) : List String :=
  failUnless s!"events[{idx}].status must be passed" ((field "status" event).pyEq (.str "passed")) ++
    failUnless s!"events[{idx}].event_id must be a stable station-event id"
      ((field "event_id" event).asStr.any fun id => "station-event:".toList.isPrefixOf id.toList) ++
    failUnless s!"events[{idx}].measurement_source must be adapter-stdout-json"
      ((field "measurement_source" event).pyEq (.str "adapter-stdout-json")) ++
    (match field "measured" event with
      | .dict measured =>
        failUnless s!"events[{idx}].measured must be derived from adapter output" (!measured.isEmpty) ++
          roleErrors payload idx (field "role" event) measured
      | _ => s!"events[{idx}].measured must be an object" :: roleErrors payload idx (field "role" event) []) ++
    failUnless s!"events[{idx}].adapter_binary_sha256 must be a non-zero sha256" (isDigest (field "adapter_binary_sha256" event))

/-- The errors of one event. A role that is an array or an object raises, since it cannot be a member of a set. -/
def eventErrors (files : Files) (root : PosixPath) (checkFiles : Bool) (payload : Fields) (idx : Nat) :
    Value → Except String (List String)
  | .dict event => do
    guardError "TypeError" (field "role" event).isHashable
    .ok (eventFieldErrors payload idx event ++
      ["stdout", "stderr"].flatMap (logErrors Γ files root checkFiles payload idx event))
  | _ => .ok [s!"events[{idx}] must be an object"]

/-- The error of a field that is not the expected value, where one is expected. -/
def expectField (message : String) (value : Value) (expected : Option Value) : List String :=
  (expected.toList).flatMap fun expected => failUnless (message ++ " " ++ expected.pyStr Γ.repr) (value.pyEq expected)

/-- The errors of a digest of the payload. -/
def digestErrors (payload : Fields) (name what : String) (expected : Option String) : List String :=
  if isDigest (field name payload) then
    expectField Γ s!"{name} must match expected {what}" (field name payload) (expected.map .str)
  else [s!"{name} must be a non-zero sha256"]

/-- The errors of the fields of the payload before its events. -/
def payloadErrors (contract : Contract) (expected : Expected) (payload : Fields) : List String :=
  failUnless s!"schema_version must be {contract.schemaVersion}" ((field "schema_version" payload).pyEq (.str contract.schemaVersion)) ++
    expectField Γ "version must match expected version" (field "version" payload) (expected.version.map .str) ++
    expectField Γ "target must match expected target" (field "target" payload) (expected.target.map .str) ++
    (if (field "source_sha" payload).asStr.any (isHex 40) then
      expectField Γ "source_sha must match expected source sha" (field "source_sha" payload) (expected.sourceSha.map .str)
    else ["source_sha must be a lowercase git commit sha"]) ++
    (expected.sourceRunId.toList.flatMap fun run =>
      failUnless s!"source_run_id must match expected source run {run}" ((field "source_run_id" payload).pyStr Γ.repr = run)) ++
    digestErrors Γ payload "artifact_sha256" "artifact sha256" expected.artifactSha256 ++
    (if (field "artifact_bytes" payload).asInt.any (0 < ·) then
      expectField Γ "artifact_bytes must match expected artifact bytes" (field "artifact_bytes" payload) (expected.artifactBytes.map .int)
    else ["artifact_bytes must be positive"]) ++
    digestErrors Γ payload "registry_sha256" "registry sha256" expected.registrySha256

/-- The roles of the events in their order. -/
def eventRoles (events : List Value) : List String :=
  events.filterMap fun event => event.asDict.bind fun fields => (field "role" fields).asStr

/-- The errors of the roles together: each one that is required, and the order of the first events of each. -/
def orderErrors (contract : Contract) (events : List Value) : List String :=
  let roles := eventRoles events
  let missing := (contract.adapterRoles.dedup.filter fun role => !roles.contains role).insertionSort fun a b => nameLe a b = true
  let positions := (contract.adapterRoles.filter fun role => roles.contains role).map roles.idxOf
  failUnless ("events missing required adapter roles: " ++ ", ".intercalate missing) missing.isEmpty ++
    failUnless ("events must preserve station acquisition order: " ++ ", ".intercalate contract.adapterRoles)
      (decide (positions.Pairwise (· ≤ ·)))

/-- `validate_payload`: the failures, or an exception. -/
def validatePayload (contract : Contract) (expected : Expected) (files : Files) (root : PosixPath) (checkFiles : Bool)
    (payload : Fields) : Except String (List String) :=
  let errors := payloadErrors Γ contract expected payload ++ validateRegistryBinding payload expected.stationRegistry
  match field "events" payload with
  | .list (event :: events) => do
    let found ← (event :: events).zipIdx.mapM fun p => eventErrors Γ files root checkFiles payload p.2 p.1
    .ok (errors ++ found.flatten ++ orderErrors contract (event :: events))
  | _ => .ok (errors ++ ["events must be a non-empty list"])

/-! ## Replay -/

/-- What the log of an event that the field names holds. -/
def logBytes (files : Files) (root : PosixPath) (payload event : Fields) (logField : String) : Option Bytes :=
  (field logField event).asDict.bind fun ref => files (logPath Γ root payload ref)

/-- The value at a path of names. -/
def valueAt : List String → Value → Value
  | [], v => v
  | name :: names, v => valueAt names ((v.get name).getD .null)

/-- What `run_event` derives from the output of an adapter, for the role, the adapter and the exit codes that an event names: the
fields of its record and their values. -/
def derivedFields (idx : Nat) (event : Fields) (stdout stderr : Bytes) : List (List String × Value) :=
  let status := if (field "exit_code" event).pyEq (field "expected_exit_code" event) then "passed" else "failed"
  [(["event_id"], .str (eventIdFor Γ idx ((field "role" event).pyStr Γ.repr) ((field "adapter_id" event).pyStr Γ.repr) stdout stderr)),
    (["status"], .str status),
    (["stdout", "sha256"], .str (Γ.hexdigest stdout)), (["stdout", "bytes"], .int stdout.length),
    (["stderr", "sha256"], .str (Γ.hexdigest stderr)), (["stderr", "bytes"], .int stderr.length),
    (["measured"], .dict (measurementFromStdout Γ stdout))]

/-- An event that was derived: some adapter printed what `run_event` made it of. -/
def Recorded (idx : Nat) (event : Fields) : Prop :=
  ∃ stdout stderr, ∀ p ∈ derivedFields Γ idx event stdout stderr, (valueAt p.1 (.dict event)).pyEq p.2 = true

/-- An event that replays from the logs it names. -/
structure Replays (idx : Nat) (event : Fields) (stdout stderr : Bytes) : Prop where
  measured : (field "measured" event).pyEq (.dict (measurementFromStdout Γ stdout)) = true
  event_id : field "event_id" event =
    .str (eventIdFor Γ idx ((field "role" event).pyStr Γ.repr) ((field "adapter_id" event).pyStr Γ.repr) stdout stderr)
  exit_code : (field "exit_code" event).pyEq (field "expected_exit_code" event) = true
  stdout_bytes : (valueAt ["stdout", "bytes"] (.dict event)).pyEq (.int stdout.length) = true
  stderr_bytes : (valueAt ["stderr", "bytes"] (.dict event)).pyEq (.int stderr.length) = true

/-- What the validator has checked of an event with its logs. -/
structure EventAccepted (event : Fields) (stdout stderr : Bytes) : Prop where
  status : field "status" event = .str "passed"
  stdout_sha256 : valueAt ["stdout", "sha256"] (.dict event) = .str (Γ.hexdigest stdout)
  stderr_sha256 : valueAt ["stderr", "sha256"] (.dict event) = .str (Γ.hexdigest stderr)

/-- An event replays from its logs exactly when it was derived, if its logs are the only bytes with their digests. -/
theorem replays_iff (idx : Nat) {event : Fields} {stdout stderr : Bytes} (h : EventAccepted Γ event stdout stderr)
    (hstdout : ∀ bytes, Γ.hexdigest bytes = Γ.hexdigest stdout → bytes = stdout)
    (hstderr : ∀ bytes, Γ.hexdigest bytes = Γ.hexdigest stderr → bytes = stderr) :
    Replays Γ idx event stdout stderr ↔ Recorded Γ idx event := by
  have hstatus : valueAt ["status"] (.dict event) = .str "passed" := h.status
  constructor
  · intro hreplays
    refine ⟨stdout, stderr, ?_⟩
    simp only [derivedFields, List.forall_mem_cons, hstatus, h.stdout_sha256, h.stderr_sha256, hreplays.exit_code, if_true,
      hreplays.stdout_bytes, hreplays.stderr_bytes]
    refine ⟨?_, by simp, by simp, trivial, by simp, trivial, hreplays.measured, by simp⟩
    exact Value.pyEq_str_iff.2 hreplays.event_id
  · rintro ⟨stdout', stderr', hderived⟩
    simp only [derivedFields, List.forall_mem_cons, hstatus, h.stdout_sha256, h.stderr_sha256, Value.pyEq_str, beq_iff_eq] at hderived
    obtain ⟨hid, hpassed, hsha, hbytes, hsha', hbytes', hmeasured, _⟩ := hderived
    obtain rfl := hstdout stdout' hsha.symm
    obtain rfl := hstderr stderr' hsha'.symm
    refine ⟨hmeasured, Value.pyEq_str_iff.1 hid, ?_, hbytes, hbytes'⟩
    by_contra hexit
    rw [if_neg hexit] at hpassed
    exact absurd hpassed (by decide)

/-- A log without errors is a file with the recorded digest. -/
theorem logErrors_eq_nil {files : Files} {root : PosixPath} {payload : Fields} {idx : Nat} {event : Fields} {logField : String}
    (h : logErrors Γ files root true payload idx event logField = []) :
    ∃ bytes, logBytes Γ files root payload event logField = some bytes ∧
      valueAt [logField, "sha256"] (.dict event) = .str (Γ.hexdigest bytes) := by
  unfold logErrors at h
  split at h
  · next ref href =>
    simp only at h
    split_ifs at h
    split at h
    · cases h
    · next bytes hbytes =>
      rw [failUnless_eq_nil, Value.pyEq_str_iff] at h
      refine ⟨bytes, by rw [logBytes, href]; exact hbytes, ?_⟩
      rw [← h]
      change (((field logField event).get "sha256").getD .null) = _
      rw [href]
      rfl
  · cases h

/-- The events of a payload, with their places. -/
def placedEvents (payload : Fields) : List (Value × Nat) := ((field "events" payload).asList.getD []).zipIdx

/-- What the validator has checked of every event of a payload that it accepts. -/
theorem validatePayload_ok {contract : Contract} {expected : Expected} {files : Files} {root : PosixPath} {payload : Fields}
    (h : validatePayload Γ contract expected files root true payload = .ok []) :
    ∀ p ∈ placedEvents payload, ∃ event stdout stderr, p.1 = .dict event ∧
      logBytes Γ files root payload event "stdout" = some stdout ∧ logBytes Γ files root payload event "stderr" = some stderr ∧
      EventAccepted Γ event stdout stderr := by
  intro p hp
  unfold validatePayload at h
  simp only at h
  split at h
  · next event events hevents =>
    obtain ⟨found, hfound, h⟩ := bind_ok_iff.1 h
    obtain ⟨⟨_, hflatten⟩, _⟩ : (_ ∧ found.flatten = []) ∧ _ := by
      simpa only [Except.ok.injEq, List.append_eq_nil_iff] using h
    rw [placedEvents, hevents] at hp
    have herrors := mapM_flatten_eq_nil hfound hflatten p hp
    obtain ⟨value, idx⟩ := p
    cases value with
    | dict event =>
      obtain ⟨_, _, herrors⟩ := bind_ok_iff.1 herrors
      simp only [Except.ok.injEq, List.append_eq_nil_iff, List.flatMap_cons, List.flatMap_nil] at herrors
      obtain ⟨hfields, hout, herr, _⟩ := herrors
      obtain ⟨stdout, hstdout, hstdoutSha⟩ := logErrors_eq_nil Γ hout
      obtain ⟨stderr, hstderr, hstderrSha⟩ := logErrors_eq_nil Γ herr
      simp only [eventFieldErrors, List.append_eq_nil_iff, failUnless_eq_nil, Value.pyEq_str_iff] at hfields
      exact ⟨event, stdout, stderr, rfl, hstdout, hstderr, hfields.1.1.1.1, hstdoutSha, hstderrSha⟩
    | _ => cases herrors
  · simp at h

/-- The digest of no bytes; the sample has no other file. -/
def sampleDigest : Bytes :=
  [0xe3, 0xb0, 0xc4, 0x42, 0x98, 0xfc, 0x1c, 0x14, 0x9a, 0xfb, 0xf4, 0xc8, 0x99, 0x6f, 0xb9, 0x24, 0x27, 0xae, 0x41, 0xe4,
    0x64, 0x9b, 0x93, 0x4c, 0xa4, 0x95, 0x99, 0x1b, 0x78, 0x52, 0xb8, 0x55]

def samplePython : Python where
  sha256 bytes := if bytes = [] then sampleDigest else []
  loads := JsonText.read
  repr _ := "None"

def sampleContract : Contract where
  schemaVersion := "suderra.station-acquisition.v2"
  adapterRoles := ["flash", "readback", "uart", "power", "storage", "tpm", "secure-boot", "rauc", "tamper"]

def sampleMeasured : String → Fields
  | "readback" => [("sha256", .str sampleHex), ("bytes_read", .int 7)]
  | "power" => [("cycled", .bool true), ("transcript_sha256", .str sampleHex)]
  | role => ("ok", .bool true) :: (roleFlags role).map fun flag => (flag, .bool true)
where
  sampleHex : String := "e3b0c44298fc1c149afbf4c8996fb92427ae41e4649b934ca495991b7852b855"

def sampleEvent (role : String) : Value :=
  .dict [("event_id", .str "station-event:0"), ("role", .str role), ("adapter_id", .str "adapter"), ("exit_code", .int 0),
    ("expected_exit_code", .int 0), ("status", .str "passed"), ("measurement_source", .str "adapter-stdout-json"),
    ("measured", .dict (sampleMeasured role)), ("adapter_binary_sha256", .str sampleMeasured.sampleHex),
    ("stdout", .dict [("path", .str "stdout.log"), ("sha256", .str sampleMeasured.sampleHex), ("bytes", .int 0)]),
    ("stderr", .dict [("path", .str "stderr.log"), ("sha256", .str sampleMeasured.sampleHex), ("bytes", .int 0)])]

def samplePayload : Fields :=
  [("schema_version", .str "suderra.station-acquisition.v2"), ("source_sha", .str "0123456789abcdef0123456789abcdef01234567"),
    ("artifact_sha256", .str sampleMeasured.sampleHex), ("artifact_bytes", .int 7), ("registry_sha256", .str sampleMeasured.sampleHex),
    ("events_root", .str "events"), ("events", .list (sampleContract.adapterRoles.map sampleEvent))]

/-- Every file is empty. -/
def sampleFiles : Files := fun _ => some []

def sampleRoot : PosixPath := ⟨"/", ["evidence"]⟩

theorem sample_accepted :
    validatePayload samplePython sampleContract ⟨none, none, none, none, none, none, none, none⟩ sampleFiles sampleRoot true
      samplePayload = .ok [] := by
  decide +kernel

theorem sample_digest (other : Bytes) (h : samplePython.hexdigest other = samplePython.hexdigest []) : other = [] := by
  by_contra hne
  have hother : samplePython.sha256 other = [] := if_neg hne
  rw [Python.hexdigest, hother] at h
  exact absurd h (by decide)

end Station

end SuderraOs.Evidence
