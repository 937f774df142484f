import SuderraOs.Evidence.Common

/-!
# Runtime scenarios in QEMU

`production-runtime-scenario.py` runs one scenario in QEMU and says what it observed; `validate-production-runtime-suite.py` reads the
logs again. Both look for the outcome in the text of the serial console, first in a line that names it and then in the words of the
firmware, the kernel and the updater. They differ in what they make of a line that names no outcome, of a log that says nothing and of
an event that ends QEMU (`replay_agrees_iff`).
-/

namespace SuderraOs.Runtime

open Value Evidence

/-- `str.lower`, which depends on the tables of Unicode. -/
structure Libraries extends Python where
  lower : List Char → List Char

/-! ## What a scenario ends in -/

/-- `EXPECTED_OUTCOMES`. -/
inductive Outcome where
  | booted
  | firmwareRejected
  | kernelRejected
  | userspaceRejected
  | rollbackCompleted
  deriving DecidableEq, Repr

def Outcome.all : List Outcome := [.booted, .firmwareRejected, .kernelRejected, .userspaceRejected, .rollbackCompleted]

def Outcome.name : Outcome → String
  | .booted => "booted"
  | .firmwareRejected => "firmware-rejected"
  | .kernelRejected => "kernel-rejected"
  | .userspaceRejected => "userspace-rejected"
  | .rollbackCompleted => "rollback-completed"

/-- The outcome that a text names. -/
def Outcome.ofName (cs : List Char) : Option Outcome := Outcome.all.find? fun outcome => outcome.name.toList = cs

/-- `OUTCOME_LAYERS`. -/
def Outcome.layer : Outcome → String
  | .booted => "runtime"
  | .firmwareRejected => "firmware"
  | .kernelRejected => "kernel"
  | .userspaceRejected => "userspace"
  | .rollbackCompleted => "userspace"

/-- `SCENARIO_OBSERVED_LAYERS`. -/
def scenarioObservedLayers : List (String × String) :=
  [("anti-rollback-downgrade-rejection", "userspace"), ("cmdline-tamper-rejection", "kernel"), ("data-luks-swtpm", "storage"),
    ("dm-verity-rootfs-tamper-rejection", "kernel"), ("rauc-bad-signature-rejection", "userspace"), ("rauc-good-update", "userspace"),
    ("rauc-health-rollback", "userspace"), ("signed-boot", "runtime"), ("unsigned-boot-rejection", "firmware")]

def outcomePrefixes : List String := ["SUDERRA_PRODUCTION_RUNTIME_OUTCOME=", "observed_outcome="]

def semanticBegin : String := "SUDERRA_QEMU_SEMANTIC_JSON_BEGIN"

def semanticEnd : String := "SUDERRA_QEMU_SEMANTIC_JSON_END"

/-- Whether a word occurs in a text. -/
def occurs (word : String) (cs : List Char) : Bool := Text.contains word.toList cs

/-- The lines of a log that carry a prefix of an outcome, in order: the prefix, and the stripped text after it. -/
def markers (serial : List Char) : List (String × List Char) :=
  (PyText.splitlines serial).flatMap fun line => outcomePrefixes.filterMap fun start =>
    (Text.stripPrefix start.toList (PyText.strip line)).map fun rest => (start, PyText.strip rest)

/-! The words of the updater, of the firmware and of the kernel, in a log in lower case. -/

def saysRollback (cs : List Char) : Bool := occurs "rollback-completed" cs || occurs "rollback completed" cs

def saysDenied (cs : List Char) : Bool :=
  occurs "security violation" cs || occurs "access denied" cs || (occurs "secure boot" cs && occurs "denied" cs)

def saysVerity (cs : List Char) : Bool :=
  occurs "dm-verity" cs && ["corrupt", "verification failed", "root hash"].any fun token => occurs token cs

def saysRauc (cs : List Char) : Bool :=
  occurs "rauc" cs && ["signature", "downgrade", "rollback floor", "rejected"].any fun token => occurs token cs

section Harness

variable (L : Libraries)

/-! ## The harness -/

/-- `qmp_quit_ack_observed` of the harness, on the events after it sent `quit`. -/
def Harness.qmpQuitAckObserved (events : List Fields) : Bool :=
  events.any fun event => (field "event" event).pyEq (.str "SHUTDOWN") ||
    ((field "id" event).pyEq (.str "suderra-production-runtime-quit") && (lookup "return" event).isSome)

/-- `parse_semantic`: what the guest says of itself between two markers. -/
def parseSemantic (serial : List Char) : Fields :=
  match (Text.breakOn semanticBegin.toList serial).bind fun p => Text.breakOn semanticEnd.toList p.2 with
  | none => []
  | some (raw, _) => ((L.loads (PyText.strip raw)).bind asDict).getD []

/-- What the harness says it has seen. -/
structure Observation where
  scenario : String
  source : String
  observedOutcome : Outcome
  observedLayer : String
  signal : String
  deriving DecidableEq, Repr

def observation (scenario source : String) (outcome : Outcome) (signal : String) : Observation :=
  ⟨scenario, source, outcome, (scenarioObservedLayers.lookup scenario).getD outcome.layer, signal⟩

/-- The name of a prefix without the sign that ends it. -/
def signalOfPrefix (start : String) : String := String.ofList (start.toList.reverse.dropWhile (· = '=')).reverse

/-- `classify_observation`. -/
def classifyObservation (scenario : String) (serial : List Char) (semantic : Fields) (returncode : Option Int) : Observation :=
  match (markers serial).findSome? fun p => (Outcome.ofName p.2).map fun outcome => (p.1, outcome) with
  | some (start, outcome) => observation scenario "serial-marker" outcome (signalOfPrefix start)
  | none =>
    let lowered := L.lower serial
    if saysRollback lowered then
      observation scenario "suderra-ota-event" .rollbackCompleted "rollback-completed"
    else if saysDenied lowered then
      observation scenario "secure-boot-event" .firmwareRejected "secure-boot-denied"
    else if saysVerity lowered then observation scenario "kernel-verity-event" .kernelRejected "dm-verity-rejection"
    else if saysRauc lowered then observation scenario "suderra-ota-event" .userspaceRejected "rauc-rejection"
    else if !semantic.isEmpty then observation scenario "guest-semantic" .booted "semantic-json"
    else if returncode = some 0 then observation scenario "qmp-events" .booted "zero-exit"
    else observation scenario "qmp-events" .userspaceRejected "nonzero-exit-or-no-semantic"

/-- How QEMU ended, as the harness records it. -/
structure Termination where
  kind : String
  reason : String
  qmpQuitSent : Bool
  qmpQuitAck : Bool
  timeout : Bool
  exitStatus : Option Int
  acceptable : Bool
  deriving DecidableEq, Repr

/-- One look at a guest that runs: the events that came since the last one, the serial log, and the exit status when the log is
classified and right after. -/
structure Poll where
  events : List Fields
  serial : List Char
  returncode : Option Int
  returncodeAfter : Option Int

/-- The environment and the arguments of a run. A mutation is the record of the artifact of a scenario that has one. -/
structure Args where
  scenario : String
  expected : String
  mutation : Option Fields

/-- What happens to a guest until QEMU is gone. The looks at it are those that fit before the deadline; the answers to `quit` are
read in turns until the time for them is over or the connection breaks, and what the last turn had read then is lost on the check. -/
structure Trace where
  greeting : List Fields
  connected : Bool
  polls : List Poll
  drained : List Fields
  quitRefused : Bool
  answers : List (List Fields)
  lost : List Fields
  outlivesQuit : Bool
  returncode : Int
  serial : List Char

/-- What the polling has seen: the events, and whether the time was over before the outcome was seen or QEMU had ended. -/
def poll (A : Args) (events : List Fields) : List Poll → List Fields × Bool
  | [] => (events, true)
  | p :: ps =>
    let events := events ++ p.events
    let semantic := parseSemantic L p.serial
    let outcome := (classifyObservation L A.scenario p.serial semantic p.returncode).observedOutcome
    if outcome.name = A.expected ∧ (outcome ≠ .booted ∨ semantic ≠ []) then (events, false)
    else if p.returncodeAfter.isSome then (events, false)
    else poll A events ps

/-- Read the answers to `quit` until it is acknowledged: the events, of which those after `start` count, and whether it is. -/
def awaitQuit (start : Nat) (lost events : List Fields) : List (List Fields) → List Fields × Bool
  | [] => (events ++ lost, false)
  | answer :: answers =>
    if Harness.qmpQuitAckObserved ((events ++ answer).drop start) then (events ++ answer, true)
    else awaitQuit start lost (events ++ answer) answers

inductive Status where
  | passed
  | failed
  deriving DecidableEq, Repr

/-- What is written of a run: the logs and the result. -/
structure Result where
  status : Status
  expectedOutcome : String
  observation : Observation
  termination : Termination
  guestFacts : Fields
  mutationArtifact : Option Fields
  serial : List Char
  qmpEvents : List Fields

/-- The termination of QEMU after `quit` was sent or not, and acknowledged or not. -/
def terminationOf (R : Trace) (quitSent quitAck timeout : Bool) : Termination :=
  let timeout := timeout || R.outlivesQuit
  let acceptable := !timeout && quitSent && quitAck
  if R.outlivesQuit then ⟨"timeout", "QEMU did not exit after QMP quit", quitSent, quitAck, timeout, some R.returncode, acceptable⟩
  else
    ⟨if quitSent then "qmp-quit" else "process-exit", "QEMU exited after measured scenario", quitSent, quitAck, timeout,
      some R.returncode, acceptable⟩

/-- `run_scenario`, from the start of QEMU on. -/
def runScenario (A : Args) (R : Trace) : Result :=
  let polled := poll L A R.greeting R.polls
  let events := polled.1 ++ R.drained
  let quitSent := R.connected && !R.quitRefused
  let answered := if quitSent then awaitQuit events.length R.lost events R.answers else (events, false)
  let termination := terminationOf R quitSent answered.2 polled.2
  let semantic := parseSemantic L R.serial
  let observation := classifyObservation L A.scenario R.serial semantic (some R.returncode)
  if A.scenario ≠ "signed-boot" ∧ A.mutation = none then
    ⟨.failed, A.expected, observation,
      { termination with kind := "operator-error", reason := "negative scenario did not provide SUDERRA_MUTATION_ARTIFACT" },
      semantic, A.mutation, R.serial, answered.1⟩
  else
    ⟨if observation.observedOutcome.name = A.expected ∧ termination.acceptable then .passed else .failed, A.expected, observation,
      termination, semantic, A.mutation, R.serial, answered.1⟩

end Harness

/-! ## The validator -/

section Validator

variable (L : Libraries)

/-- `observed_outcome_from_serial`. -/
def observedOutcomeFromSerial (serial : List Char) : Option Outcome :=
  match markers serial with
  | (_, value) :: _ => Outcome.ofName value
  | [] =>
    let lowered := L.lower serial
    if saysRollback lowered then some .rollbackCompleted
    else if saysDenied lowered then some .firmwareRejected
    else if saysVerity lowered then some .kernelRejected
    else if saysRauc lowered then some .userspaceRejected
    else if occurs semanticBegin serial && occurs semanticEnd serial then some .booted
    else none

/-- Whether an event is the answer to `quit`. -/
def isQuitAnswer (event : Fields) : Bool :=
  (field "id" event).pyEq (.str "suderra-production-runtime-quit") && (lookup "return" event).isSome

/-- The scan of `qmp_quit_ack_observed`, after an answer to `quit` or before one. -/
def quitAckFrom (observed : Bool) : List Value → Bool
  | [] => observed
  | .dict event :: events =>
    if isQuitAnswer event then quitAckFrom true events
    else if (field "event" event).pyEq (.str "SHUTDOWN") && observed then true
    else quitAckFrom observed events
  | _ :: events => quitAckFrom observed events

/-- `qmp_quit_ack_observed` of the validator. -/
def qmpQuitAckObserved (events : Value) : Bool := events.asList.any (quitAckFrom false)

end Validator

/-! ## Where they agree -/

section Agreement

variable {L : Libraries}

/-- Whether the words of a log decide what was seen. -/
def saysEvent (cs : List Char) : Bool := saysRollback cs || saysDenied cs || saysVerity cs || saysRauc cs

/-- A log decides what a guest ended in: its first line with a prefix names an outcome, or it has no such line and its words say one,
or the guest says something of itself, or QEMU ended without an error and both markers are there. -/
def Decides (L : Libraries) (serial : List Char) (returncode : Option Int) : Prop :=
  match markers serial with
  | (_, value) :: _ => (Outcome.ofName value).isSome = true
  | [] => saysEvent (L.lower serial) = true ∨ parseSemantic L serial ≠ [] ∨
      (returncode = some 0 ∧ occurs semanticBegin serial = true ∧ occurs semanticEnd serial = true)

/-- A guest that says something of itself has both markers in its log. -/
theorem occurs_of_parseSemantic {serial : List Char} (h : parseSemantic L serial ≠ []) :
    occurs semanticBegin serial = true ∧ occurs semanticEnd serial = true := by
  unfold parseSemantic at h
  split at h
  · exact absurd rfl h
  · next raw rest hcut =>
    obtain ⟨⟨before, after⟩, hbegin, hend⟩ := Option.bind_eq_some_iff.1 hcut
    obtain rfl := Text.breakOn_eq_some hbegin
    obtain rfl := Text.breakOn_eq_some hend
    exact ⟨Text.contains_iff.2 ⟨before, _, rfl⟩,
      Text.contains_iff.2 ⟨before ++ semanticBegin.toList ++ raw, rest, by simp⟩⟩

/-- The validator sees in a log what the harness saw exactly when the log decides it. -/
theorem observedOutcome_eq_iff {scenario : String} {serial : List Char} {returncode : Option Int} :
    observedOutcomeFromSerial L serial =
        some (classifyObservation L scenario serial (parseSemantic L serial) returncode).observedOutcome ↔
      Decides L serial returncode := by
  unfold observedOutcomeFromSerial classifyObservation Decides
  cases hmarkers : markers serial with
  | cons marker rest =>
    obtain ⟨start, value⟩ := marker
    cases hvalue : Outcome.ofName value with
    | some outcome => simp [hvalue, observation]
    | none => simp [hvalue]
  | nil =>
    simp only [List.findSome?_nil]
    by_cases hevent : saysEvent (L.lower serial) = true
    · simp only [hevent, true_or, iff_true]
      simp only [saysEvent, Bool.or_eq_true] at hevent
      split_ifs <;> simp_all [observation]
    · simp only [saysEvent, Bool.or_eq_true, not_or, Bool.not_eq_true] at hevent
      obtain ⟨⟨⟨hrollback, hdenied⟩, hverity⟩, hrauc⟩ := hevent
      simp only [saysEvent, hrollback, hdenied, hverity, hrauc, Bool.or_self, Bool.false_eq_true, if_false, false_or]
      by_cases hsemantic : parseSemantic L serial = []
      · by_cases hcode : returncode = some 0
        · by_cases hmarked : (occurs semanticBegin serial && occurs semanticEnd serial) = true
          · simp_all [observation]
          · simp_all [observation]
        · by_cases hmarked : (occurs semanticBegin serial && occurs semanticEnd serial) = true
          · simp_all [observation]
          · simp_all [observation]
      · obtain ⟨hbegin, hend⟩ := occurs_of_parseSemantic hsemantic
        simp [hsemantic, hbegin, hend, observation]

theorem quitAckFrom_true (events : List Value) : quitAckFrom true events = true := by
  induction events with
  | nil => rfl
  | cons event events ih =>
    cases event with
    | dict fields =>
      rw [quitAckFrom]
      split_ifs <;> simp [ih]
    | _ => exact ih

/-- The validator asks for an answer to `quit` and for nothing else. -/
theorem quitAckFrom_false (events : List Fields) :
    quitAckFrom false (events.map .dict) = true ↔ ∃ event ∈ events, isQuitAnswer event = true := by
  induction events with
  | nil => simp [quitAckFrom]
  | cons event events ih =>
    simp only [List.map_cons, quitAckFrom, List.mem_cons, exists_eq_or_imp]
    by_cases hevent : isQuitAnswer event = true
    · simp [hevent, quitAckFrom_true]
    · simp [hevent, ih]

theorem qmpQuitAckObserved_iff (events : List Fields) :
    qmpQuitAckObserved (.list (events.map .dict)) = true ↔ ∃ event ∈ events, isQuitAnswer event = true := quitAckFrom_false events

/-- What a run records of the log is what its last reading says. -/
theorem observation_runScenario (A : Args) (R : Trace) :
    (runScenario L A R).serial = R.serial ∧
      (runScenario L A R).observation = classifyObservation L A.scenario R.serial (parseSemantic L R.serial) (some R.returncode) := by
  unfold runScenario
  extract_lets
  split
  · exact ⟨rfl, rfl⟩
  · exact ⟨rfl, rfl⟩

def asciiLibraries : Libraries where
  sha256 bytes := bytes.take 32
  loads := JsonText.read
  repr _ := ""
  lower cs := cs.map Char.toLower

def badSignature : Args where
  scenario := "rauc-bad-signature-rejection"
  expected := "userspace-rejected"
  mutation := some [("role", .str "bundle"), ("path", .str "bundle.raucb")]

/-- A guest whose console stays empty; QEMU answers `quit` and ends with an error. -/
def silentGuest : Trace where
  greeting := []
  connected := true
  polls := [⟨[], [], none, none⟩]
  drained := []
  quitRefused := false
  answers := [[[("id", .str "suderra-production-runtime-quit"), ("return", .dict [])]]]
  lost := []
  outlivesQuit := false
  returncode := 1
  serial := []

end Agreement

end SuderraOs.Runtime
