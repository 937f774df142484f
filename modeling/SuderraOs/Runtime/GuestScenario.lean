import SuderraOs.Lib.Arguments
import SuderraOs.Lib.PyText
import SuderraOs.Ota.Main
import SuderraOs.Ota.ManifestFile

/-!
# The scenario driver in the guest

`suderra-runtime-scenario` reads the name of a scenario from the firmware, carries it out and writes an outcome to the console. For the
downgrade it calls `suderra-ota` with the manifest that `produce_downgrade_manifest` made and takes the exit status for the verdict. The
status says nothing of why the call failed, and the call fails before any manifest is read.
-/

namespace SuderraOs.Runtime

open Arguments Ota

/-! ## The command line of `suderra-ota` -/

def verboseFlag : String × Option Char := ("verbose", some 'v')

def installSpec : Spec := ⟨[("no-reboot", none), verboseFlag], ["manifest-pubkey"], 2⟩

def statusSpec : Spec := ⟨[("json", none), verboseFlag], [], 0⟩

def rollbackSpec : Spec := ⟨[("no-reboot", none), verboseFlag], ["reason"], 0⟩

def markGoodSpec : Spec := ⟨[verboseFlag], ["version"], 0⟩

def commandSpec : String → Option Spec
  | "install" => some installSpec
  | "status" => some statusSpec
  | "rollback" => some rollbackSpec
  | "mark-good" => some markGoodSpec
  | _ => none

section CommandLine

variable (envFlag : String → Option Bool) (env : Env)

/-- `no_reboot`, by the command line or by the environment; `envFlag` is what the flag makes of a text. -/
def noReboot (m : Matches) : Except Refusal Bool :=
  if m.flags.contains "no-reboot" then .ok true
  else
    match env "SUDERRA_OTA_NO_REBOOT" with
    | none => .ok false
    | some text => orError (.usage text) (envFlag text)

/-- The fields of a subcommand. -/
def commandOf : String × Matches → Except Refusal Command
  | ("install", m) =>
    match m.positionals with
    | [manifest, bundle] =>
      (noReboot envFlag env m).map fun quiet =>
        .install ⟨manifest, bundle, (m.options.lookup "manifest-pubkey").or (env "SUDERRA_OTA_MANIFEST_PUBKEY"), quiet⟩
    | _ => .error (.usage "")
  | ("rollback", m) =>
    match m.options.lookup "reason" with
    | some reason => (noReboot envFlag env m).map fun quiet => .rollback ⟨reason, quiet⟩
    | none => .error (.usage "")
  | ("mark-good", m) => .ok (.markGood ⟨m.options.lookup "version"⟩)
  | (_, _) => .ok .status

/-- `Cli::parse`. -/
def parseCli (words : List String) : Except Refusal Command :=
  (subcommand ⟨[verboseFlag], [], 0⟩ commandSpec words).bind (commandOf envFlag env)

end CommandLine

/-! ## The driver -/

/-- What the driver finds. `files` are the files as they are once the payload is mounted, `io` is what a call of `suderra-ota` finds
besides its manifest, and `rauc` tells whether a call of `rauc` succeeds. -/
structure Guest where
  console : Bool
  fwcfg : Option (List UInt8)
  payloadDevice : Bool
  mounts : Bool
  files : String → Option (List UInt8)
  collector : Bool
  otaPresent : Bool
  packages : Ctx
  envFlag : String → Option Bool
  io : List String → Io
  rauc : List String → Bool

/-- A line on the console. -/
inductive Line where
  | log (text : String)
  | facts
  | rollbackCompleted
  | outcome (name : String)
  deriving DecidableEq, Repr

/-- The console, the calls of `suderra-ota` with the device that each one found, and the device. -/
structure Progress where
  lines : List Line
  calls : List (List String × Device)
  device : Device

def payloadMnt : String := "/run/suderra-scenario-payload"

def bundlePath : String := payloadMnt ++ "/bundle.raucb"

def downgradePath : String := payloadMnt ++ "/downgrade-manifest.json"

section Driver

variable (G : Guest)

/-- What a call of `suderra-ota` finds. -/
def Guest.callIo (words : List String) : Command → Io
  | .install args =>
    { G.io words with
      manifest := match G.files args.manifest with
        | none => .unreadable
        | some bytes => parseManifest bytes }
  | _ => G.io words

/-- The exit status of `suderra-ota`, and the device after it. -/
def otaStatus (words : List String) (dev : Device) : Nat × Device :=
  match parseCli G.envFlag (G.io words).env words with
  | .error refusal => (refusal.status, dev)
  | .ok command =>
    match main G.packages ⟨command, G.callIo words command⟩ dev with
    | (.ok (), dev') => (0, dev')
    | (.error _, dev') => (1, dev')

/-- A line on the console, if that can be opened. -/
def writeLine (line : Line) (p : Progress) : Progress := if G.console then { p with lines := p.lines ++ [line] } else p

def log (text : String) : Progress → Progress := writeLine G (.log ("suderra-runtime-scenario: " ++ text))

def emit (outcome : String) : Progress → Progress := writeLine G (.outcome outcome)

def collectFacts (p : Progress) : Progress := if G.collector then writeLine G .facts p else p

/-- The name of the scenario; the shell drops the characters that `tr` deletes. -/
def readScenario : List UInt8 := (G.fwcfg.getD []).filter fun b => b ≠ 0 && b ≠ 13 && b ≠ 10

def mountPayload (p : Progress) : Bool × Progress :=
  if !G.payloadDevice then (false, log G "payload sürücüsü yok" p)
  else if G.mounts then (true, p)
  else (false, log G "payload mount edilemedi" p)

/-- `suderra-ota` with its output on the console: where that cannot be opened it is not called. -/
def suderraOta (words : List String) (p : Progress) : Bool × Progress :=
  if G.console && G.otaPresent then
    let (status, dev) := otaStatus G words p.device
    (status = 0, { p with calls := p.calls ++ [(words, p.device)], device := dev })
  else (false, p)

/-- `rauc` with its output on the console. -/
def raucSucceeds (words : List String) : Bool := G.console && G.rauc words

/-- `suderra-ota install` of the bundle, or `rauc install`. -/
def installBundle (p : Progress) : Bool × Progress :=
  match suderraOta G ["install", bundlePath] p with
  | (true, p) => (true, p)
  | (false, p) => (raucSucceeds G ["install", bundlePath], p)

/-- A branch that needs a file of the payload. -/
def withPayload (path missing : String) (branch : Progress → Progress) (p : Progress) : Progress :=
  match mountPayload G p with
  | (true, p) => if (G.files path).isSome then branch p else emit G "userspace-rejected" (log G missing p)
  | (false, p) => emit G "userspace-rejected" (log G missing p)

def bootedBranch (p : Progress) : Progress := emit G "booted" (collectFacts G p)

def raucGoodUpdateBranch : Progress → Progress := withPayload G bundlePath "bundle yok" fun p =>
  match installBundle G p with
  | (true, p) => bootedBranch G p
  | (false, p) => emit G "userspace-rejected" (log G "geçerli bundle kurulamadı" p)

def raucBadSignatureBranch : Progress → Progress := withPayload G bundlePath "bundle yok" fun p =>
  match installBundle G p with
  | (true, p) => emit G "booted" (log G "GÜVENLİK: kötü imzalı bundle kabul edildi" p)
  | (false, p) => emit G "userspace-rejected" p

def raucHealthRollbackBranch : Progress → Progress := withPayload G bundlePath "bundle yok" fun p =>
  match suderraOta G ["rollback", "--reason", "health-gate"] (installBundle G p).2 with
  | (true, p) => emit G "rollback-completed" (writeLine G .rollbackCompleted p)
  | (false, p) =>
    if raucSucceeds G ["status", "mark-bad"] then emit G "rollback-completed" (writeLine G .rollbackCompleted p)
    else emit G "userspace-rejected" (log G "rollback başarısız" p)

def antiRollbackBranch : Progress → Progress := withPayload G downgradePath "manifest yok" fun p =>
  match suderraOta G ["install", "--manifest", downgradePath] p with
  | (true, p) => emit G "booted" (log G "GÜVENLİK: downgrade manifest kabul edildi" p)
  | (false, p) => emit G "userspace-rejected" p

/-- `suderra-runtime-scenario`; `name` is the scenario as a text for the log. -/
def suderraRuntimeScenario (name : String) (p : Progress) : Progress :=
  let scenario := readScenario G
  if scenario = [] then log G "fw_cfg senaryosu yok; no-op" p
  else
    let p := log G s!"senaryo: {name}" p
    if scenario = Utf8.encode "signed-boot" ∨ scenario = Utf8.encode "data-luks-swtpm" then bootedBranch G p
    else if scenario = Utf8.encode "rauc-good-update" then raucGoodUpdateBranch G p
    else if scenario = Utf8.encode "rauc-bad-signature-rejection" then raucBadSignatureBranch G p
    else if scenario = Utf8.encode "rauc-health-rollback" then raucHealthRollbackBranch G p
    else if scenario = Utf8.encode "anti-rollback-downgrade-rejection" then antiRollbackBranch G p
    else log G s!"bilinmeyen/guest-dışı senaryo: {name}; no-op" p

end Driver

/-! ## The manifest that is below the floor -/

/-- What the producer asks of Python and `openssl`. -/
structure Producer where
  unicode : PyText.Unicode
  repr : Double → List Char
  opensslPresent : Bool
  sign : List UInt8 → List UInt8 → Option (List UInt8)

/-- A component of a version; nothing when it is no number. -/
def versionComponent (U : PyText.Unicode) (chunk : List Char) : Option Nat :=
  if chunk ≠ [] ∧ chunk.all (fun c => (PyText.digitOf U c).isSome) = true then (PyText.parseInt U chunk).map Int.toNat else none

/-- `_version_tuple`; nothing when it raises. -/
def versionTuple (U : PyText.Unicode) (version : String) : Option (List Nat) :=
  let core := (version.toList.dropWhile fun c => c = 'v' ∨ c = 'V').takeWhile (· ≠ '-')
  (core.splitOn '.').mapM (versionComponent U)

/-- The manifest, its members in the order of their names. -/
def downgradeManifest (package downgradeVersion rollbackFloor : String) : Value :=
  .dict [("package", .str package), ("rollback_floor", .str rollbackFloor), ("schema", .str manifestSchema),
    ("version", .str downgradeVersion)]

/-- `produce_downgrade_manifest`: the manifest and its signature, which stand in two files; nothing when it raises. -/
def produceDowngradeManifest (P : Producer) (package downgradeVersion rollbackFloor : String) (signKey : Option (List UInt8)) :
    Option (List UInt8 × List UInt8) := do
  guard P.opensslPresent
  let key ← signKey.filter (· ≠ [])
  let version ← versionTuple P.unicode downgradeVersion
  let floor ← versionTuple P.unicode rollbackFloor
  guard (version < floor)
  let payload := Utf8.encode (String.ofList (JsonText.write (JsonText.compactAscii P.repr) 0
    (downgradeManifest package downgradeVersion rollbackFloor)))
  let signature ← P.sign key payload
  some (payload, signature)

/-- `suderra-ota` cannot parse what the producer makes, whatever the version and the floor: it has no `schema_version`. -/
theorem parseManifest_produced {P : Producer} {package downgradeVersion rollbackFloor : String} {signKey : Option (List UInt8)}
    {payload signature : List UInt8}
    (h : produceDowngradeManifest P package downgradeVersion rollbackFloor signKey = some (payload, signature)) :
    parseManifest payload = .malformed := by
  simp only [produceDowngradeManifest, Option.bind_eq_bind, Option.bind_eq_some_iff, Option.some.injEq, Prod.mk.injEq] at h
  obtain ⟨_, _, _, _, _, _, _, _, _, _, _, _, rfl, _⟩ := h
  have hread : JsonText.read (JsonText.write (JsonText.compactAscii P.repr) 0
      (downgradeManifest package downgradeVersion rollbackFloor)) = some (downgradeManifest package downgradeVersion rollbackFloor) :=
    JsonText.read_write (JsonText.compactAscii_lawful P.repr) rfl
  have hno : SignedManifest.ofValue (downgradeManifest package downgradeVersion rollbackFloor) = none := rfl
  simp only [parseManifest, Utf8.decode_encode, String.toList_ofList, hread, Option.bind_some, hno]

/-! ## What the outcome says -/

/-- `suderra-ota` parsed the manifest of a call, accepted its signature and refused it because its version is below the floor. -/
def RefusedBelowFloor (G : Guest) (call : List String × Device) : Prop :=
  ∃ args state manifest, parseCli G.envFlag (G.io call.1).env call.1 = .ok (.install args) ∧
    loadState (G.io call.1).env (G.io call.1).load call.2 = .ok state ∧
    loadManifest (G.callIo call.1 (.install args)) args.manifest = .ok manifest ∧
    verifyManifestSignature G.packages (G.callIo call.1 (.install args)) manifest args.manifestPubkey = .ok () ∧
    compareVersions manifest.version state.rollbackFloor = .ok .lt ∧
    verifyManifestPolicy G.packages (G.callIo call.1 (.install args)) manifest state = .error
      s!"refusing downgrade: manifest version {manifest.version} is below rollback floor {state.rollbackFloor}"

/-- The outcome of the downgrade scenario says what happened. -/
def RejectionIsGenuine (G : Guest) (dev : Device) : Prop :=
  Line.outcome "userspace-rejected" ∈ (antiRollbackBranch G ⟨[], [], dev⟩).lines ↔
    ∃ call ∈ (antiRollbackBranch G ⟨[], [], dev⟩).calls, RefusedBelowFloor G call

/-- `suderra-ota install` has no option `--manifest`. -/
theorem unknown_manifest : Unknown installSpec "--manifest" where
  long := ⟨"manifest", none, by decide, by decide, by decide, by decide⟩
  ne := by decide

theorem parseCli_manifest (envFlag : String → Option Bool) (env : Env) (words : List String) :
    parseCli envFlag env ("install" :: "--manifest" :: words) = .error (.usage "--manifest") := by
  rw [parseCli, subcommand_unknown rfl unknown_manifest]
  rfl

section Branch

variable {G : Guest}

theorem calls_writeLine (line : Line) (p : Progress) : (writeLine G line p).calls = p.calls := by
  unfold writeLine
  split <;> rfl

/-- A branch that needs a file of the payload runs, or it ends with the rejection. -/
theorem withPayload_cases {path missing : String} {branch : Progress → Progress} (P : Progress → Prop) (p : Progress)
    (hbranch : ∀ q, q.calls = p.calls → P (branch q)) (hmissing : ∀ q, q.calls = p.calls → P (emit G "userspace-rejected" q)) :
    P (withPayload G path missing branch p) := by
  have hlog : ∀ text q, q.calls = p.calls → (log G text q).calls = p.calls := fun text q hq => (calls_writeLine _ q).trans hq
  have hmount : (mountPayload G p).2.calls = p.calls := by
    unfold mountPayload
    split_ifs
    · exact hlog _ p rfl
    · rfl
    · exact hlog _ p rfl
  unfold withPayload
  split
  · next q heq =>
    have hq : q.calls = p.calls := by rw [← hmount, heq]
    split_ifs
    · exact hbranch q hq
    · exact hmissing _ (hlog missing q hq)
  · next q heq =>
    have hq : q.calls = p.calls := by rw [← hmount, heq]
    exact hmissing _ (hlog missing q hq)

/-- The call of the downgrade scenario ends with the usage, and nothing is read. -/
theorem suderraOta_manifest (p : Progress) : ∃ q, suderraOta G ["install", "--manifest", downgradePath] p = (false, q) ∧
    q.calls ⊆ (["install", "--manifest", downgradePath], p.device) :: p.calls := by
  have hstatus : otaStatus G ["install", "--manifest", downgradePath] p.device = (2, p.device) := by
    rw [otaStatus, parseCli_manifest]
    rfl
  unfold suderraOta
  rw [hstatus]
  split_ifs
  · refine ⟨_, rfl, ?_⟩
    intro call hcall
    rcases List.mem_append.1 hcall with hcall | hcall
    · exact List.mem_cons_of_mem _ hcall
    · exact List.mem_singleton.1 hcall ▸ List.mem_cons_self
  · exact ⟨p, rfl, List.subset_cons_self _ _⟩

theorem mem_emit (hconsole : G.console = true) (outcome : String) (p : Progress) : Line.outcome outcome ∈ (emit G outcome p).lines := by
  rw [emit, writeLine, if_pos hconsole]
  exact List.mem_append_right _ List.mem_cons_self

/-- With a console the scenario always emits the rejection. -/
theorem mem_antiRollbackBranch (hconsole : G.console = true) (p : Progress) :
    Line.outcome "userspace-rejected" ∈ (antiRollbackBranch G p).lines := by
  refine withPayload_cases (fun q => Line.outcome "userspace-rejected" ∈ q.lines) p ?_ ?_
  · intro q _
    obtain ⟨q', hcall, _⟩ := suderraOta_manifest (G := G) q
    simp only [hcall]
    exact mem_emit hconsole _ q'
  · exact fun q _ => mem_emit hconsole _ q

/-- Without a console nothing is emitted. -/
theorem lines_antiRollbackBranch (hconsole : G.console = false) (p : Progress) : (antiRollbackBranch G p).lines = p.lines := by
  have hwrite : ∀ line q, writeLine G line q = q := fun line q => by simp [writeLine, hconsole]
  have hmount : (mountPayload G p).2 = p := by
    unfold mountPayload
    split_ifs <;> first | rfl | exact hwrite _ p
  have hcall : ∀ q, suderraOta G ["install", "--manifest", downgradePath] q = (false, q) := fun q => by simp [suderraOta, hconsole]
  unfold antiRollbackBranch withPayload
  split
  · next q heq =>
    obtain rfl : q = p := by rw [← hmount, heq]
    simp only [hcall, emit, log, hwrite, ite_self]
  · next q heq =>
    obtain rfl : q = p := by rw [← hmount, heq]
    simp only [emit, log, hwrite]

/-- Whatever the scenario has called, it was no call that parsed a manifest. -/
theorem not_refusedBelowFloor {dev : Device} {call : List String × Device} (hcall : call ∈ (antiRollbackBranch G ⟨[], [], dev⟩).calls) :
    ¬ RefusedBelowFloor G call := by
  have hwords : ∀ call ∈ (antiRollbackBranch G ⟨[], [], dev⟩).calls, call.1 = ["install", "--manifest", downgradePath] := by
    refine withPayload_cases (fun q => ∀ call ∈ q.calls, call.1 = ["install", "--manifest", downgradePath]) _ ?_ ?_
    · intro q hq call hcall
      obtain ⟨q', hota, hcalls⟩ := suderraOta_manifest (G := G) q
      simp only [hota, emit, calls_writeLine] at hcall
      rcases List.mem_cons.1 (hcalls hcall) with rfl | hmem
      · rfl
      · simp [hq] at hmem
    · intro q hq call hcall
      rw [emit, calls_writeLine, hq] at hcall
      simp at hcall
  rintro ⟨args, _, _, hparse, _⟩
  rw [hwords call hcall, parseCli_manifest] at hparse
  cases hparse

end Branch

/-- The outcome of the downgrade scenario says what happened only where it is not written. -/
theorem rejection_genuine_iff (G : Guest) (dev : Device) : RejectionIsGenuine G dev ↔ G.console = false := by
  have hnever : ¬ ∃ call ∈ (antiRollbackBranch G ⟨[], [], dev⟩).calls, RefusedBelowFloor G call :=
    fun ⟨_, hcall, hrefused⟩ => not_refusedBelowFloor hcall hrefused
  unfold RejectionIsGenuine
  constructor
  · intro hiff
    rw [← Bool.not_eq_true]
    exact fun hconsole => hnever (hiff.1 (mem_antiRollbackBranch hconsole _))
  · intro hconsole
    rw [lines_antiRollbackBranch hconsole]
    exact iff_of_false (by simp) hnever

/-! ## A guest with the manifest of the producer -/

/-- A producer with a key that signs everything with 64 zeros. -/
def sampleProducer : Producer where
  unicode := ⟨fun _ => none, id⟩
  repr := fun _ => []
  opensslPresent := true
  sign := fun _ _ => some (List.replicate 64 0)

/-- The payload holds the manifest of the producer; the device has the floor, and its key is the one of the signature. -/
def sampleGuest : Guest where
  console := true
  fwcfg := some (Utf8.encode "anti-rollback-downgrade-rejection")
  payloadDevice := true
  mounts := true
  files := fun path =>
    if path = downgradePath then (produceDowngradeManifest sampleProducer "suderra-os" "1.0.0" "1.1.0" (some sampleKey)).map (·.1)
    else none
  collector := true
  otaPresent := true
  packages := sampleCtx
  envFlag := fun _ => none
  io := fun _ => { Io.ordinary "rauc.slot=A" with publicKey := fun _ => some sampleKey }
  rauc := fun _ => true

/-- The producer has made a manifest below the floor, the driver emits the rejection, and `suderra-ota` has refused nothing. -/
theorem rejection_without_refusal :
    (sampleGuest.files downgradePath).isSome = true ∧
      ¬ RejectionIsGenuine sampleGuest { Device.fresh with state := .parsed (.settled "1.1.0") } := by
  constructor
  · decide +kernel
  · intro hgenuine
    obtain ⟨call, hcall, hrefused⟩ := hgenuine.1 (mem_antiRollbackBranch rfl _)
    exact not_refusedBelowFloor hcall hrefused

end SuderraOs.Runtime
