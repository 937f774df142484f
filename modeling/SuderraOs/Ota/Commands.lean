import SuderraOs.Ota.Manifest
import SuderraOs.Ota.Slot

/-!
# The commands

`install`, `status`, `rollback` and `mark_good`, and `main`, which records the last event after an error. Each command that
writes comes with the list of its ends (`InstallEnd`, `RollbackEnd`, `MarkGoodEnd`): what it found, what it gives and what it
leaves on the device. Everything proved of runs is derived from these lists.
-/

namespace SuderraOs.Ota

open Text

structure InstallArgs where
  manifest : String
  bundle : String
  manifestPubkey : Option String
  noReboot : Bool

structure RollbackArgs where
  reason : String
  noReboot : Bool

structure MarkGoodArgs where
  version : Option String

/-- The device after a RAUC command was issued. -/
def Device.issue (dev : Device) (call : RaucCall) (succeeded : Bool) : Device :=
  { dev with rauc := (call, succeeded) :: dev.rauc }

/-- The device after `state.json` was replaced. -/
def Device.save (dev : Device) (state : OtaState) : Device := { dev with state := .parsed state }

/-- The device after the mirror of the floor was replaced. -/
def Device.mirrorFloor (dev : Device) (floor : String) : Device := { dev with mirror := some (floor ++ "\n") }

@[simp] theorem Device.save_state (dev : Device) (state : OtaState) : (dev.save state).state = .parsed state := rfl

@[simp] theorem Device.issue_pendingVersion (dev : Device) (call : RaucCall) (b : Bool) :
    (dev.issue call b).pendingVersion = dev.pendingVersion := rfl

/-! ## `install` -/

/-- What `install` checks before it hands the bundle to RAUC: the state it loaded and the manifest it accepted. -/
def verifyInstall (Γ : Ctx) (io : Io) (args : InstallArgs) (dev : Device) : Except Error (OtaState × SignedManifest) := do
  let state ← loadState io.env io.load dev
  let manifest ← loadManifest io args.manifest
  verifyManifestSignature Γ io manifest args.manifestPubkey
  verifyManifestPolicy Γ io manifest state
  verifyBundle io manifest args.bundle
  .ok (state, manifest)

/-- The state an install records. -/
def installedState (io : Io) (args : InstallArgs) (manifest : SignedManifest) (slot : String) (state : OtaState) :
    OtaState :=
  { state with
    pendingVersion := some manifest.version
    pendingBootSlot := some slot
    rebootRequired := !args.noReboot
    lastError := none
    lastEvent := some (eventJson io "install" "passed"
      (.obj [("bundle", .obj [("bytes", .num manifest.bundle.bytes), ("path", .str args.bundle),
          ("sha256", .str manifest.bundle.sha256)]),
        ("pending_boot_slot", .str slot), ("reboot_requested", .bool !args.noReboot),
        ("target", .str manifest.target), ("version", .str manifest.version)]) none) }

/-- The slot recorded after an install; `install` replaces the message of its failure by its own context. -/
def provenPendingSlot (io : Io) : Except Error String :=
  match pendingBootSlotAfterInstall io with
  | .ok slot => .ok slot
  | .error _ => .error "cannot prove inactive RAUC slot selected for next boot"

def install (Γ : Ctx) (io : Io) (args : InstallArgs) : OtaM Unit := do
  let (state, manifest) ← Effect.read (verifyInstall Γ io args)
  runRauc io (.install args.bundle manifest) "rauc install failed"
  let slot ← Effect.ofExcept (provenPendingSlot io)
  saveState io.env io.save (installedState io args manifest slot state)
  Effect.ofExcept (if args.noReboot then .ok () else requestReboot io)

/-! ## `rollback` -/

def rolledBackState (io : Io) (args : RollbackArgs) (state : OtaState) : OtaState :=
  { state with
    pendingVersion := none
    pendingBootSlot := none
    rebootRequired := !args.noReboot
    lastError := some args.reason
    lastEvent := some (eventJson io "rollback" "passed"
      (.obj [("reason", .str args.reason), ("reboot_requested", .bool !args.noReboot)]) none) }

def rollback (io : Io) (args : RollbackArgs) : OtaM Unit := do
  Effect.ofExcept (if trim args.reason = "" then .error "rollback --reason must be non-empty" else .ok ())
  runRauc io .markBad "rauc mark-bad failed"
  let state ← Effect.read (loadState io.env io.load)
  saveState io.env io.save (rolledBackState io args state)
  Effect.ofExcept (if args.noReboot then .ok () else requestReboot io)

/-! ## `mark_good` -/

/-- The version to mark good: the argument, else the pending one; it is the pending one when there is one. -/
def versionToMark (args : MarkGoodArgs) (state : OtaState) : Except Error String :=
  match args.version.or state.pendingVersion with
  | none => .error "no pending version to mark good"
  | some version =>
    match state.pendingVersion with
    | none => .ok version
    | some pending =>
      if pending ≠ version then
        .error s!"mark-good version {version} does not match pending version {pending}"
      else .ok version

/-- The running slot is the pending one, when there is one. -/
def checkActiveSlot (io : Io) (state : OtaState) : Except Error Unit :=
  match state.pendingBootSlot with
  | none => .ok ()
  | some expectedSlot =>
    match activeBootSlot io with
    | none => .error s!"cannot prove active boot slot for pending slot {expectedSlot}"
    | some activeSlot =>
      if activeSlot ≠ expectedSlot then
        .error s!"active boot slot {activeSlot} does not match pending slot {expectedSlot}"
      else .ok ()

/-- What `mark_good` checks before it tells RAUC: the state it loaded and the version to mark good. -/
def verifyMarkGood (io : Io) (args : MarkGoodArgs) (dev : Device) : Except Error (OtaState × String) := do
  let state ← loadState io.env io.load dev
  let version ← versionToMark args state
  checkActiveSlot io state
  refuseBelow version state.rollbackFloor
    s!"refusing to mark version {version} good below rollback floor {state.rollbackFloor}"
  .ok (state, version)

/-- The floor rises to a version above it. -/
def raisedFloor (version : String) (state : OtaState) : Except Error String :=
  match compareVersions version state.rollbackFloor with
  | .error e => .error e
  | .ok .gt => .ok version
  | .ok _ => .ok state.rollbackFloor

def markedGoodState (io : Io) (version floor : String) (state : OtaState) : OtaState :=
  { state with
    currentVersion := version
    rollbackFloor := floor
    pendingVersion := none
    pendingBootSlot := none
    rebootRequired := false
    lastError := none
    lastEvent := some (eventJson io "mark-good" "passed"
      (.obj [("boot_slot", ((activeBootSlot io).map Json.str).getD .null), ("rollback_floor", .str floor),
        ("version", .str version)]) none) }

def markGood (io : Io) (args : MarkGoodArgs) : OtaM Unit := do
  let (state, version) ← Effect.read (verifyMarkGood io args)
  runRauc io .markGood "rauc mark-good failed"
  let floor ← Effect.ofExcept (raisedFloor version state)
  saveState io.env io.save (markedGoodState io version floor state)
  persistRollbackFloor io floor

/-! ## `main` -/

inductive Command where
  | install (args : InstallArgs)
  | status
  | rollback (args : RollbackArgs)
  | markGood (args : MarkGoodArgs)

structure Invocation where
  command : Command
  io : Io

/-- `run`: the command of an invocation. `status` prints the state it loaded. -/
def run (Γ : Ctx) (inv : Invocation) : OtaM Unit :=
  match inv.command with
  | .install args => install Γ inv.io args
  | .status => do
    let _ ← Effect.read (loadState inv.io.env inv.io.load)
    pure ()
  | .rollback args => rollback inv.io args
  | .markGood args => markGood inv.io args

/-- `main`: an error is recorded as the last event, as far as that succeeds. The output is what the command gave. -/
def main (Γ : Ctx) (inv : Invocation) (dev : Device) : Except Error Unit × Device :=
  match (run Γ inv).run dev with
  | (.ok (), dev') => (.ok (), dev')
  | (.error e, dev') => (.error e, ((persistLastEvent inv.io e).run dev').2)

/-! ## The ends of the commands -/

/-- Whether a write replaces its file. -/
def WriteResult.isDone : WriteResult → Bool
  | .done => true
  | _ => false

section ends

variable (Γ : Ctx) (io : Io) (dev : Device)

/-- How an install ends on a device. -/
inductive InstallEnd (args : InstallArgs) : Except Error Unit → Device → Prop where
  | refused (e : Error) : verifyInstall Γ io args dev = .error e → InstallEnd args (.error e) dev
  | raucFails (state : OtaState) (manifest : SignedManifest) (e : Error) :
      verifyInstall Γ io args dev = .ok (state, manifest) → io.raucSucceeds = false →
      InstallEnd args (.error e) (dev.issue (.install args.bundle manifest) false)
  | notProven (state : OtaState) (manifest : SignedManifest) (e e' : Error) :
      verifyInstall Γ io args dev = .ok (state, manifest) → io.raucSucceeds = true →
      pendingBootSlotAfterInstall io = .error e' →
      InstallEnd args (.error e) (dev.issue (.install args.bundle manifest) true)
  | saveFails (state : OtaState) (manifest : SignedManifest) (slot : String) (e : Error) :
      verifyInstall Γ io args dev = .ok (state, manifest) → io.raucSucceeds = true →
      pendingBootSlotAfterInstall io = .ok slot → io.save.isDone = false →
      InstallEnd args (.error e) (dev.issue (.install args.bundle manifest) true)
  | recorded (state : OtaState) (manifest : SignedManifest) (slot : String) :
      verifyInstall Γ io args dev = .ok (state, manifest) → io.raucSucceeds = true →
      pendingBootSlotAfterInstall io = .ok slot → io.save.isDone = true →
      InstallEnd args (if args.noReboot then .ok () else requestReboot io)
        ((dev.issue (.install args.bundle manifest) true).save (installedState io args manifest slot state))

/-- How a rollback ends on a device. -/
inductive RollbackEnd (args : RollbackArgs) : Except Error Unit → Device → Prop where
  | refused (e : Error) : trim args.reason = "" → RollbackEnd args (.error e) dev
  | raucFails (e : Error) : trim args.reason ≠ "" → io.raucSucceeds = false →
      RollbackEnd args (.error e) (dev.issue .markBad false)
  | stateKept (e : Error) : trim args.reason ≠ "" → io.raucSucceeds = true →
      RollbackEnd args (.error e) (dev.issue .markBad true)
  | recorded (state : OtaState) : trim args.reason ≠ "" → io.raucSucceeds = true →
      loadState io.env io.load dev = .ok state →
      RollbackEnd args (if args.noReboot then .ok () else requestReboot io)
        ((dev.issue .markBad true).save (rolledBackState io args state))

/-- How a mark-good ends on a device. -/
inductive MarkGoodEnd (args : MarkGoodArgs) : Except Error Unit → Device → Prop where
  | refused (e : Error) : verifyMarkGood io args dev = .error e → MarkGoodEnd args (.error e) dev
  | raucFails (state : OtaState) (version : String) (e : Error) :
      verifyMarkGood io args dev = .ok (state, version) → io.raucSucceeds = false →
      MarkGoodEnd args (.error e) (dev.issue .markGood false)
  | saveFails (state : OtaState) (version : String) (e : Error) :
      verifyMarkGood io args dev = .ok (state, version) → io.raucSucceeds = true → io.save.isDone = false →
      MarkGoodEnd args (.error e) (dev.issue .markGood true)
  | mirrorFails (state : OtaState) (version floor : String) (e e' : Error) :
      verifyMarkGood io args dev = .ok (state, version) → io.raucSucceeds = true → io.save.isDone = true →
      raisedFloor version state = .ok floor →
      (productionRollbackFloorRequiresMonotonicState io.env io.mirrorSource = .error e' ∨ io.mirrorSave.isDone = false) →
      MarkGoodEnd args (.error e) ((dev.issue .markGood true).save (markedGoodState io version floor state))
  | done (state : OtaState) (version floor : String) :
      verifyMarkGood io args dev = .ok (state, version) → io.raucSucceeds = true → io.save.isDone = true →
      raisedFloor version state = .ok floor →
      productionRollbackFloorRequiresMonotonicState io.env io.mirrorSource = .ok () → io.mirrorSave.isDone = true →
      MarkGoodEnd args (.ok ())
        (((dev.issue .markGood true).save (markedGoodState io version floor state)).mirrorFloor floor)

end ends

/-! ## What the checks accept -/

/-- The checks of an install begin with a load and end with a policy that accepts the manifest. -/
theorem verifyInstall_ok {Γ : Ctx} {io : Io} {args : InstallArgs} {dev : Device} {state : OtaState}
    {manifest : SignedManifest} (h : verifyInstall Γ io args dev = .ok (state, manifest)) :
    loadState io.env io.load dev = .ok state ∧ verifyManifestPolicy Γ io manifest state = .ok () := by
  obtain ⟨state', hload, h⟩ := bind_ok_iff.1 h
  obtain ⟨manifest', _, h⟩ := bind_ok_iff.1 h
  obtain ⟨_, _, h⟩ := bind_ok_iff.1 h
  obtain ⟨_, hpolicy, h⟩ := bind_ok_iff.1 h
  obtain ⟨_, _, h⟩ := bind_ok_iff.1 h
  cases h
  exact ⟨hload, hpolicy⟩

/-- The manifest an install accepts is the one its file holds. -/
theorem verifyInstall_manifest {Γ : Ctx} {io : Io} {args : InstallArgs} {dev : Device} {state : OtaState}
    {manifest : SignedManifest} (h : verifyInstall Γ io args dev = .ok (state, manifest)) :
    io.manifest = .parsed manifest := by
  obtain ⟨state', _, h⟩ := bind_ok_iff.1 h
  obtain ⟨manifest', hmanifest, h⟩ := bind_ok_iff.1 h
  obtain ⟨_, _, h⟩ := bind_ok_iff.1 h
  obtain ⟨_, _, h⟩ := bind_ok_iff.1 h
  obtain ⟨_, _, h⟩ := bind_ok_iff.1 h
  cases h
  unfold loadManifest at hmanifest
  split at hmanifest
  · cases hmanifest
  · cases hmanifest
  · rename_i parsed hparsed
    split at hmanifest
    · cases hmanifest
    · cases hmanifest
      exact hparsed

/-- The version to mark is the argument or else the pending version, and the pending version when there is one. -/
theorem versionToMark_ok {args : MarkGoodArgs} {state : OtaState} {version : String}
    (h : versionToMark args state = .ok version) :
    args.version.or state.pendingVersion = some version ∧ ∀ p, state.pendingVersion = some p → p = version := by
  unfold versionToMark at h
  cases hv : args.version.or state.pendingVersion with
  | none => rw [hv] at h; cases h
  | some v =>
    rw [hv] at h
    cases hp : state.pendingVersion with
    | none =>
      simp only [hp, Except.ok.injEq] at h
      exact ⟨by rw [h], fun p hp' => by cases hp'⟩
    | some pending =>
      simp only [hp] at h
      split at h
      · cases h
      · rename_i hne
        cases h
        exact ⟨rfl, fun p hp' => by cases hp'; exact not_not.1 hne⟩

/-- With a pending slot, the running slot is that slot. -/
theorem checkActiveSlot_ok {io : Io} {state : OtaState} {slot : String} (h : checkActiveSlot io state = .ok ())
    (hslot : state.pendingBootSlot = some slot) : activeBootSlot io = some slot := by
  simp only [checkActiveSlot, hslot] at h
  split at h
  · cases h
  · rename_i active hactive
    split at h
    · cases h
    · rename_i hne
      rw [hactive, not_not.1 hne]

/-- An accepted version: the argument or the pending one, the pending one when there is one, on the pending slot when there is
one, at or above the floor. -/
theorem verifyMarkGood_ok {io : Io} {args : MarkGoodArgs} {dev : Device} {state : OtaState} {version : String}
    (h : verifyMarkGood io args dev = .ok (state, version)) :
    loadState io.env io.load dev = .ok state ∧ versionToMark args state = .ok version ∧
    checkActiveSlot io state = .ok () ∧ VersionLe state.rollbackFloor version := by
  obtain ⟨state', hload, h⟩ := bind_ok_iff.1 h
  obtain ⟨version', hversion, h⟩ := bind_ok_iff.1 h
  obtain ⟨_, hslot, h⟩ := bind_ok_iff.1 h
  obtain ⟨_, hfloor, h⟩ := bind_ok_iff.1 h
  cases h
  exact ⟨hload, hversion, hslot, refuseBelow_ok hfloor⟩

/-- The new floor is the version or the old floor, and at least both. -/
theorem raisedFloor_ok {version floor : String} {state : OtaState} (h : raisedFloor version state = .ok floor)
    (hle : VersionLe state.rollbackFloor version) : VersionLe state.rollbackFloor floor ∧ VersionLe version floor := by
  unfold raisedFloor at h
  cases hc : compareVersions version state.rollbackFloor with
  | error e => rw [hc] at h; cases h
  | ok o =>
    obtain ⟨_, _, hv, hs, -⟩ := compareVersions_ok hc
    rw [hc] at h
    cases o with
    | gt => cases h; exact ⟨hle, VersionLe.refl_of_parse hv⟩
    | lt => cases h; exact ⟨VersionLe.refl_of_parse hs, versionLe_of_not_gt hc (by decide)⟩
    | eq => cases h; exact ⟨VersionLe.refl_of_parse hs, versionLe_of_not_gt hc (by decide)⟩

/-- Raising the floor cannot fail once the version was compared with it. -/
theorem raisedFloor_of_verify {io : Io} {args : MarkGoodArgs} {dev : Device} {state : OtaState} {version : String}
    (h : verifyMarkGood io args dev = .ok (state, version)) : ∃ floor, raisedFloor version state = .ok floor := by
  obtain ⟨o, hc, -⟩ := compareVersions_of_le (verifyMarkGood_ok h).2.2.2
  unfold raisedFloor
  rw [hc]
  cases o <;> exact ⟨_, rfl⟩

/-! ## Rules for the writers -/

section rules

variable {io : Io} {dev : Device} {Q : Unit → Device → Prop} {E : Error → Device → Prop}

theorem wp_runRauc {call : RaucCall} {context : String} (hQ : io.raucSucceeds = true → Q () (dev.issue call true))
    (hE : io.raucSucceeds = false → E context (dev.issue call false)) : (runRauc io call context).wp Q E dev := by
  unfold runRauc
  cases h : io.raucSucceeds with
  | true => exact hQ h
  | false => exact hE h

theorem wp_saveState {env : Env} {result : WriteResult} {state : OtaState}
    (hQ : result.isDone = true → Q () (dev.save state)) (hE : ∀ e, result.isDone = false → E e dev) :
    (saveState env result state).wp Q E dev := by
  cases result with
  | done => exact hQ rfl
  | mkdirFailed os => exact hE _ rfl
  | writeFailed os => exact hE _ rfl
  | renameFailed os => exact hE _ rfl

theorem wp_persistRollbackFloor {version : String}
    (hQ : productionRollbackFloorRequiresMonotonicState io.env io.mirrorSource = .ok () → io.mirrorSave.isDone = true →
      Q () (dev.mirrorFloor version))
    (hE : ∀ e e', productionRollbackFloorRequiresMonotonicState io.env io.mirrorSource = .error e' ∨
      io.mirrorSave.isDone = false → E e dev) : (persistRollbackFloor io version).wp Q E dev := by
  apply Effect.wp_bind
  apply Effect.wp_ofExcept
  · intro _ hgate
    cases hsave : io.mirrorSave with
    | done => exact hQ hgate (by rw [hsave]; rfl)
    | mkdirFailed os => exact hE os "" (Or.inr (by rw [hsave]; rfl))
    | writeFailed os => exact hE os "" (Or.inr (by rw [hsave]; rfl))
    | renameFailed os => exact hE os "" (Or.inr (by rw [hsave]; rfl))
  · intro e hgate
    exact hE e e (Or.inl hgate)

end rules

/-! ## Every end is on the list -/

theorem install_end (Γ : Ctx) (io : Io) (args : InstallArgs) (dev : Device) :
    (install Γ io args).wp (fun _ => InstallEnd Γ io dev args (.ok ())) (fun e => InstallEnd Γ io dev args (.error e))
      dev := by
  apply Effect.wp_bind
  apply Effect.wp_read
  · rintro ⟨state, manifest⟩ hverify
    apply Effect.wp_bind
    apply wp_runRauc
    · intro hrauc
      apply Effect.wp_bind
      apply Effect.wp_ofExcept
      · intro slot hslot
        have hslot : pendingBootSlotAfterInstall io = .ok slot := by
          unfold provenPendingSlot at hslot
          split at hslot
          · rename_i s hs
            rw [hs, Except.ok.inj hslot]
          · cases hslot
        apply Effect.wp_bind
        apply wp_saveState
        · intro hsave
          have hend := @InstallEnd.recorded Γ io dev args state manifest slot hverify hrauc hslot hsave
          apply Effect.wp_ofExcept
          · intro _ hr
            rwa [hr] at hend
          · intro e hr
            rwa [hr] at hend
        · intro e hsave
          exact .saveFails state manifest slot e hverify hrauc hslot hsave
      · intro e hslot
        unfold provenPendingSlot at hslot
        split at hslot
        · cases hslot
        · rename_i e' hs
          exact .notProven state manifest e e' hverify hrauc hs
    · intro hrauc
      exact .raucFails state manifest _ hverify hrauc
  · intro e hverify
    exact .refused e hverify

theorem rollback_end (io : Io) (args : RollbackArgs) (dev : Device) :
    (rollback io args).wp (fun _ => RollbackEnd io dev args (.ok ())) (fun e => RollbackEnd io dev args (.error e))
      dev := by
  apply Effect.wp_bind
  apply Effect.wp_ofExcept
  · intro _ hreason
    have hreason : trim args.reason ≠ "" := by
      intro h
      rw [if_pos h] at hreason
      cases hreason
    apply Effect.wp_bind
    apply wp_runRauc
    · intro hrauc
      apply Effect.wp_bind
      apply Effect.wp_read
      · intro state hload
        apply Effect.wp_bind
        apply wp_saveState
        · intro _
          have hend := @RollbackEnd.recorded io dev args state hreason hrauc hload
          apply Effect.wp_ofExcept
          · intro _ hr
            rwa [hr] at hend
          · intro e hr
            rwa [hr] at hend
        · intro e _
          exact .stateKept e hreason hrauc
      · intro e _
        exact .stateKept e hreason hrauc
    · intro hrauc
      exact .raucFails _ hreason hrauc
  · intro e hreason
    refine .refused e ?_
    by_contra h
    rw [if_neg h] at hreason
    cases hreason

theorem markGood_end (io : Io) (args : MarkGoodArgs) (dev : Device) :
    (markGood io args).wp (fun _ => MarkGoodEnd io dev args (.ok ())) (fun e => MarkGoodEnd io dev args (.error e))
      dev := by
  apply Effect.wp_bind
  apply Effect.wp_read
  · rintro ⟨state, version⟩ hverify
    apply Effect.wp_bind
    apply wp_runRauc
    · intro hrauc
      apply Effect.wp_bind
      apply Effect.wp_ofExcept
      · intro floor hfloor
        apply Effect.wp_bind
        apply wp_saveState
        · intro hsave
          apply wp_persistRollbackFloor
          · intro hgate hmirror
            exact .done state version floor hverify hrauc hsave hfloor hgate hmirror
          · intro e e' hmirror
            exact .mirrorFails state version floor e e' hverify hrauc hsave hfloor hmirror
        · intro e hsave
          exact .saveFails state version e hverify hrauc hsave
      · -- the comparison that raises the floor was made before
        intro e hfloor
        obtain ⟨_, hraised⟩ := raisedFloor_of_verify hverify
        rw [hraised] at hfloor
        cases hfloor
    · intro hrauc
      exact .raucFails state version _ hverify hrauc
  · intro e hverify
    exact .refused e hverify

end SuderraOs.Ota
