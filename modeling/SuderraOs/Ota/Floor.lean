import SuderraOs.Ota.Main

/-!
# The rollback floor over runs

The floor of `state.json` never falls, every loaded floor is at least the trusted one, and the versions marked good climb. The
step lemma is `main_floorLe`: whatever an invocation does, it saves a state that a load gave, and a load only raises the floor.
-/

namespace SuderraOs.Ota

/-- `state.json` holds a state whose floor parses. -/
def FloorParses (dev : Device) : Prop :=
  ∃ state v, dev.state = .parsed state ∧ ParsedVersion.parse state.rollbackFloor = .ok v

/-- Both devices hold a state, and the floor of the first is at most that of the second. -/
def FloorLe (dev dev' : Device) : Prop :=
  ∃ state state', dev.state = .parsed state ∧ dev'.state = .parsed state' ∧
    VersionLe state.rollbackFloor state'.rollbackFloor

theorem FloorLe.trans {a b c : Device} (hab : FloorLe a b) (hbc : FloorLe b c) : FloorLe a c := by
  obtain ⟨sa, sb, ha, hb, hle⟩ := hab
  obtain ⟨sb', sc, hb', hc, hle'⟩ := hbc
  rw [hb] at hb'
  cases hb'
  exact ⟨sa, sc, ha, hc, hle.trans hle'⟩

theorem FloorLe.parses {a b : Device} (h : FloorLe a b) : FloorParses b := by
  obtain ⟨_, sb, -, hb, hle⟩ := h
  obtain ⟨v, hv⟩ := hle.right_parses
  exact ⟨sb, v, hb, hv⟩

/-- A device whose state is untouched keeps its floor. -/
theorem FloorParses.floorLe_of_state_eq {a b : Device} (h : FloorParses a) (heq : b.state = a.state) : FloorLe a b := by
  obtain ⟨state, v, hs, hv⟩ := h
  exact ⟨state, state, hs, heq.trans hs, VersionLe.refl_of_parse hv⟩

/-- Saving a state whose floor is at least a loaded one raises the floor. -/
theorem FloorParses.floorLe_save {a b : Device} {env : Env} {io : LoadIo} {loaded saved : OtaState} (h : FloorParses a)
    (hload : loadState env io a = .ok loaded) (hle : VersionLe loaded.rollbackFloor saved.rollbackFloor) :
    FloorLe a (b.save saved) := by
  obtain ⟨state, v, hs, hv⟩ := h
  exact ⟨state, saved, hs, rfl, (loadState_stored hs hv hload).trans hle⟩

theorem FloorLe.congr_right {a b b' : Device} (h : FloorLe a b) (heq : b'.state = b.state) : FloorLe a b' := by
  obtain ⟨sa, sb, ha, hb, hle⟩ := h
  exact ⟨sa, sb, ha, heq.trans hb, hle⟩

/-- The floor of a state loaded from a device whose floor parses, parses. -/
theorem FloorParses.loaded {a : Device} {env : Env} {io : LoadIo} {loaded : OtaState} (h : FloorParses a)
    (hload : loadState env io a = .ok loaded) : VersionLe loaded.rollbackFloor loaded.rollbackFloor := by
  obtain ⟨state, v, hs, hv⟩ := h
  obtain ⟨v', hv'⟩ := (loadState_stored hs hv hload).right_parses
  exact VersionLe.refl_of_parse hv'

/-! ## One invocation -/

/-- However a command ends, it leaves a floor that is at least the one it found. -/
theorem CommandEnd.floorLe {Γ : Ctx} {inv : Invocation} {dev dev' : Device} {r : Except Error Unit}
    (h : CommandEnd Γ inv dev r dev') (hdev : FloorParses dev) : FloorLe dev dev' := by
  obtain ⟨command, io⟩ := inv
  cases command with
  | install args =>
    cases h with
    | recorded state manifest slot hverify _ _ _ =>
      have hload := (verifyInstall_ok hverify).1
      exact hdev.floorLe_save hload (hdev.loaded hload)
    | _ => exact hdev.floorLe_of_state_eq rfl
  | status => exact hdev.floorLe_of_state_eq (congrArg Device.state h)
  | rollback args =>
    cases h with
    | recorded state _ _ hload => exact hdev.floorLe_save hload (hdev.loaded hload)
    | _ => exact hdev.floorLe_of_state_eq rfl
  | markGood args =>
    cases h with
    | mirrorFails state version floor _ _ hverify _ _ hfloor _ =>
      obtain ⟨hload, -, -, hle⟩ := verifyMarkGood_ok hverify
      exact hdev.floorLe_save hload (raisedFloor_ok hfloor hle).1
    | done state version floor hverify _ _ hfloor _ _ =>
      obtain ⟨hload, -, -, hle⟩ := verifyMarkGood_ok hverify
      have hsave : FloorLe dev ((dev.issue .markGood true).save (markedGoodState io version floor state)) :=
        hdev.floorLe_save hload (raisedFloor_ok hfloor hle).1
      exact hsave.congr_right rfl
    | _ => exact hdev.floorLe_of_state_eq rfl

/-- The last event leaves a floor that is at least the one it found. -/
theorem LastEvent.floorLe {io : Io} {e : Error} {dev dev' : Device} (h : LastEvent io e dev dev') (hdev : FloorParses dev) :
    FloorLe dev dev' := by
  cases h with
  | kept => exact hdev.floorLe_of_state_eq rfl
  | written state hload => exact hdev.floorLe_save hload (hdev.loaded hload)

/-- One invocation never lowers the floor of `state.json`. -/
theorem main_floorLe (Γ : Ctx) (inv : Invocation) (dev : Device) (hdev : FloorParses dev) :
    FloorLe dev (main Γ inv dev).2 := by
  obtain ⟨dev₁, hend, hafter⟩ := main_end Γ inv dev
  have hle := hend.floorLe hdev
  cases hr : (main Γ inv dev).1 with
  | ok u =>
    rw [hr] at hafter
    rw [show (main Γ inv dev).2 = dev₁ from hafter]
    exact hle
  | error e =>
    rw [hr] at hafter
    exact hle.trans (LastEvent.floorLe hafter hle.parses)

/-! ## Versions marked good -/

/-- The version a step marked good: the current version that a successful `mark_good` left. -/
def markedVersion (step : Step Device Invocation (Except Error Unit)) : Option String :=
  match step.input.command, step.output, step.post.state with
  | .markGood _, .ok (), .parsed state => some state.currentVersion
  | _, _, _ => none

/-- A successful `mark_good` marks a version at or above the loaded floor and leaves a floor at or above the version. -/
theorem markedVersion_spec {Γ : Ctx} {inv : Invocation} {dev : Device} {version : String}
    (h : markedVersion ⟨dev, inv, (main Γ inv dev).1, (main Γ inv dev).2⟩ = some version) :
    ∃ args loaded saved, inv.command = .markGood args ∧ verifyMarkGood inv.io args dev = .ok (loaded, version) ∧
      (main Γ inv dev).2.state = .parsed saved ∧ saved.currentVersion = version ∧
      VersionLe version saved.rollbackFloor := by
  obtain ⟨command, io⟩ := inv
  cases command with
  | install args => simp [markedVersion] at h
  | status => simp [markedVersion] at h
  | rollback args => simp [markedVersion] at h
  | markGood args =>
    cases hr : (main Γ ⟨.markGood args, io⟩ dev).1 with
    | error e => simp [markedVersion, hr] at h
    | ok u =>
      obtain ⟨state, marked, floor, hverify, hfloor, hdev⟩ := main_markGood_ok hr
      rw [hdev] at h ⊢
      simp only [markedVersion, hr] at h
      obtain rfl : marked = version := Option.some.inj h
      exact ⟨args, state, _, rfl, hverify, rfl, rfl, (raisedFloor_ok hfloor (verifyMarkGood_ok hverify).2.2.2).2⟩

/-- The floor of `state.json` is at least `version`. -/
def BoundedBelow (version : String) (dev : Device) : Prop :=
  ∃ state, dev.state = .parsed state ∧ VersionLe version state.rollbackFloor

theorem BoundedBelow.mono {version : String} {dev dev' : Device} (h : BoundedBelow version dev) (hle : FloorLe dev dev') :
    BoundedBelow version dev' := by
  obtain ⟨state, hs, hv⟩ := h
  obtain ⟨s, s', hs', hs'', hle⟩ := hle
  rw [hs] at hs'
  cases hs'
  exact ⟨s', hs'', hv.trans hle⟩

/-! ## Whole runs -/

/-- An install that reached `rauc install` passed its checks with the manifest of the bundle. -/
theorem verified_of_issued {Γ : Ctx} {io : Io} {args : InstallArgs} {dev : Device} {manifest : SignedManifest} {succeeded : Bool}
    (h : (main Γ ⟨.install args, io⟩ dev).2.rauc = (.install args.bundle manifest, succeeded) :: dev.rauc) :
    ∃ state, verifyInstall Γ io args dev = .ok (state, manifest) := by
  obtain ⟨dev₁, hend, hafter⟩ := main_end Γ ⟨.install args, io⟩ dev
  rw [hafter.rauc] at h
  have same : ∀ {m b}, (RaucCall.install args.bundle m, b) :: dev.rauc = (.install args.bundle manifest, succeeded) :: dev.rauc →
      m = manifest := by
    intro m b heq
    cases heq
    rfl
  generalize (main Γ ⟨.install args, io⟩ dev).1 = r at hend
  cases hend with
  | refused e _ => exact absurd h.symm (List.cons_ne_self _ _)
  | raucFails state m e hverify _ => exact ⟨state, same h ▸ hverify⟩
  | notProven state m e e' hverify _ _ => exact ⟨state, same h ▸ hverify⟩
  | saveFails state m slot e hverify _ _ _ => exact ⟨state, same h ▸ hverify⟩
  | recorded state m slot hverify _ _ _ => exact ⟨state, same h ▸ hverify⟩

/-- In production, whatever the state directory holds: an accepted trusted floor bounds every manifest whose bundle reaches
`rauc install`, with its version and with its own floor, and every version marked good. -/
theorem production_trusted_floor (Γ : Ctx) (io : Io) (dev : Device) (source : Option String)
    (hprod : isProduction io.env = true) (hclampSource : io.load.clampSource = source)
    (hgate : productionRollbackFloorRequiresMonotonicState io.env source = .ok ()) :
    ∃ t, trustedRollbackFloor io.env source = .ok (some t) ∧
    (∀ args manifest succeeded,
      (main Γ ⟨.install args, io⟩ dev).2.rauc = (.install args.bundle manifest, succeeded) :: dev.rauc →
      VersionLe t manifest.version ∧ VersionLe t manifest.rollbackFloor) ∧
    (∀ args, (main Γ ⟨.markGood args, io⟩ dev).1 = .ok () →
      ∃ saved, (main Γ ⟨.markGood args, io⟩ dev).2.state = .parsed saved ∧
        args.version.or dev.pendingVersion = some saved.currentVersion ∧ VersionLe t saved.currentVersion) := by
  obtain ⟨t, ht⟩ := productionGate_ok hprod hgate
  have hfloor : ∀ state, loadState io.env io.load dev = .ok state → VersionLe t state.rollbackFloor := fun state hload =>
    loadState_trusted hload (hclampSource ▸ ht)
  refine ⟨t, ht, ?_, ?_⟩
  · intro args manifest succeeded hrauc
    obtain ⟨state, hverify⟩ := verified_of_issued hrauc
    obtain ⟨hload, hpolicy⟩ := verifyInstall_ok hverify
    obtain ⟨hversion, hown⟩ := checkVersions_ok (verifyManifestPolicy_ok hpolicy)
    exact ⟨(hfloor state hload).trans hversion, (hfloor state hload).trans hown⟩
  · intro args hok
    obtain ⟨state, version, floor, hverify, -, hdev⟩ := main_markGood_ok hok
    obtain ⟨hload, hversion, -, hle⟩ := verifyMarkGood_ok hverify
    rw [hdev]
    refine ⟨_, rfl, ?_, (hfloor state hload).trans hle⟩
    rw [← (loadState_pending hload).1]
    exact (versionToMark_ok hversion).1

/-- The environment of a production device whose trusted floor source is a TPM mirror. -/
def productionEnv : Env := fun key =>
  if key = "SUDERRA_OTA_PRODUCTION" then some "1"
  else if key = "SUDERRA_OTA_ROLLBACK_FLOOR_SOURCE" then some "tpm-nv"
  else if key = "SUDERRA_OTA_ROLLBACK_FLOOR_SOURCE_PATH" then some "/run/suderra/rollback-floor"
  else none

/-- A `state.json` with an old floor: the bundle that reaches RAUC is still bounded by the trusted floor. -/
theorem production_trusted_floor_install :
    ∃ t, trustedRollbackFloor productionEnv (some "v1.0.0\n") = .ok (some t) ∧ VersionLe t manifest11.version := by
  obtain ⟨t, ht, hinstall, -⟩ := production_trusted_floor sampleCtx
    { Io.offering manifest11 .unreadable with
      env := productionEnv, load := ⟨some "v1.0.0\n", some "v1.0.0\n", true, true, none⟩ }
    ⟨.parsed (OtaState.settled "v0.1.0"), none, []⟩ (some "v1.0.0\n") rfl rfl (by decide +kernel)
  refine ⟨t, ht, (hinstall ⟨"manifest.json", "/tmp/suderra-os-v1.1.0.raucb", none, true⟩ manifest11 true ?_).1⟩
  decide +kernel

end SuderraOs.Ota
