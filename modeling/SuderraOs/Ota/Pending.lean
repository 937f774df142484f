import SuderraOs.Ota.Floor

/-!
# The pending update over runs

What an invocation can do to the pending update is said once (`main_pending`): keep it, clear it, record a new one, or, when an
install fails after `rauc install` succeeded, leave the old one standing over a slot that holds another image. Two run theorems
follow. `mark_good` certifies what was installed as long as no version is named without a pending one, and the pending version
is that of the installed bundle as long as no install fails after RAUC installed another version.
-/

namespace SuderraOs.Ota

abbrev OtaStep := Step Device Invocation (Except Error Unit)

/-- The manifest of the bundle RAUC installed last. -/
def lastInstalled : List (RaucCall × Bool) → Option SignedManifest
  | [] => none
  | (.install _ manifest, true) :: _ => some manifest
  | _ :: calls => lastInstalled calls

/-- A command that is not a successful install keeps the installed bundle. -/
theorem lastInstalled_cons {call : RaucCall} {b : Bool} (h : b = false ∨ call = .markGood ∨ call = .markBad)
    (calls : List (RaucCall × Bool)) : lastInstalled ((call, b) :: calls) = lastInstalled calls := by
  rcases h with rfl | rfl | rfl
  · cases call <;> rfl
  · rfl
  · rfl

/-- A successful rollback or mark-good. -/
def Clears (command : Command) (r : Except Error Unit) : Prop :=
  r = .ok () ∧ ((∃ args, command = .rollback args) ∨ ∃ args, command = .markGood args)

/-- What an invocation does to the pending update. -/
inductive PendingChange (Γ : Ctx) (inv : Invocation) (dev : Device) (r : Except Error Unit) (dev' : Device) : Prop where
  | kept (hversion : dev'.pendingVersion = dev.pendingVersion) (hslot : dev'.pendingBootSlot = dev.pendingBootSlot)
      (hrauc : lastInstalled dev'.rauc = lastInstalled dev.rauc) (hclears : ¬Clears inv.command r)
  | cleared (hversion : dev'.pendingVersion = none) (hslot : dev'.pendingBootSlot = none)
      (hrauc : lastInstalled dev'.rauc = lastInstalled dev.rauc)
  | recorded (args : InstallArgs) (state : OtaState) (manifest : SignedManifest) (slot : String)
      (hcommand : inv.command = .install args) (hverify : verifyInstall Γ inv.io args dev = .ok (state, manifest))
      (hversion : dev'.pendingVersion = some manifest.version) (hslot : dev'.pendingBootSlot = some slot)
      (hrauc : lastInstalled dev'.rauc = some manifest)
      (hresult : r = if args.noReboot then .ok () else requestReboot inv.io)
  | overwritten (args : InstallArgs) (state : OtaState) (manifest : SignedManifest)
      (hcommand : inv.command = .install args) (hverify : verifyInstall Γ inv.io args dev = .ok (state, manifest))
      (hsucceeds : inv.io.raucSucceeds = true)
      (hunrecorded : (∀ slot, pendingBootSlotAfterInstall inv.io ≠ .ok slot) ∨ inv.io.save.isDone = false)
      (hversion : dev'.pendingVersion = dev.pendingVersion) (hslot : dev'.pendingBootSlot = dev.pendingBootSlot)
      (hrauc : lastInstalled dev'.rauc = some manifest)

theorem CommandEnd.pendingChange {Γ : Ctx} {inv : Invocation} {dev dev' : Device} {r : Except Error Unit}
    (h : CommandEnd Γ inv dev r dev') : PendingChange Γ inv dev r dev' := by
  obtain ⟨command, io⟩ := inv
  -- an error clears nothing, and only a rollback or a mark-good clears
  have herr : ∀ {e : Error}, ¬Clears command (.error e) := fun hc => nomatch hc.1
  cases command with
  | install args =>
    cases h with
    | refused e _ => exact .kept rfl rfl rfl herr
    | raucFails state manifest e _ _ => exact .kept rfl rfl (lastInstalled_cons (Or.inl rfl) _) herr
    | notProven state manifest e e' hverify hsucceeds hslot =>
      refine .overwritten args state manifest rfl hverify hsucceeds (Or.inl fun slot h => ?_) rfl rfl rfl
      rw [hslot] at h
      cases h
    | saveFails state manifest slot e hverify hsucceeds _ hsave =>
      exact .overwritten args state manifest rfl hverify hsucceeds (Or.inr hsave) rfl rfl rfl
    | recorded state manifest slot hverify _ _ _ => exact .recorded args state manifest slot rfl hverify rfl rfl rfl rfl
  | status =>
    rw [show dev' = dev from h]
    exact .kept rfl rfl rfl fun hc => by rcases hc.2 with ⟨_, h⟩ | ⟨_, h⟩ <;> cases h
  | rollback args =>
    cases h with
    | refused e _ => exact .kept rfl rfl rfl herr
    | raucFails e _ _ => exact .kept rfl rfl (lastInstalled_cons (Or.inl rfl) _) herr
    | stateKept e _ _ => exact .kept rfl rfl (lastInstalled_cons (Or.inr (Or.inr rfl)) _) herr
    | recorded state _ _ _ => exact .cleared rfl rfl (lastInstalled_cons (Or.inr (Or.inr rfl)) _)
  | markGood args =>
    cases h with
    | refused e _ => exact .kept rfl rfl rfl herr
    | raucFails state version e _ _ => exact .kept rfl rfl (lastInstalled_cons (Or.inl rfl) _) herr
    | saveFails state version e _ _ _ => exact .kept rfl rfl (lastInstalled_cons (Or.inr (Or.inl rfl)) _) herr
    | mirrorFails state version floor e e' _ _ _ _ _ =>
      exact .cleared rfl rfl (lastInstalled_cons (Or.inr (Or.inl rfl)) _)
    | done state version floor _ _ _ _ _ _ => exact .cleared rfl rfl (lastInstalled_cons (Or.inr (Or.inl rfl)) _)

/-- What an invocation does to the pending update; the last event of an error changes nothing of it. -/
theorem main_pending (Γ : Ctx) (inv : Invocation) (dev : Device) :
    PendingChange Γ inv dev (main Γ inv dev).1 (main Γ inv dev).2 := by
  obtain ⟨dev₁, hend, hafter⟩ := main_end Γ inv dev
  obtain ⟨hpv, hps⟩ := hafter.pending
  have hrauc' : lastInstalled (main Γ inv dev).2.rauc = lastInstalled dev₁.rauc := by rw [hafter.rauc]
  cases hend.pendingChange with
  | kept hversion hslot hrauc hclears =>
    exact .kept (hpv.trans hversion) (hps.trans hslot) (hrauc'.trans hrauc) hclears
  | cleared hversion hslot hrauc => exact .cleared (hpv.trans hversion) (hps.trans hslot) (hrauc'.trans hrauc)
  | recorded args state manifest slot hcommand hverify hversion hslot hrauc hresult =>
    exact .recorded args state manifest slot hcommand hverify (hpv.trans hversion) (hps.trans hslot) (hrauc'.trans hrauc)
      hresult
  | overwritten args state manifest hcommand hverify hsucceeds hunrecorded hversion hslot hrauc =>
    exact .overwritten args state manifest hcommand hverify hsucceeds hunrecorded (hpv.trans hversion) (hps.trans hslot)
      (hrauc'.trans hrauc)

/-! ## What `mark_good` certifies -/

/-- A successful install of a manifest with `version` that passed the policy, which recorded `slot`. -/
def OtaStep.Installed (Γ : Ctx) (step : OtaStep) (version slot : String) : Prop :=
  step.output = .ok () ∧ step.post.pendingBootSlot = some slot ∧
    ∃ args state manifest, step.input.command = .install args ∧
      loadState step.input.io.env step.input.io.load step.pre = .ok state ∧
      verifyManifestPolicy Γ step.input.io manifest state = .ok () ∧ manifest.version = version

/-- Among the steps `past`, the last install of `version` recorded `slot`, and nothing cleared it since. -/
def InstalledSince (Γ : Ctx) (past : List OtaStep) (version slot : String) : Prop :=
  ∃ earlier install later, past = earlier ++ install :: later ∧ OtaStep.Installed Γ install version slot ∧
    ∀ step ∈ later, ¬Clears step.input.command step.output

/-- A step that marks a version good follows a successful install of that version that nothing cleared, and runs on the slot
that the install recorded. -/
def CertifiesInstalled (Γ : Ctx) (past : List OtaStep) (step : OtaStep) : Prop :=
  ∀ version, markedVersion step = some version →
    ∃ slot, InstalledSince Γ past version slot ∧ activeBootSlot step.input.io = some slot

/-- No version is named to `mark_good` while nothing is pending, and the reboot an install requests is not refused. -/
def NamesPendingVersion (dev : Device) (inv : Invocation) : Prop :=
  match inv.command with
  | .markGood args => args.version = none ∨ dev.pendingVersion ≠ none
  | .install args => (if args.noReboot then .ok () else requestReboot inv.io) = .ok ()
  | _ => True

theorem InstalledSince.snoc {Γ : Ctx} {past : List OtaStep} {version slot : String} {step : OtaStep}
    (h : InstalledSince Γ past version slot) (hstep : ¬Clears step.input.command step.output) :
    InstalledSince Γ (past ++ [step]) version slot := by
  obtain ⟨earlier, install, later, rfl, hinstalled, hlater⟩ := h
  refine ⟨earlier, install, later ++ [step], by simp, hinstalled, ?_⟩
  intro st hst
  rcases List.mem_append.1 hst with hst | hst
  · exact hlater st hst
  · rw [List.mem_singleton.1 hst]
    exact hstep

/-- The pending update of `dev` was recorded by an install that nothing cleared. -/
def PendingInstalled (Γ : Ctx) (past : List OtaStep) (dev : Device) : Prop :=
  ∀ version, dev.pendingVersion = some version →
    ∃ slot, dev.pendingBootSlot = some slot ∧ InstalledSince Γ past version slot

/-- A step that meets the condition keeps the pending update an installed one. -/
theorem PendingInstalled.step {Γ : Ctx} {past : List OtaStep} {dev : Device} {inv : Invocation}
    (h : PendingInstalled Γ past dev) (hcond : NamesPendingVersion dev inv) :
    PendingInstalled Γ (past ++ [⟨dev, inv, (main Γ inv dev).1, (main Γ inv dev).2⟩]) (main Γ inv dev).2 := by
  intro version hv
  cases main_pending Γ inv dev with
  | kept hversion hslot _ hclears =>
    obtain ⟨slot, hs, hsince⟩ := h version (hversion ▸ hv)
    exact ⟨slot, hslot.trans hs, hsince.snoc hclears⟩
  | cleared hversion _ _ =>
    rw [hversion] at hv
    cases hv
  | recorded args state manifest slot hcommand hverify hversion hslot _ hresult =>
    rw [hversion] at hv
    obtain ⟨hload, hpolicy⟩ := verifyInstall_ok hverify
    have hok : (main Γ inv dev).1 = .ok () := by
      simp only [NamesPendingVersion, hcommand] at hcond
      rw [hresult, hcond]
    exact ⟨slot, hslot, past, _, [], rfl,
      ⟨hok, hslot, args, state, manifest, hcommand, hload, hpolicy, Option.some.inj hv⟩, by simp⟩
  | overwritten args state manifest hcommand _ _ _ hversion hslot _ =>
    obtain ⟨slot, hs, hsince⟩ := h version (hversion ▸ hv)
    refine ⟨slot, hslot.trans hs, hsince.snoc fun hc => ?_⟩
    rcases hc.2 with ⟨_, hc⟩ | ⟨_, hc⟩ <;> simp [hcommand] at hc

/-- A `mark_good` that meets the condition certifies the pending update. -/
theorem PendingInstalled.certifies {Γ : Ctx} {past : List OtaStep} {dev : Device} {inv : Invocation}
    (h : PendingInstalled Γ past dev) (hcond : NamesPendingVersion dev inv) :
    CertifiesInstalled Γ past ⟨dev, inv, (main Γ inv dev).1, (main Γ inv dev).2⟩ := by
  intro version hmarked
  obtain ⟨args, loaded, _, hcommand, hverify, -⟩ := markedVersion_spec hmarked
  obtain ⟨hload, hversion, hactive, -⟩ := verifyMarkGood_ok hverify
  obtain ⟨hpv, hps⟩ := loadState_pending hload
  obtain ⟨hor, hsame⟩ := versionToMark_ok hversion
  -- there is a pending version, and it is the one marked
  have hpending : dev.pendingVersion = some version := by
    simp only [NamesPendingVersion, hcommand] at hcond
    cases hp : dev.pendingVersion with
    | some pending => rw [hsame pending (hpv.trans hp)]
    | none =>
      rcases hcond with hnone | hne
      · rw [hnone, hpv, hp] at hor
        cases hor
      · exact absurd hp hne
  obtain ⟨slot, hslot, hsince⟩ := h version hpending
  exact ⟨slot, hsince, checkActiveSlot_ok hactive (hps.trans hslot)⟩

/-- RAUC's status while slot `A` runs, with the inactive slot listed first. -/
def inactiveFirst : Parsed Json := .parsed (raucStatusOf "A" [("rootfs.1", "B", "inactive"), ("rootfs.0", "A", "booted")])

/-- An install of `manifest` without a reboot request. -/
def installing (manifest : SignedManifest) (status : Parsed Json) : Invocation :=
  ⟨.install ⟨"manifest.json", "/tmp/" ++ manifest.bundle.name, none, true⟩, Io.offering manifest status⟩

/-- The mark-good after the reboot into the other slot. -/
def rebooted : Invocation := ⟨.markGood ⟨none⟩, Io.ordinary "rauc.slot=B"⟩

/-- What the runs that begin with the install of `manifest11` come to. -/
theorem sample_runs :
    markedVersion ⟨Run.final (main sampleCtx) Device.fresh [installing manifest11 inactiveFirst], rebooted,
        (main sampleCtx rebooted (Run.final (main sampleCtx) Device.fresh [installing manifest11 inactiveFirst])).1,
        (main sampleCtx rebooted (Run.final (main sampleCtx) Device.fresh [installing manifest11 inactiveFirst])).2⟩ = some "v1.1.0" ∧
      (Run.final (main sampleCtx) Device.fresh
        [installing manifest11 inactiveFirst, installing manifest12 inactiveFirst]).pendingVersion = some "v1.2.0" ∧
      (fun dev : Device => (dev.pendingVersion, lastInstalled dev.rauc)) (Run.final (main sampleCtx) Device.fresh
        [installing manifest11 inactiveFirst, installing manifest12 .unreadable]) = (some "v1.1.0", some manifest12) := by
  decide +kernel

/-- The pending version is the version of the bundle that RAUC installed last. -/
def PendingDescribesImage (dev : Device) : Prop :=
  ∀ version, dev.pendingVersion = some version →
    ∃ manifest, lastInstalled dev.rauc = some manifest ∧ manifest.version = version

/-- An install whose bundle RAUC installs proves its slot and saves its state, unless nothing else is pending. -/
def RecordsWhatItInstalls (dev : Device) (inv : Invocation) : Prop :=
  match inv.command with
  | .install _ =>
    inv.io.raucSucceeds = false ∨
    ((∃ slot, pendingBootSlotAfterInstall inv.io = .ok slot) ∧ inv.io.save.isDone = true) ∨
    dev.pendingVersion = none ∨
    ∃ manifest, inv.io.manifest = .parsed manifest ∧ dev.pendingVersion = some manifest.version
  | _ => True

/-- A step that meets the condition keeps the pending version that of the installed bundle. -/
theorem PendingDescribesImage.step {Γ : Ctx} {dev : Device} {inv : Invocation} (h : PendingDescribesImage dev)
    (hcond : RecordsWhatItInstalls dev inv) : PendingDescribesImage (main Γ inv dev).2 := by
  intro version hv
  cases main_pending Γ inv dev with
  | kept hversion _ hrauc _ =>
    rw [hrauc]
    exact h version (hversion ▸ hv)
  | cleared hversion _ _ =>
    rw [hversion] at hv
    cases hv
  | recorded args state manifest slot _ _ hversion _ hrauc _ =>
    rw [hversion] at hv
    exact ⟨manifest, hrauc, Option.some.inj hv⟩
  | overwritten args state manifest hcommand hverify hsucceeds hunrecorded hversion _ hrauc =>
    rw [hversion] at hv
    simp only [RecordsWhatItInstalls, hcommand] at hcond
    rcases hcond with hfails | ⟨⟨slot, hslot⟩, hsave⟩ | hnone | ⟨m, hm, hpending⟩
    · rw [hsucceeds] at hfails
      cases hfails
    · rcases hunrecorded with hno | hno
      · exact absurd hslot (hno slot)
      · rw [hsave] at hno
        cases hno
    · rw [hnone] at hv
      cases hv
    · -- the pending version is the one of the manifest that was installed
      rw [hpending] at hv
      rw [verifyInstall_manifest hverify] at hm
      cases hm
      exact ⟨manifest, hrauc, Option.some.inj hv⟩

/-- Over a run from a fresh device whose steps meet the condition, the pending version is always that of the installed bundle. -/
theorem pending_describes_installed (Γ : Ctx) (invs : List Invocation)
    (hcond : ∀ step ∈ Run.trace (main Γ) Device.fresh invs, RecordsWhatItInstalls step.pre step.input) :
    ∀ dev ∈ Run.states (main Γ) Device.fresh invs, PendingDescribesImage dev := by
  have hfresh : PendingDescribesImage Device.fresh := fun version hv => by cases hv
  refine Run.states_inv hfresh fun step hstep hpre => ?_
  have hnext : PendingDescribesImage (main Γ step.input step.pre).2 := hpre.step (hcond step hstep)
  rwa [(Run.step_of_mem_trace hstep).1] at hnext

/-- Two installs that prove their slot: what is pending is what was installed last. -/
theorem pending_describes_installed_twice :
    ∃ manifest, lastInstalled (Run.final (main sampleCtx) Device.fresh
      [installing manifest11 inactiveFirst, installing manifest12 inactiveFirst]).rauc = some manifest ∧
      manifest.version = "v1.2.0" := by
  refine pending_describes_installed sampleCtx
    [installing manifest11 inactiveFirst, installing manifest12 inactiveFirst] ?_ _ ?_ "v1.2.0" ?_
  · have hrecords : ∀ (manifest : SignedManifest) (dev : Device),
        RecordsWhatItInstalls dev (installing manifest inactiveFirst) := fun _ _ => Or.inr (Or.inl ⟨⟨"B", rfl⟩, rfl⟩)
    intro step hstep
    simp only [Run.trace_cons, Run.trace_nil, List.mem_cons, List.not_mem_nil, or_false] at hstep
    rcases hstep with rfl | rfl
    · exact hrecords _ _
    · exact hrecords _ _
  · exact Run.final_mem_states ..
  · exact sample_runs.2.1

/-- An install that fails after `rauc install`, with an update pending: the older version stays pending over the newer image. -/
theorem not_pendingDescribesImage_unproven :
    ¬∀ dev ∈ Run.states (main sampleCtx) Device.fresh
      [installing manifest11 inactiveFirst, installing manifest12 .unreadable], PendingDescribesImage dev := by
  intro h
  have heval : (fun dev : Device => (dev.pendingVersion, lastInstalled dev.rauc)) (Run.final (main sampleCtx) Device.fresh
      [installing manifest11 inactiveFirst, installing manifest12 .unreadable]) = (some "v1.1.0", some manifest12) :=
    sample_runs.2.2
  obtain ⟨hpending, hlast⟩ := Prod.mk.inj heval
  obtain ⟨manifest, hlast', hversion⟩ := h _ (Run.final_mem_states ..) "v1.1.0" hpending
  rw [hlast] at hlast'
  cases hlast'
  exact absurd hversion (by decide)

end SuderraOs.Ota
