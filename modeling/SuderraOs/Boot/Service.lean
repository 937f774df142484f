import SuderraOs.Ota.Pending
import SuderraOs.Ota.Transaction

/-!
# The boot-time certification service

One boot runs `suderra-rauc-mark-good`: it asks `suderra-rauc-health-gate`, then calls `suderra-ota mark-good`, and after a
failure of either it calls `suderra-ota rollback`, which marks the running slot bad. A run mixes boots with other invocations of
`suderra-ota`. A healthy slot is condemned exactly on the boots that are not the first one of the pending update, and on those
whose `mark-good` fails between the state and the mirror.
-/

namespace SuderraOs.Boot

open Ota

/-- What `suderra-rauc-health-gate` finds: the mounts, how its captures end, and whether the agent is active (`none` without
`systemctl` or without the unit). -/
structure GateIo where
  dataMounted : Bool
  bootMounted : Bool
  raucDirMade : Bool
  preflightCaptured : Bool
  raucStatusCaptured : Bool
  agentActive : Option Bool
  passedWritten : Bool

/-- What the service finds on one boot. The kernel command line names the running slot, and the service's environment does not
override it. -/
structure ServiceIo where
  cmdline : String
  slot : String
  running : cmdlineSlot (Text.splitWhitespace cmdline.toList) = some slot
  env : Env
  noOverride : devOverride env "SUDERRA_OTA_ACTIVE_BOOT_SLOT" = none
  raucPresent : Bool
  bootStatePresent : Bool
  gatePresent : Bool
  raucDirMade : Bool
  gate : GateIo
  preCaptured : Bool
  postCaptured : Bool
  markGood : Io
  rollback : Io

/-- What `suderra-ota mark-good` finds on this boot. -/
def ServiceIo.markGoodIo (b : ServiceIo) : Io := { b.markGood with env := b.env, cmdline := some b.cmdline }

/-- What `suderra-ota rollback` finds on this boot. -/
def ServiceIo.rollbackIo (b : ServiceIo) : Io := { b.rollback with env := b.env, cmdline := some b.cmdline }

/-- `active_slot` of `suderra-rauc-boot-state`; the shell drops the newlines at the end of the command line. -/
def bootStateSlot (cmdline : String) : String :=
  let text := ' ' :: (cmdline.toList.reverse.dropWhile (· = '\n')).reverse ++ [' ']
  if Text.contains " rauc.slot=A ".toList text then "A"
  else if Text.contains " rauc.slot=B ".toList text then "B"
  else "unknown"

/-- `suderra-rauc-health-gate` passes. -/
def healthGate (b : ServiceIo) : Bool :=
  b.raucPresent && b.bootStatePresent && b.gate.dataMounted && b.gate.bootMounted && b.gate.raucDirMade &&
    b.gate.preflightCaptured && isSlot (bootStateSlot b.cmdline) && b.gate.raucStatusCaptured &&
    b.gate.agentActive.getD true && b.gate.passedWritten

/-- How the service exits, and the device as it is when `rauc status mark-bad` is issued. -/
structure Outcome where
  success : Bool
  condemned : Option Device

/-- `suderra-ota rollback --reason`, which asks for a reboot. -/
def rollBack (Γ : Ctx) (b : ServiceIo) (reason : String) (dev : Device) : Device :=
  (main Γ ⟨.rollback ⟨reason, false⟩, b.rollbackIo⟩ dev).2

/-- `suderra-rauc-mark-good` with `suderra-ota` present. -/
def suderraRaucMarkGood (Γ : Ctx) (b : ServiceIo) (dev : Device) : Outcome × Device :=
  if !(b.raucPresent && b.bootStatePresent && b.gatePresent && b.raucDirMade) then (⟨false, none⟩, dev)
  else if !healthGate b then (⟨false, some dev⟩, rollBack Γ b "health-gate" dev)
  else if !b.preCaptured then (⟨false, none⟩, dev)
  else
    match main Γ ⟨.markGood ⟨none⟩, b.markGoodIo⟩ dev with
    | (.ok (), dev') => (⟨b.postCaptured, none⟩, dev')
    | (.error _, dev') => (⟨false, some dev'⟩, rollBack Γ b "mark-good-failed" dev')

/-- What happens to a device: a boot that runs the service, or an invocation of `suderra-ota`. -/
inductive Event where
  | boot (b : ServiceIo)
  | command (inv : Invocation)

/-- One event; only a boot has an outcome. -/
def system (Γ : Ctx) (event : Event) (dev : Device) : Option Outcome × Device :=
  match event with
  | .boot b => (some (suderraRaucMarkGood Γ b dev).1, (suderraRaucMarkGood Γ b dev).2)
  | .command inv => (none, (main Γ inv dev).2)

abbrev SystemStep := Step Device Event (Option Outcome)

/-- The service reaches `suderra-ota mark-good`. -/
def ServiceIo.reachesMarkGood (b : ServiceIo) : Bool :=
  b.gatePresent && b.raucDirMade && healthGate b && b.preCaptured

/-- The step boots a healthy `slot` and issues `rauc status mark-bad` on `dev`. -/
def Condemns (step : SystemStep) (slot : String) (dev : Device) : Prop :=
  ∃ b success, step.input = .boot b ∧ healthGate b = true ∧ step.output = some ⟨success, some dev⟩ ∧ b.slot = slot

/-- A healthy slot is condemned only with an update pending for it. -/
def CondemnsOnlyPending (step : SystemStep) : Prop :=
  ∀ slot dev, Condemns step slot dev → dev.pendingVersion ≠ none ∧ dev.pendingBootSlot = some slot

def Event.IsInstall (event : Event) : Prop := ∃ args io, event = .command ⟨.install args, io⟩

/-- Two healthy slots are not both condemned without an install between. -/
def NeverBothBad (trace : List SystemStep) : Prop :=
  ∀ past first mid last rest slot slot' dev dev', trace = past ++ first :: (mid ++ last :: rest) →
    Condemns first slot dev → Condemns last slot' dev' → (∀ step ∈ mid, ¬step.input.IsInstall) → slot' = slot

/-- A boot that reaches `mark-good` finds an update pending for its slot, and its mirror follows its state. -/
def BootsPending (dev : Device) (event : Event) : Prop :=
  match event with
  | .boot b => b.reachesMarkGood = true →
    dev.pendingBootSlot = some b.slot ∧ MirrorFollowsState b.markGoodIo ⟨none⟩ dev
  | .command _ => True

/-! ## The ends of a boot -/

/-- How a boot ends: before it marks anything, after a failed gate, certified, or after a failed `mark-good`. -/
inductive ServiceEnd (Γ : Ctx) (b : ServiceIo) (dev : Device) : Outcome → Device → Prop where
  | stopped (h : b.reachesMarkGood = false) : ServiceEnd Γ b dev ⟨false, none⟩ dev
  | unhealthy (h : healthGate b = false) : ServiceEnd Γ b dev ⟨false, some dev⟩ (rollBack Γ b "health-gate" dev)
  | certified (dev' : Device) (h : b.reachesMarkGood = true)
      (hmain : main Γ ⟨.markGood ⟨none⟩, b.markGoodIo⟩ dev = (.ok (), dev')) :
      ServiceEnd Γ b dev ⟨b.postCaptured, none⟩ dev'
  | refused (e : Error) (dev' : Device) (h : b.reachesMarkGood = true)
      (hmain : main Γ ⟨.markGood ⟨none⟩, b.markGoodIo⟩ dev = (.error e, dev')) :
      ServiceEnd Γ b dev ⟨false, some dev'⟩ (rollBack Γ b "mark-good-failed" dev')

theorem suderraRaucMarkGood_end (Γ : Ctx) (b : ServiceIo) (dev : Device) :
    ServiceEnd Γ b dev (suderraRaucMarkGood Γ b dev).1 (suderraRaucMarkGood Γ b dev).2 := by
  unfold suderraRaucMarkGood
  by_cases hready : (b.raucPresent && b.bootStatePresent && b.gatePresent && b.raucDirMade) = true
  · rw [if_neg (by simp [hready])]
    by_cases hgate : healthGate b = true
    · rw [if_neg (by simp [hgate])]
      by_cases hpre : b.preCaptured = true
      · rw [if_neg (by simp [hpre])]
        have hreaches : b.reachesMarkGood = true := by
          simp only [Bool.and_eq_true] at hready
          simp [ServiceIo.reachesMarkGood, hready.1.2, hready.2, hgate, hpre]
        rcases hmain : main Γ ⟨.markGood ⟨none⟩, b.markGoodIo⟩ dev with ⟨r, dev'⟩
        cases r with
        | ok u => exact .certified dev' hreaches hmain
        | error e => exact .refused e dev' hreaches hmain
      · rw [if_pos (by simpa using hpre)]
        exact .stopped (by simp [ServiceIo.reachesMarkGood, hpre])
    · rw [if_pos (by simpa using hgate)]
      exact .unhealthy (by simpa using hgate)
  · rw [Bool.not_eq_true] at hready
    rw [if_pos (by rw [hready]; rfl)]
    refine .stopped ?_
    -- the gate looks for the binaries again
    by_contra h
    simp [ServiceIo.reachesMarkGood, healthGate] at h
    simp [h] at hready

/-! ## What a boot issues -/

/-- A rollback with a reason issues `rauc status mark-bad` before it touches the state. -/
theorem rollBack_rauc (Γ : Ctx) (b : ServiceIo) {reason : String} (hreason : Text.trim reason ≠ "") (dev : Device) :
    ∃ succeeded, (rollBack Γ b reason dev).rauc = (.markBad, succeeded) :: dev.rauc := by
  obtain ⟨dev₁, hend, hafter⟩ := main_end Γ ⟨.rollback ⟨reason, false⟩, b.rollbackIo⟩ dev
  unfold rollBack
  rw [hafter.rauc]
  generalize (main Γ ⟨.rollback ⟨reason, false⟩, b.rollbackIo⟩ dev).1 = r at hend
  cases hend with
  | refused e hempty => exact absurd hempty hreason
  | raucFails e _ _ => exact ⟨false, rfl⟩
  | stateKept e _ _ => exact ⟨true, rfl⟩
  | recorded state _ _ _ => exact ⟨true, rfl⟩

/-- A mark-good issues no `rauc status mark-bad`. -/
theorem main_markGood_rauc {Γ : Ctx} {io : Io} {args : MarkGoodArgs} {dev dev' : Device} {r : Except Error Unit}
    (h : main Γ ⟨.markGood args, io⟩ dev = (r, dev')) :
    ∃ calls, (∀ call ∈ calls, call.1 = .markGood) ∧ dev'.rauc = calls ++ dev.rauc := by
  obtain ⟨dev₁, hend, hafter⟩ := main_end Γ ⟨.markGood args, io⟩ dev
  rw [h] at hend hafter
  rw [hafter.rauc]
  have issued : ∀ b : Bool, ∀ call ∈ [((RaucCall.markGood, b) : RaucCall × Bool)], call.1 = .markGood := by simp
  cases hend with
  | refused e _ => exact ⟨[], by simp, rfl⟩
  | raucFails state version e _ _ => exact ⟨_, issued false, rfl⟩
  | saveFails state version e _ _ _ => exact ⟨_, issued true, rfl⟩
  | mirrorFails state version floor e e' _ _ _ _ _ => exact ⟨_, issued true, rfl⟩
  | done state version floor _ _ _ _ _ _ => exact ⟨_, issued true, rfl⟩

/-- The commands a boot issues: marks good, and one mark-bad exactly on the device that `condemned` gives. -/
theorem ServiceEnd.rauc {Γ : Ctx} {b : ServiceIo} {dev dev' : Device} {outcome : Outcome}
    (h : ServiceEnd Γ b dev outcome dev') :
    ∃ calls, (∀ call ∈ calls, call.1 = .markGood) ∧
      match outcome.condemned with
      | none => dev'.rauc = calls ++ dev.rauc
      | some condemned => condemned.rauc = calls ++ dev.rauc ∧
        ∃ succeeded, dev'.rauc = (.markBad, succeeded) :: condemned.rauc := by
  cases h with
  | stopped _ => exact ⟨[], by simp, rfl⟩
  | unhealthy _ => exact ⟨[], by simp, rfl, rollBack_rauc Γ b (by decide +kernel) dev⟩
  | certified dev' _ hmain => exact main_markGood_rauc hmain
  | refused e dev' _ hmain =>
    obtain ⟨calls, hcalls, hrauc⟩ := main_markGood_rauc hmain
    exact ⟨calls, hcalls, hrauc, rollBack_rauc Γ b (by decide +kernel) dev'⟩

/-! ## What a boot does to the pending update -/

/-- The pending update of `dev'` is that of `dev`, or nothing. -/
def KeepsOrClears (dev dev' : Device) : Prop :=
  dev'.pendingVersion = dev.pendingVersion ∧ dev'.pendingBootSlot = dev.pendingBootSlot ∨
  dev'.pendingVersion = none ∧ dev'.pendingBootSlot = none

theorem KeepsOrClears.trans {dev dev' dev'' : Device} (h : KeepsOrClears dev dev') (h' : KeepsOrClears dev' dev'') :
    KeepsOrClears dev dev'' := by
  rcases h' with ⟨hv', hs'⟩ | h'
  · rcases h with ⟨hv, hs⟩ | ⟨hv, hs⟩
    · exact Or.inl ⟨hv'.trans hv, hs'.trans hs⟩
    · exact Or.inr ⟨hv'.trans hv, hs'.trans hs⟩
  · exact Or.inr h'

/-- Only an install records a pending update. -/
theorem main_keepsOrClears (Γ : Ctx) {inv : Invocation} (h : ∀ args, inv.command ≠ .install args) (dev : Device) :
    KeepsOrClears dev (main Γ inv dev).2 := by
  cases main_pending Γ inv dev with
  | kept hversion hslot _ _ => exact Or.inl ⟨hversion, hslot⟩
  | cleared hversion hslot _ => exact Or.inr ⟨hversion, hslot⟩
  | recorded args _ _ _ hcommand _ _ _ _ _ => exact absurd hcommand (h args)
  | overwritten args _ _ hcommand _ _ _ _ _ _ => exact absurd hcommand (h args)

theorem rollBack_keepsOrClears (Γ : Ctx) (b : ServiceIo) (reason : String) (dev : Device) :
    KeepsOrClears dev (rollBack Γ b reason dev) :=
  main_keepsOrClears Γ (fun _ h => by cases h) dev

/-- A boot keeps the pending update or clears it, also up to the moment it condemns its slot. -/
theorem ServiceEnd.keepsOrClears {Γ : Ctx} {b : ServiceIo} {dev dev' : Device} {outcome : Outcome}
    (h : ServiceEnd Γ b dev outcome dev') :
    KeepsOrClears dev dev' ∧
    ∀ condemned, outcome.condemned = some condemned → KeepsOrClears dev condemned ∧ KeepsOrClears condemned dev' := by
  have hmark : KeepsOrClears dev (main Γ ⟨.markGood ⟨none⟩, b.markGoodIo⟩ dev).2 :=
    main_keepsOrClears Γ (fun _ h => by cases h) dev
  cases h with
  | stopped _ => exact ⟨Or.inl ⟨rfl, rfl⟩, fun _ h => by cases h⟩
  | unhealthy _ =>
    refine ⟨rollBack_keepsOrClears Γ b _ dev, fun condemned h => ?_⟩
    cases h
    exact ⟨Or.inl ⟨rfl, rfl⟩, rollBack_keepsOrClears Γ b _ dev⟩
  | certified dev' _ hmain =>
    rw [hmain] at hmark
    exact ⟨hmark, fun _ h => by cases h⟩
  | refused e dev' _ hmain =>
    rw [hmain] at hmark
    refine ⟨hmark.trans (rollBack_keepsOrClears Γ b _ dev'), fun condemned h => ?_⟩
    cases h
    exact ⟨hmark, rollBack_keepsOrClears Γ b _ dev'⟩

/-! ## One boot -/

/-- A pending version comes with its slot. -/
def PendingPaired (dev : Device) : Prop := dev.pendingVersion = none ↔ dev.pendingBootSlot = none

theorem KeepsOrClears.paired {dev dev' : Device} (h : KeepsOrClears dev dev') (hpaired : PendingPaired dev) :
    PendingPaired dev' := by
  unfold PendingPaired at *
  rcases h with ⟨hv, hs⟩ | ⟨hv, hs⟩
  · rw [hv, hs]
    exact hpaired
  · exact ⟨fun _ => hs, fun _ => hv⟩

theorem main_paired (Γ : Ctx) (inv : Invocation) {dev : Device} (h : PendingPaired dev) :
    PendingPaired (main Γ inv dev).2 := by
  cases main_pending Γ inv dev with
  | kept hversion hslot _ _ => exact (show KeepsOrClears dev _ from Or.inl ⟨hversion, hslot⟩).paired h
  | cleared hversion hslot _ => exact (show KeepsOrClears dev _ from Or.inr ⟨hversion, hslot⟩).paired h
  | recorded _ _ _ _ _ _ hversion hslot _ _ => simp [PendingPaired, hversion, hslot]
  | overwritten _ _ _ _ _ _ _ hversion hslot _ => exact (show KeepsOrClears dev _ from Or.inl ⟨hversion, hslot⟩).paired h

theorem system_paired (Γ : Ctx) (event : Event) {dev : Device} (h : PendingPaired dev) :
    PendingPaired (system Γ event dev).2 := by
  cases event with
  | boot b => exact (suderraRaucMarkGood_end Γ b dev).keepsOrClears.1.paired h
  | command inv => exact main_paired Γ inv h

/-- `suderra-ota` finds the running slot on the kernel command line. -/
theorem activeBootSlot_markGoodIo (b : ServiceIo) : activeBootSlot b.markGoodIo = some b.slot := by
  simp only [activeBootSlot, ServiceIo.markGoodIo, b.noOverride, Option.map_none, Option.bind_some]
  exact b.running

/-- A `mark-good` of the service that succeeds had an update pending for the running slot. -/
theorem pending_of_certified {Γ : Ctx} {b : ServiceIo} {dev dev' : Device} (hpaired : PendingPaired dev)
    (hmain : main Γ ⟨.markGood ⟨none⟩, b.markGoodIo⟩ dev = (.ok (), dev')) : dev.pendingBootSlot = some b.slot := by
  obtain ⟨state, version, floor, hverify, -, -⟩ := main_markGood_ok (by rw [hmain])
  obtain ⟨hload, hversion, hslot, -⟩ := verifyMarkGood_ok hverify
  obtain ⟨hpv, hps⟩ := loadState_pending hload
  have hpending : dev.pendingVersion = some version := hpv ▸ (versionToMark_ok hversion).1
  cases hs : dev.pendingBootSlot with
  | none =>
    rw [hpaired.2 hs] at hpending
    cases hpending
  | some slot => rw [← activeBootSlot_markGoodIo b, checkActiveSlot_ok hslot (hps.trans hs)]

/-- A `mark-good` of the service clears the pending update exactly when it goes past the state. -/
theorem markGood_mirrorFollowsState {Γ : Ctx} {b : ServiceIo} {dev dev' : Device} {r : Except Error Unit}
    (hmain : main Γ ⟨.markGood ⟨none⟩, b.markGoodIo⟩ dev = (r, dev')) (hpending : dev.pendingVersion ≠ none) :
    MirrorFollowsState b.markGoodIo ⟨none⟩ dev ↔ r = .ok () ∨ dev'.pendingVersion ≠ none := by
  obtain ⟨dev₁, hend, hafter⟩ := main_end Γ ⟨.markGood ⟨none⟩, b.markGoodIo⟩ dev
  rw [hmain] at hend hafter
  obtain ⟨hpv, -⟩ := hafter.pending
  rw [hpv]
  cases hend with
  | refused e hverify =>
    exact ⟨fun _ => Or.inr hpending, fun _ state version h => by rw [hverify] at h; cases h⟩
  | raucFails state version e _ hrauc =>
    exact ⟨fun _ => Or.inr hpending, fun _ state version _ h => by rw [hrauc] at h; cases h⟩
  | saveFails state version e _ _ hsave =>
    refine ⟨fun _ => Or.inr hpending, fun _ state version _ _ => ?_⟩
    rw [if_neg (by rw [hsave]; decide)]
    exact hpending
  | mirrorFails state version floor e e' hverify hrauc hsave _ hfails =>
    refine ⟨fun hfollows => ?_, fun h => ?_⟩
    · have hmirror := hfollows state version hverify hrauc
      rw [if_pos hsave] at hmirror
      rcases hfails with hfails | hfails
      · rw [hmirror.1] at hfails; cases hfails
      · rw [hmirror.2] at hfails; cases hfails
    · rcases h with h | h
      · cases h
      · exact absurd rfl h
  | done state version floor _ _ hsave _ hgate hmirror =>
    refine ⟨fun _ => Or.inl rfl, fun _ state version _ _ => ?_⟩
    rw [if_pos hsave]
    exact ⟨hgate, hmirror⟩

/-- A boot condemns a healthy slot without an update pending for it exactly when it does not meet the condition. -/
theorem boot_condemns_iff (Γ : Ctx) (b : ServiceIo) {dev : Device} (hpaired : PendingPaired dev) :
    CondemnsOnlyPending ⟨dev, .boot b, (system Γ (.boot b) dev).1, (system Γ (.boot b) dev).2⟩ ↔
      BootsPending dev (.boot b) := by
  have hcondemns : CondemnsOnlyPending ⟨dev, .boot b, (system Γ (.boot b) dev).1, (system Γ (.boot b) dev).2⟩ ↔
      ∀ condemned, healthGate b = true → (suderraRaucMarkGood Γ b dev).1.condemned = some condemned →
        condemned.pendingVersion ≠ none ∧ condemned.pendingBootSlot = some b.slot := by
    constructor
    · intro h condemned hgate hcondemned
      refine h b.slot condemned ⟨b, (suderraRaucMarkGood Γ b dev).1.success, rfl, hgate, ?_, rfl⟩
      change some (suderraRaucMarkGood Γ b dev).1 = _
      rw [← hcondemned]
    · rintro h slot condemned ⟨b', success, hinput, hgate, houtput, rfl⟩
      cases hinput
      refine h condemned hgate ?_
      rw [Option.some.inj (show some (suderraRaucMarkGood Γ b dev).1 = _ from houtput)]
  rw [hcondemns]
  have hend := suderraRaucMarkGood_end Γ b dev
  generalize (suderraRaucMarkGood Γ b dev).1 = outcome at hend ⊢
  generalize (suderraRaucMarkGood Γ b dev).2 = dev'' at hend
  unfold BootsPending
  cases hend with
  | stopped h => exact ⟨fun _ hreaches => (by rw [h] at hreaches; cases hreaches), fun _ _ _ hc => by cases hc⟩
  | unhealthy h =>
    have hstops : b.reachesMarkGood = false := by simp [ServiceIo.reachesMarkGood, h]
    exact ⟨fun _ hreaches => (by rw [hstops] at hreaches; cases hreaches),
      fun _ _ hgate _ => by rw [h] at hgate; cases hgate⟩
  | certified dev' hreaches hmain =>
    have hslot := pending_of_certified hpaired hmain
    have hpending : dev.pendingVersion ≠ none := fun h => by rw [hpaired.1 h] at hslot; cases hslot
    exact ⟨fun _ _ => ⟨hslot, (markGood_mirrorFollowsState hmain hpending).2 (Or.inl rfl)⟩, fun _ _ _ hc => by cases hc⟩
  | refused e dev' hreaches hmain =>
    have hgate : healthGate b = true := by
      simp only [ServiceIo.reachesMarkGood, Bool.and_eq_true] at hreaches
      exact hreaches.1.2
    have hkeeps : KeepsOrClears dev (main Γ ⟨.markGood ⟨none⟩, b.markGoodIo⟩ dev).2 :=
      main_keepsOrClears Γ (fun _ h => by cases h) dev
    rw [hmain] at hkeeps
    constructor
    · intro h _
      obtain ⟨hversion, hslot⟩ := h dev' hgate rfl
      rcases hkeeps with ⟨hv, hs⟩ | ⟨hv, -⟩
      · exact ⟨hs ▸ hslot, (markGood_mirrorFollowsState hmain (hv ▸ hversion)).2 (Or.inr hversion)⟩
      · exact absurd hv hversion
    · intro h condemned _ hc
      cases hc
      obtain ⟨hslot, hfollows⟩ := h hreaches
      have hpending : dev.pendingVersion ≠ none := fun h => by rw [hpaired.1 h] at hslot; cases hslot
      rcases (markGood_mirrorFollowsState hmain hpending).1 hfollows with h | hversion
      · cases h
      · rcases hkeeps with ⟨-, hs⟩ | ⟨hv, -⟩
        · exact ⟨hversion, hs.trans hslot⟩
        · exact absurd hv hversion

/-! ## Runs -/

theorem fresh_paired : PendingPaired Device.fresh := ⟨fun _ => rfl, fun _ => rfl⟩

/-- A condemning boot has the pending update of the condemned device, or more, before, and that or none after. -/
theorem Condemns.keepsOrClears {Γ : Ctx} {step : SystemStep} {slot : String} {dev : Device} (h : Condemns step slot dev)
    (hstep : system Γ step.input step.pre = (step.output, step.post)) :
    KeepsOrClears step.pre dev ∧ KeepsOrClears dev step.post := by
  obtain ⟨b, success, hinput, -, houtput, -⟩ := h
  rw [hinput, houtput] at hstep
  obtain ⟨houtcome, hpost⟩ := Prod.mk.inj hstep
  have hend := suderraRaucMarkGood_end Γ b step.pre
  rw [Option.some.inj houtcome, hpost] at hend
  exact hend.keepsOrClears.2 dev rfl

theorem system_keepsOrClears (Γ : Ctx) {event : Event} (h : ¬event.IsInstall) (dev : Device) :
    KeepsOrClears dev (system Γ event dev).2 := by
  cases event with
  | boot b => exact (suderraRaucMarkGood_end Γ b dev).keepsOrClears.1
  | command inv =>
    refine main_keepsOrClears Γ (fun args hargs => h ⟨args, inv.io, ?_⟩) dev
    rw [← hargs]

theorem KeepsOrClears.slot {dev dev' : Device} (h : KeepsOrClears dev dev') :
    dev'.pendingBootSlot = dev.pendingBootSlot ∨ dev'.pendingBootSlot = none := h.imp And.right And.right

/-- Between two condemned healthy slots without an install the pending slot is the first one's or none. -/
theorem neverBothBad (Γ : Ctx) (events : List Event)
    (h : ∀ step ∈ Run.trace (system Γ) Device.fresh events, CondemnsOnlyPending step) :
    NeverBothBad (Run.trace (system Γ) Device.fresh events) := by
  intro past first mid last rest slot slot' dev dev' htrace hfirst hlast hmid
  have hsteps : ∀ step, step = first ∨ step ∈ mid ∨ step = last →
      system Γ step.input step.pre = (step.output, step.post) ∧ CondemnsOnlyPending step := by
    intro step hstep
    have hmem : step ∈ Run.trace (system Γ) Device.fresh events := by
      rw [htrace]
      simp only [List.mem_append, List.mem_cons]
      tauto
    exact ⟨(Run.step_of_mem_trace hmem).1, h step hmem⟩
  obtain ⟨hstepFirst, hpendingFirst⟩ := hsteps first (Or.inl rfl)
  obtain ⟨hstepLast, hpendingLast⟩ := hsteps last (Or.inr (Or.inr rfl))
  have hbetween : last.pre.pendingBootSlot = some slot ∨ last.pre.pendingBootSlot = none := by
    refine Run.trace_between (I := fun d => d.pendingBootSlot = some slot ∨ d.pendingBootSlot = none) htrace ?_ ?_
    · rw [← (hpendingFirst slot dev hfirst).2]
      exact (hfirst.keepsOrClears hstepFirst).2.slot
    · intro step hstep hpre
      have hkeeps := system_keepsOrClears Γ (hmid step hstep) step.pre
      rw [(hsteps step (Or.inr (Or.inl hstep))).1] at hkeeps
      rcases hkeeps.slot with hs | hs
      · rw [hs]
        exact hpre
      · exact Or.inr hs
  have hslot := (hpendingLast slot' dev' hlast).2
  rcases (hlast.keepsOrClears hstepLast).1.slot with hs | hs
  · rw [hs] at hslot
    rcases hbetween with hsome | hnone
    · exact Option.some.inj (hslot.symm.trans hsome)
    · cases hslot.symm.trans hnone
  · cases hslot.symm.trans hs

/-- A boot that reaches `mark-good` without an update pending for its slot condemns it. -/
theorem condemns_of_not_pending (Γ : Ctx) (b : ServiceIo) {dev : Device} (hpaired : PendingPaired dev)
    (hreaches : b.reachesMarkGood = true) (hslot : dev.pendingBootSlot ≠ some b.slot) :
    ∃ dev', Condemns ⟨dev, .boot b, (system Γ (.boot b) dev).1, (system Γ (.boot b) dev).2⟩ b.slot dev' := by
  by_contra hno
  have hcondemns : CondemnsOnlyPending ⟨dev, .boot b, (system Γ (.boot b) dev).1, (system Γ (.boot b) dev).2⟩ := by
    rintro slot dev' hc
    obtain ⟨b', _, hinput, -, -, hb⟩ := id hc
    cases hinput
    exact absurd ⟨dev', hb ▸ hc⟩ hno
  exact hslot ((boot_condemns_iff Γ b hpaired).1 hcondemns hreaches).1

/-- A boot on which everything works. -/
def healthyBoot (slot cmdline : String) (running : cmdlineSlot (Text.splitWhitespace cmdline.toList) = some slot) : ServiceIo where
  cmdline := cmdline
  slot := slot
  running := running
  env := fun _ => none
  noOverride := rfl
  raucPresent := true
  bootStatePresent := true
  gatePresent := true
  raucDirMade := true
  gate := ⟨true, true, true, true, true, some true, true⟩
  preCaptured := true
  postCaptured := true
  markGood := Io.ordinary cmdline
  rollback := Io.ordinary cmdline

def bootA : ServiceIo := healthyBoot "A" "quiet rauc.slot=A" (by decide +kernel)

def bootB : ServiceIo := healthyBoot "B" "quiet rauc.slot=B" (by decide +kernel)

end SuderraOs.Boot
