import SuderraOs.Ota.Main

/-!
# `mark_good` as a transaction

`mark_good` marks the slot good in RAUC, advances `state.json` and advances the mirror of the floor, in that order and with no
undo. What a failure leaves is either nothing, or something a retry completes, exactly when no failure comes between the second
and the third of them, or between the first and the second without a pending update to retry.
-/

namespace SuderraOs.Ota

/-- None of the three effects happened. -/
def NoEffect (dev dev' : Device) : Prop :=
  dev'.rauc.count (.markGood, true) = dev.rauc.count (.markGood, true) ∧ dev'.state = dev.state ∧ dev'.mirror = dev.mirror

/-- The three effects of marking `version` good. -/
def AllEffects (version : String) (dev dev' : Device) : Prop :=
  dev'.rauc = (.markGood, true) :: dev.rauc ∧
  ∃ saved, dev'.state = .parsed saved ∧ saved.currentVersion = version ∧ dev'.mirror = some (saved.rollbackFloor ++ "\n")

/-- A retry in the same surroundings, with every command succeeding. -/
def Io.retry (io : Io) : Io :=
  { io with raucSucceeds := true, save := .done, mirrorSource := io.load.gateSource, mirrorSave := .done }

/-- An update is pending, and a retry without a version completes it. -/
def Retryable (io : Io) (dev : Device) : Prop :=
  ∃ version dev', dev.pendingVersion = some version ∧ (markGood io.retry ⟨none⟩).run dev = (.ok (), dev') ∧
    AllEffects version dev dev'

/-- A failed `mark_good` had no effect, or can be retried. -/
def MarkGoodAtomic (io : Io) (args : MarkGoodArgs) (dev : Device) : Prop :=
  ∀ e dev', (markGood io args).run dev = (.error e, dev') → NoEffect dev dev' ∨ Retryable io dev'

/-- When the checks pass and RAUC marks the slot good, the mirror is written if the state is, and an update is pending if the
state is not. -/
def MirrorFollowsState (io : Io) (args : MarkGoodArgs) (dev : Device) : Prop :=
  ∀ state version, verifyMarkGood io args dev = .ok (state, version) → io.raucSucceeds = true →
    if io.save.isDone then
      productionRollbackFloorRequiresMonotonicState io.env io.mirrorSource = .ok () ∧ io.mirrorSave.isDone = true
    else dev.pendingVersion ≠ none

theorem markGood_run_end {io : Io} {args : MarkGoodArgs} {dev dev' : Device} {r : Except Error Unit}
    (h : (markGood io args).run dev = (r, dev')) : MarkGoodEnd io dev args r dev' := by
  cases r with
  | ok u => exact (markGood_end io args dev).ok h
  | error e => exact (markGood_end io args dev).error h

/-- A `mark_good` whose checks pass and whose commands all succeed has all three effects. -/
theorem markGood_completes {io : Io} {args : MarkGoodArgs} {dev : Device} {state : OtaState} {version : String}
    (hverify : verifyMarkGood io args dev = .ok (state, version)) (hrauc : io.raucSucceeds = true)
    (hsave : io.save.isDone = true) (hmirror : io.mirrorSave.isDone = true)
    (hgate : productionRollbackFloorRequiresMonotonicState io.env io.mirrorSource = .ok ()) :
    ∃ dev', (markGood io args).run dev = (.ok (), dev') ∧ AllEffects version dev dev' := by
  rcases hrun : (markGood io args).run dev with ⟨r, dev'⟩
  refine ⟨dev', ?_⟩
  cases markGood_run_end hrun with
  | refused e hrefused => rw [hverify] at hrefused; cases hrefused
  | raucFails _ _ _ _ hfails => rw [hrauc] at hfails; cases hfails
  | saveFails _ _ _ _ _ hfails => rw [hsave] at hfails; cases hfails
  | mirrorFails _ _ _ _ _ _ _ _ _ hfails =>
    rcases hfails with hfails | hfails
    · rw [hgate] at hfails; cases hfails
    · rw [hmirror] at hfails; cases hfails
  | done state' version' floor hverify' _ _ _ _ _ =>
    rw [hverify] at hverify'
    cases hverify'
    exact ⟨rfl, rfl, _, rfl, rfl, rfl⟩

/-- Marking the slot good is an effect. -/
theorem not_noEffect {dev dev' : Device} (h : dev'.rauc = (.markGood, true) :: dev.rauc) : ¬NoEffect dev dev' := by
  rintro ⟨hcount, -⟩
  rw [h, List.count_cons_self] at hcount
  omega

/-- A retry finds what the failed attempt found, and the version it marks is the pending one. -/
theorem verifyMarkGood_retry {io : Io} {args : MarkGoodArgs} {dev : Device} {state : OtaState} {version : String}
    (hverify : verifyMarkGood io args dev = .ok (state, version)) (hpending : dev.pendingVersion = some version) :
    verifyMarkGood io.retry ⟨none⟩ (dev.issue .markGood true) = .ok (state, version) := by
  obtain ⟨state', hload, h⟩ := bind_ok_iff.1 hverify
  obtain ⟨version', _, h⟩ := bind_ok_iff.1 h
  obtain ⟨_, hslot, h⟩ := bind_ok_iff.1 h
  obtain ⟨_, hfloor, h⟩ := bind_ok_iff.1 h
  cases h
  have hversion : versionToMark ⟨none⟩ state = .ok version := by
    simp [versionToMark, (loadState_pending hload).1.trans hpending]
  exact bind_ok_iff.2 ⟨state, hload, bind_ok_iff.2 ⟨version, hversion, bind_ok_iff.2 ⟨(), hslot,
    bind_ok_iff.2 ⟨(), hfloor, rfl⟩⟩⟩⟩

/-- When the state cannot be saved, a retry completes a pending update and nothing else. -/
theorem retryable_of_saveFails {io : Io} {args : MarkGoodArgs} {dev : Device} {state : OtaState} {version : String}
    (hverify : verifyMarkGood io args dev = .ok (state, version)) :
    Retryable io (dev.issue .markGood true) ↔ dev.pendingVersion ≠ none := by
  constructor
  · rintro ⟨pending, _, hpending, -⟩ hnone
    rw [Device.issue_pendingVersion, hnone] at hpending
    cases hpending
  · intro hpending
    obtain ⟨pending, hpending⟩ := Option.ne_none_iff_exists'.1 hpending
    obtain ⟨hload, hversion, -, -⟩ := verifyMarkGood_ok hverify
    obtain rfl := (versionToMark_ok hversion).2 pending ((loadState_pending hload).1.trans hpending)
    have hretry := verifyMarkGood_retry hverify hpending
    obtain ⟨dev', hrun, heffects⟩ := markGood_completes hretry rfl rfl rfl (loadState_ok hload).1
    exact ⟨pending, dev', hpending, hrun, heffects⟩

/-- Once the state is saved nothing is pending, and no retry without a version is possible. -/
theorem not_retryable_of_saved {io : Io} {dev : Device} {version floor : String} {state : OtaState} :
    ¬Retryable io (dev.save (markedGoodState io version floor state)) := by
  rintro ⟨pending, _, hpending, -⟩
  cases hpending

/-- A failed `mark_good` had no effect or can be retried, exactly when the mirror follows the state. -/
theorem markGood_atomic_iff (io : Io) (args : MarkGoodArgs) (dev : Device) :
    MarkGoodAtomic io args dev ↔ MirrorFollowsState io args dev := by
  rcases hrun : (markGood io args).run dev with ⟨r, dev'⟩
  have hend := markGood_run_end hrun
  constructor
  · intro hatomic state version hverify hrauc
    cases hend with
    | refused e hrefused => rw [hverify] at hrefused; cases hrefused
    | raucFails _ _ _ _ hfails => rw [hrauc] at hfails; cases hfails
    | saveFails state' version' e hverify' _ hsave =>
      rw [if_neg (by rw [hsave]; decide)]
      rcases hatomic e _ hrun with hnone | hretry
      · exact absurd hnone (not_noEffect rfl)
      · exact (retryable_of_saveFails hverify).1 hretry
    | mirrorFails _ _ _ e _ _ _ _ _ _ =>
      rcases hatomic e _ hrun with hnone | hretry
      · exact absurd hnone (not_noEffect rfl)
      · exact absurd hretry not_retryable_of_saved
    | done _ _ _ _ _ hsave _ hgate hmirror => rw [if_pos hsave]; exact ⟨hgate, hmirror⟩
  · intro hfollows e dev'' herr
    rw [hrun] at herr
    cases herr
    cases hend with
    | refused _ _ => exact Or.inl ⟨rfl, rfl, rfl⟩
    | raucFails _ _ _ _ _ => exact Or.inl ⟨List.count_cons_of_ne (by decide), rfl, rfl⟩
    | saveFails state version _ hverify hrauc hsave =>
      have hpending := hfollows state version hverify hrauc
      rw [if_neg (by rw [hsave]; decide)] at hpending
      exact Or.inr ((retryable_of_saveFails hverify).2 hpending)
    | mirrorFails state version _ _ _ hverify hrauc hsave _ hfails =>
      have hmirror := hfollows state version hverify hrauc
      rw [if_pos hsave] at hmirror
      rcases hfails with hfails | hfails
      · rw [hmirror.1] at hfails; cases hfails
      · rw [hmirror.2] at hfails; cases hfails

/-- An update to `v1.1.0` that waits in slot `B`. -/
def awaitingMark : Device :=
  ⟨.parsed { OtaState.settled "v1.0.0" with pendingVersion := some "v1.1.0", pendingBootSlot := some "B" }, none, []⟩

/-- The mirror cannot be written after the state was saved: the slot is good, the floor of the mirror is old, and nothing is
pending. -/
theorem not_markGoodAtomic_mirror :
    ¬∀ io args dev, MarkGoodAtomic io args dev := by
  intro h
  have hatomic := h { Io.ordinary "rauc.slot=B" with mirrorSave := .writeFailed "ENOSPC" } ⟨none⟩ awaitingMark
  rcases hatomic "ENOSPC" _ rfl with hnone | hretry
  · exact not_noEffect rfl hnone
  · exact not_retryable_of_saved hretry

end SuderraOs.Ota
