import Mathlib.Tactic.SplitIfs
import SuderraOs.Lib.Effect
import SuderraOs.Lib.Text

/-!
# The settings of the watchdog

`suderra-watchdog` reads its settings from the environment: each is parsed, defaulted, clamped, and some are derived from others.
The timeout is bounded on both sides and the reboot threshold is put above the restart threshold, but an interval that is set is
bounded from below only, and the addition that puts one threshold above the other is one of 64-bit words. The settings are
coherent exactly when neither of these two gaps is reached (`coherentlyConfigured_iff`).
-/

namespace SuderraOs.Watchdog

open Text

/-- The environment; a variable that is not Unicode reads as unset. -/
abbrev Env := String → Option String

/-- How the daemon is built: `dev` checks additions of machine words, `release` does not. -/
inductive Profile where
  | dev
  | release
  deriving DecidableEq, Repr

/-- Why the daemon ends before it watches anything: an error of `main`, or a panic of an addition. -/
inductive Stop where
  | error (message : String)
  | overflow
  deriving DecidableEq, Repr

/-- Addition of two `u64`. -/
def addU64 (profile : Profile) (a b : Nat) : Except Stop Nat :=
  if a + b < UInt64.size then .ok (a + b)
  else
    match profile with
    | .dev => .error .overflow
    | .release => .ok ((a + b) % UInt64.size)

theorem addU64_of_lt {profile : Profile} {a b : Nat} (h : a + b < UInt64.size) : addU64 profile a b = .ok (a + b) := if_pos h

theorem addU64_lt {profile : Profile} {a b n : Nat} (h : addU64 profile a b = .ok n) : n < UInt64.size := by
  unfold addU64 at h
  split_ifs at h with hlt
  · cases h
    exact hlt
  · cases profile
    · cases h
    · cases h
      exact Nat.mod_lt _ (by decide)

def envU64 (env : Env) (key : String) : Option Nat := (env key).bind fun v => parseU64 (trimChars v.toList)

/-- What is parsed fits in 64 bits. -/
theorem parseU64_lt {cs : List Char} {n : Nat} (h : parseU64 cs = some n) : n < UInt64.size := by
  unfold parseU64 at h
  extract_lets digits at h
  split_ifs at h with hd
  cases h
  exact hd.2.2

theorem envU64_lt {env : Env} {key : String} {n : Nat} (h : envU64 env key = some n) : n < UInt64.size := by
  obtain ⟨v, -, hv⟩ := Option.bind_eq_some_iff.1 h
  exact parseU64_lt hv

/-- The timeout the daemon asks the device for; the clamp keeps it in the `i32` it is cast to. -/
def timeoutSecs (env : Env) : Nat := min (max ((envU64 env "SUDERRA_WATCHDOG_TIMEOUT_SECS").getD 60) 2) 3600

def intervalSecs (env : Env) : Nat := max ((envU64 env "SUDERRA_WATCHDOG_INTERVAL_SECS").getD (timeoutSecs env / 3)) 1

def devPath (env : Env) : String := (env "SUDERRA_WATCHDOG_DEV").getD "/dev/watchdog"

def requireHw (env : Env) : Bool := env "SUDERRA_WATCHDOG_REQUIRE_HW" = some "1"

/-- A token that is safe to hand to `systemctl`; the length is the one in bytes. -/
def validUnitName (name : String) : Bool :=
  name ≠ "" && name.utf8ByteSize ≤ 256 && name.toList.all fun c => c.isAlphanum || c ∈ ['-', '_', '.', '@', ':', '\\']

/-- The unit that is watched, if one is named. -/
def healthUnit (env : Env) : Option String := ((env "SUDERRA_WATCHDOG_HEALTH_UNIT").map trim).filter (· ≠ "")

def checkHealthUnit (env : Env) : Except Stop Unit :=
  match healthUnit env with
  | none => .ok ()
  | some unit => guardError (.error s!"SUDERRA_WATCHDOG_HEALTH_UNIT geçersiz unit adı: {repr unit}") (validUnitName unit)

/-- The environment names no unit, or one whose name is a token. -/
def UnitAccepted (env : Env) : Prop := ∀ unit, healthUnit env = some unit → validUnitName unit = true

theorem checkHealthUnit_ok_iff {env : Env} {u : Unit} : checkHealthUnit env = .ok u ↔ UnitAccepted env := by
  unfold checkHealthUnit UnitAccepted
  cases healthUnit env with
  | none => simp
  | some unit => simp [guardError_ok_iff]

theorem checkHealthUnit_of_not_accepted {env : Env} (h : ¬ UnitAccepted env) :
    ∃ message, checkHealthUnit env = .error (.error message) := by
  cases hcheck : checkHealthUnit env with
  | ok u => exact absurd (checkHealthUnit_ok_iff.1 hcheck) h
  | error stop =>
    unfold checkHealthUnit guardError at hcheck
    split at hcheck
    · cases hcheck
    · split_ifs at hcheck
      exact ⟨_, by rw [← Except.error.inj hcheck]⟩

def restartAfter (env : Env) : Nat := max ((envU64 env "SUDERRA_WATCHDOG_RESTART_AFTER").getD 3) 1

def rebootAfter (profile : Profile) (env : Env) : Except Stop Nat := do
  let floor ← addU64 profile (restartAfter env) 1
  .ok (max ((envU64 env "SUDERRA_WATCHDOG_REBOOT_AFTER").getD 10) floor)

/-- What the environment configures. A restart threshold is never zero and both thresholds are 64-bit words. -/
structure Settings where
  devPath : String
  timeoutSecs : Nat
  intervalSecs : Nat
  requireHw : Bool
  healthUnit : Option String
  restartAfter : Nat
  rebootAfter : Nat
  restartAfter_pos : 1 ≤ restartAfter
  rebootAfter_lt : rebootAfter < UInt64.size

theorem restartAfter_pos (env : Env) : 1 ≤ restartAfter env := Nat.le_max_right _ _

theorem restartAfter_lt (env : Env) : restartAfter env < UInt64.size := by
  unfold restartAfter
  cases h : envU64 env "SUDERRA_WATCHDOG_RESTART_AFTER" with
  | none => decide
  | some n => exact max_lt (envU64_lt h) (by decide)

theorem rebootAfter_lt {profile : Profile} {env : Env} {n : Nat} (h : rebootAfter profile env = .ok n) : n < UInt64.size := by
  obtain ⟨floor, hfloor, h⟩ := bind_ok_iff.1 h
  cases h
  refine max_lt ?_ (addU64_lt hfloor)
  cases h : envU64 env "SUDERRA_WATCHDOG_REBOOT_AFTER" with
  | none => decide
  | some n => exact envU64_lt h

/-- The settings `main` computes, in its order: the unit name is checked before the thresholds are derived. -/
def configure (profile : Profile) (env : Env) : Except Stop Settings := do
  checkHealthUnit env
  match h : rebootAfter profile env with
  | .error stop => .error stop
  | .ok reboot =>
    .ok { devPath := devPath env, timeoutSecs := timeoutSecs env, intervalSecs := intervalSecs env, requireHw := requireHw env,
          healthUnit := healthUnit env, restartAfter := restartAfter env, rebootAfter := reboot,
          restartAfter_pos := restartAfter_pos env, rebootAfter_lt := rebootAfter_lt h }

/-- A configuration is made of what each variable gives. -/
theorem configure_ok {profile : Profile} {env : Env} {s : Settings} (h : configure profile env = .ok s) :
    UnitAccepted env ∧ rebootAfter profile env = .ok s.rebootAfter ∧ s.timeoutSecs = timeoutSecs env ∧
      s.intervalSecs = intervalSecs env ∧ s.restartAfter = restartAfter env ∧ s.healthUnit = healthUnit env := by
  obtain ⟨u, hunit, h⟩ := bind_ok_iff.1 h
  split at h
  · cases h
  · rename_i reboot hreboot
    cases h
    exact ⟨checkHealthUnit_ok_iff.1 hunit, hreboot, rfl, rfl, rfl, rfl⟩

theorem configure_eq_ok {profile : Profile} {env : Env} {reboot : Nat} (hunit : UnitAccepted env)
    (h : rebootAfter profile env = .ok reboot) : ∃ s, configure profile env = .ok s := by
  unfold configure
  rw [checkHealthUnit_ok_iff (u := ()).2 hunit, ok_bind]
  split
  · rename_i stop hstop
    rw [h] at hstop
    cases hstop
  · exact ⟨_, rfl⟩

theorem configure_eq_error {profile : Profile} {env : Env} {stop : Stop} (hunit : UnitAccepted env)
    (h : rebootAfter profile env = .error stop) : configure profile env = .error stop := by
  unfold configure
  rw [checkHealthUnit_ok_iff (u := ()).2 hunit, ok_bind]
  split
  · rename_i stop' hstop
    rw [h] at hstop
    rw [Except.error.inj hstop]
  · rename_i n hn
    rw [h] at hn
    cases hn

/-- The name of the unit is the only thing that `main` refuses in the environment. -/
theorem configure_of_not_accepted (profile : Profile) {env : Env} (h : ¬ UnitAccepted env) :
    ∃ message, configure profile env = .error (.error message) := by
  obtain ⟨message, hmessage⟩ := checkHealthUnit_of_not_accepted h
  unfold configure
  rw [hmessage]
  exact ⟨message, rfl⟩

/-! ## Coherence -/

/-- A healthy system is fed before the device fires, and a unit is restarted before the system is. -/
structure Settings.Coherent (s : Settings) : Prop where
  interval_pos : 1 ≤ s.intervalSecs
  interval_lt : s.intervalSecs < s.timeoutSecs
  restart_pos : 1 ≤ s.restartAfter
  restart_lt : s.restartAfter < s.rebootAfter

/-- The daemon computes its settings without an overflow, and those it computes are coherent. -/
def CoherentlyConfigured (profile : Profile) (env : Env) : Prop :=
  configure profile env ≠ .error .overflow ∧ ∀ s, configure profile env = .ok s → s.Coherent

/-- The interval that is set, if one is, is below the timeout. -/
def IntervalFits (env : Env) : Prop := ∀ n, envU64 env "SUDERRA_WATCHDOG_INTERVAL_SECS" = some n → max n 1 < timeoutSecs env

/-- The restart threshold that is set, if one is, leaves a word above it. -/
def RestartFits (env : Env) : Prop := envU64 env "SUDERRA_WATCHDOG_RESTART_AFTER" ≠ some (UInt64.size - 1)

/-- A third of a timeout of at least two seconds is below it, and so is one second. -/
theorem intervalSecs_lt_iff (env : Env) : intervalSecs env < timeoutSecs env ↔ IntervalFits env := by
  unfold intervalSecs IntervalFits
  cases h : envU64 env "SUDERRA_WATCHDOG_INTERVAL_SECS" with
  | none =>
    have htimeout : 2 ≤ timeoutSecs env := by
      unfold timeoutSecs
      omega
    simp only [Option.getD_none]
    exact iff_of_true (max_lt (by omega) (by omega)) nofun
  | some n => simp

theorem restartFits_iff (env : Env) : RestartFits env ↔ restartAfter env + 1 < UInt64.size := by
  have hlt := restartAfter_lt env
  have hlast : envU64 env "SUDERRA_WATCHDOG_RESTART_AFTER" = some (UInt64.size - 1) ↔ restartAfter env + 1 = UInt64.size := by
    unfold restartAfter
    cases envU64 env "SUDERRA_WATCHDOG_RESTART_AFTER" with
    | none => decide
    | some n =>
      rw [Option.some_inj, Option.getD_some, UInt64.size]
      omega
  rw [RestartFits, Ne, hlast]
  omega

/-- Where a word is left above the restart threshold, the reboot threshold is above it. -/
theorem rebootAfter_of_fits (profile : Profile) {env : Env} (h : RestartFits env) :
    ∃ n, rebootAfter profile env = .ok n ∧ restartAfter env < n := by
  refine ⟨max ((envU64 env "SUDERRA_WATCHDOG_REBOOT_AFTER").getD 10) (restartAfter env + 1), ?_, ?_⟩
  · rw [rebootAfter, addU64_of_lt ((restartFits_iff env).1 h), ok_bind]
  · exact lt_of_lt_of_le (Nat.lt_succ_self _) (Nat.le_max_right _ _)

/-- Where none is left the addition panics, or it wraps and no word is above the restart threshold. -/
theorem rebootAfter_of_not_fits (profile : Profile) {env : Env} (h : ¬ RestartFits env) :
    rebootAfter profile env = .error .overflow ∨ ∃ n, rebootAfter profile env = .ok n ∧ n ≤ restartAfter env := by
  have hlt := restartAfter_lt env
  rw [restartFits_iff] at h
  cases hreboot : rebootAfter profile env with
  | ok n =>
    have := rebootAfter_lt hreboot
    exact Or.inr ⟨n, rfl, by omega⟩
  | error stop =>
    unfold rebootAfter addU64 at hreboot
    rw [if_neg h] at hreboot
    cases profile <;> cases hreboot
    exact Or.inl rfl

/-- Unless the unit name is refused first, the settings are coherent exactly when an interval that is set is below the timeout
and the restart threshold is not the largest word. -/
theorem coherentlyConfigured_iff (profile : Profile) (env : Env) :
    CoherentlyConfigured profile env ↔
      (UnitAccepted env → IntervalFits env ∧ RestartFits env) := by
  by_cases hunit : UnitAccepted env
  · rw [← intervalSecs_lt_iff, CoherentlyConfigured]
    by_cases hrestart : RestartFits env
    · obtain ⟨n, hreboot, hlt⟩ := rebootAfter_of_fits profile hrestart
      obtain ⟨s, hs⟩ := configure_eq_ok hunit hreboot
      obtain ⟨-, hn, htimeout, hinterval, hthreshold, -⟩ := configure_ok hs
      rw [hs]
      constructor
      · rintro ⟨-, hcoherent⟩ -
        exact ⟨by rw [← hinterval, ← htimeout]; exact (hcoherent s rfl).interval_lt, hrestart⟩
      · intro h
        refine ⟨nofun, fun t ht => ?_⟩
        cases ht
        rw [hreboot] at hn
        exact ⟨hinterval ▸ Nat.le_max_right _ _, by rw [hinterval, htimeout]; exact (h hunit).1, s.restartAfter_pos,
          by rw [hthreshold, ← Except.ok.inj hn]; exact hlt⟩
    · refine iff_of_false ?_ fun h => hrestart (h hunit).2
      rintro ⟨hadd, hcoherent⟩
      rcases rebootAfter_of_not_fits profile hrestart with hreboot | ⟨n, hreboot, hle⟩
      · exact hadd (configure_eq_error hunit hreboot)
      · obtain ⟨s, hs⟩ := configure_eq_ok hunit hreboot
        obtain ⟨-, hn, -, -, hthreshold, -⟩ := configure_ok hs
        have hlt := (hcoherent s hs).restart_lt
        rw [hreboot] at hn
        rw [hthreshold, ← Except.ok.inj hn] at hlt
        omega
  · obtain ⟨message, hmessage⟩ := configure_of_not_accepted profile hunit
    rw [CoherentlyConfigured, hmessage]
    exact iff_of_true ⟨nofun, nofun⟩ fun h => absurd h hunit

/-- A daemon that is told to feed every ten minutes a device that fires after one. -/
def slowEnv : Env := fun key => if key = "SUDERRA_WATCHDOG_INTERVAL_SECS" then some "600" else none

/-- It is configured so: the device fires before it is fed again. -/
theorem slowEnv_not_coherent : ¬ CoherentlyConfigured .release slowEnv := by
  rintro ⟨-, h⟩
  have hslow := (h _ rfl).interval_lt
  revert hslow
  decide +kernel

end SuderraOs.Watchdog
