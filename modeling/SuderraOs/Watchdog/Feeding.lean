import SuderraOs.Lib.Run
import SuderraOs.Watchdog.Settings

/-!
# Feeding the watchdog

The loop of `suderra-watchdog` from its start to its end. A tick asks for the unit's health, restarts the unit on one threshold,
gives up on the other, and feeds the device otherwise. Giving up means to leave with the device still armed: it is neither fed
nor closed, so the hardware resets the system. The counter of the loop is shown to be the streak of inactive results that the
results so far end in (`final_loop`), and from that what a run does at each of its ticks.
-/

namespace SuderraOs.Watchdog

/-! ## The daemon -/

/-- What the daemon does to the world, in the order it does it. -/
inductive Effect where
  | kick
  | magicClose
  | notifyReady
  | notifyWatchdog
  | systemctl (action unit : String)
  deriving DecidableEq, Repr

/-- What the daemon waits for: a tick, with what `systemctl is-active` answers on it, or one of two signals. -/
inductive Event where
  | tick (active : Bool)
  | term
  | intr
  deriving DecidableEq, Repr

/-- A daemon in its loop, with its device if it has one, or one that has left it. -/
inductive Daemon where
  | loop (hwDev : Bool) (consecutiveFail : Nat)
  | left
  deriving DecidableEq, Repr

/-- What the start finds: whether the device opens and takes its first kick, and whether the handlers are installed. -/
structure Boot where
  opens : Bool
  kicked : Bool
  termHandler : Bool
  intrHandler : Bool

/-- From the settings to the loop. A device that does not open is an error only where hardware is required. -/
def start (s : Settings) (boot : Boot) : Except Stop (List Effect × Daemon) := do
  guardError (.error s!"SUDERRA_WATCHDOG_REQUIRE_HW=1 ama {s.devPath} açılamadı") (boot.opens || ! s.requireHw)
  guardError (.error "ilk watchdog kick başarısız") (! boot.opens || boot.kicked)
  guardError (.error "SIGTERM handler kurulamadı") boot.termHandler
  guardError (.error "SIGINT handler kurulamadı") boot.intrHandler
  .ok ((if boot.opens then [.kick] else []) ++ [.notifyReady], .loop boot.opens 0)

/-- The second part of a tick: the device is fed, and so is the watchdog of systemd. -/
def feed (hwDev : Bool) : List Effect := (if hwDev then [.kick] else []) ++ [.notifyWatchdog]

/-- The first part of a tick whose unit is not active, and the second unless the daemon gives up. -/
def unhealthy (profile : Profile) (s : Settings) (unit : String) (hwDev : Bool) (consecutiveFail : Nat) : List Effect × Daemon :=
  match addU64 profile consecutiveFail 1 with
  | .error _ => ([], .left)
  | .ok consecutiveFail =>
    let restart := if consecutiveFail = s.restartAfter then [Effect.systemctl "restart" unit] else []
    if consecutiveFail ≥ s.rebootAfter then
      -- the device is forgotten, not closed
      if hwDev then (restart, .left)
      else (restart ++ [.systemctl "reboot" unit] ++ feed hwDev, .loop hwDev consecutiveFail)
    else (restart ++ feed hwDev, .loop hwDev consecutiveFail)

/-- One turn of the loop. A signal ends it with a clean close of the device. -/
def step (profile : Profile) (s : Settings) : Event → Daemon → List Effect × Daemon
  | _, .left => ([], .left)
  | .tick active, .loop hwDev consecutiveFail =>
    match s.healthUnit with
    | none => (feed hwDev, .loop hwDev consecutiveFail)
    | some unit => if active then (feed hwDev, .loop hwDev 0) else unhealthy profile s unit hwDev consecutiveFail
  | .term, .loop hwDev _ => (if hwDev then [.magicClose] else [], .left)
  | .intr, .loop hwDev _ => (if hwDev then [.magicClose] else [], .left)

/-- A device that is open after the start has had its first kick. -/
theorem start_ok {s : Settings} {boot : Boot} {effects : List Effect} {d : Daemon} (h : start s boot = .ok (effects, d)) :
    d = .loop boot.opens 0 := by
  obtain ⟨-, h⟩ := guardError_bind_ok_iff.1 h
  obtain ⟨-, h⟩ := guardError_bind_ok_iff.1 h
  obtain ⟨-, h⟩ := guardError_bind_ok_iff.1 h
  obtain ⟨-, h⟩ := guardError_bind_ok_iff.1 h
  cases h
  rfl

/-! ## Streaks -/

/-- How many inactive results a history ends in. -/
def streak (past : List Bool) : Nat := (past.reverse.takeWhile (! ·)).length

@[simp] theorem streak_nil : streak [] = 0 := rfl

@[simp] theorem streak_active (past : List Bool) : streak (past ++ [true]) = 0 := by
  simp [streak]

@[simp] theorem streak_inactive (past : List Bool) : streak (past ++ [false]) = streak past + 1 := by
  simp [streak]

/-- The history ends in an inactive result, and the streak it is part of has reached the reboot threshold. -/
def Fatal (s : Settings) (past : List Bool) : Prop := past.getLast? = some false ∧ s.rebootAfter ≤ streak past

/-- The first results of a sequence. -/
def firstResults (results : Nat → Bool) (n : Nat) : List Bool := (List.range n).map results

@[simp] theorem firstResults_zero (results : Nat → Bool) : firstResults results 0 = [] := rfl

theorem firstResults_succ (results : Nat → Bool) (n : Nat) : firstResults results (n + 1) = firstResults results n ++ [results n] := by
  simp [firstResults, List.range_succ]

instance (s : Settings) (past : List Bool) : Decidable (Fatal s past) := inferInstanceAs (Decidable (_ ∧ _))

theorem fatal_append {s : Settings} {past : List Bool} {active : Bool} :
    Fatal s (past ++ [active]) ↔ active = false ∧ s.rebootAfter ≤ streak (past ++ [active]) := by
  simp [Fatal]

/-! ## One tick -/

section
variable {profile : Profile} {s : Settings} {unit : String}

/-- A streak that has not been fatal is a counter that one more failure does not overflow. -/
theorem streak_lt {past : List Bool} (h : ¬ Fatal s past) : streak past + 1 < UInt64.size := by
  have hlt := s.rebootAfter_lt
  rcases List.eq_nil_or_concat past with rfl | ⟨past, active, rfl⟩
  · decide
  · rw [List.concat_eq_append, fatal_append] at h
    rw [List.concat_eq_append]
    cases active with
    | true =>
      rw [streak_active]
      decide
    | false =>
      have : streak (past ++ [false]) < s.rebootAfter := not_le.1 fun hle => h ⟨rfl, hle⟩
      omega

/-- What a tick does in a loop whose counter is the streak of a history that has not been fatal. -/
theorem step_tick (hunit : s.healthUnit = some unit) {past : List Bool} (h : ¬ Fatal s past) (active : Bool) :
    step profile s (.tick active) (.loop true (streak past)) =
      ((if streak (past ++ [active]) = s.restartAfter then [.systemctl "restart" unit] else []) ++
        (if Fatal s (past ++ [active]) then [] else feed true),
      if Fatal s (past ++ [active]) then .left else .loop true (streak (past ++ [active]))) := by
  have hpos := s.restartAfter_pos
  cases active with
  | true =>
    have hrestart : ¬ 0 = s.restartAfter := by omega
    simp only [step, hunit, fatal_append, streak_active, hrestart]
    simp
  | false =>
    simp only [step, hunit, Bool.false_eq_true, if_false, unhealthy, addU64_of_lt (streak_lt h), fatal_append, streak_inactive,
      true_and, if_true, ge_iff_le]
    split_ifs <;> simp

/-! ## Runs -/

/-- The daemon after the first `n` ticks. -/
def after (profile : Profile) (s : Settings) (d : Daemon) (results : Nat → Bool) (n : Nat) : Daemon :=
  Run.final (step profile s) d ((firstResults results n).map .tick)

/-- What the daemon does on tick `i`. -/
def effectsAt (profile : Profile) (s : Settings) (d : Daemon) (results : Nat → Bool) (i : Nat) : List Effect :=
  (step profile s (.tick (results i)) (after profile s d results i)).1

theorem after_succ (profile : Profile) (s : Settings) (d : Daemon) (results : Nat → Bool) (n : Nat) :
    after profile s d results (n + 1) = (step profile s (.tick (results n)) (after profile s d results n)).2 := by
  rw [after, firstResults_succ, List.map_append, Run.final_append]
  rfl

/-- Whoever has left the loop does nothing any more. -/
theorem trace_left (profile : Profile) (s : Settings) (events : List Event) :
    ∀ st ∈ Run.trace (step profile s) .left events, st.output = [] := by
  have hleft (e : Event) : step profile s e .left = ([], .left) := by cases e <;> rfl
  intro st hst
  have hpre : st.pre = .left := (Run.trace_inv (I := (· = Daemon.left)) rfl (fun st hst hpre => by
    have := (Run.step_of_mem_trace hst).1
    rw [hpre, hleft] at this
    exact (Prod.mk.inj this).2.symm) st hst).1
  have := (Run.step_of_mem_trace hst).1
  rw [hpre, hleft] at this
  exact (Prod.mk.inj this).1.symm

/-- No tick before tick `n` has been fatal. -/
def Survived (s : Settings) (results : Nat → Bool) (n : Nat) : Prop := ∀ j < n, ¬ Fatal s (firstResults results (j + 1))

theorem survived_succ {s : Settings} {results : Nat → Bool} {n : Nat} :
    Survived s results (n + 1) ↔ Survived s results n ∧ ¬ Fatal s (firstResults results (n + 1)) :=
  Nat.forall_lt_succ_right

theorem Survived.not_fatal {results : Nat → Bool} {n : Nat} (h : Survived s results n) : ¬ Fatal s (firstResults results n) := by
  cases n with
  | zero => simp [Fatal]
  | succ n => exact (survived_succ.1 h).2

/-- Up to the first fatal tick the counter of the loop is the streak of the results so far. -/
theorem after_of_survived (hunit : s.healthUnit = some unit) {results : Nat → Bool} {n : Nat} (h : Survived s results n) :
    after profile s (.loop true 0) results n = .loop true (streak (firstResults results n)) := by
  induction n with
  | zero => rfl
  | succ n ih =>
    obtain ⟨hpast, hfatal⟩ := survived_succ.1 h
    rw [after_succ, ih hpast, step_tick hunit hpast.not_fatal, ← firstResults_succ]
    exact if_neg hfatal

/-- What a tick does that no fatal one precedes. -/
theorem effectsAt_of_survived (hunit : s.healthUnit = some unit) {results : Nat → Bool} {i : Nat} (h : Survived s results i) :
    effectsAt profile s (.loop true 0) results i =
      (if streak (firstResults results (i + 1)) = s.restartAfter then [.systemctl "restart" unit] else []) ++
        (if Fatal s (firstResults results (i + 1)) then [] else feed true) := by
  rw [effectsAt, after_of_survived hunit h, step_tick hunit h.not_fatal, ← firstResults_succ]

/-- From the first fatal tick on the daemon is gone. -/
theorem after_of_not_survived (hunit : s.healthUnit = some unit) {results : Nat → Bool} {n : Nat} (h : ¬ Survived s results n) :
    after profile s (.loop true 0) results n = .left := by
  induction n with
  | zero => exact absurd (fun j hj => absurd hj (Nat.not_lt_zero j)) h
  | succ n ih =>
    rw [after_succ]
    by_cases hpast : Survived s results n
    · have hfatal : Fatal s (firstResults results (n + 1)) := by
        by_contra hfatal
        exact h (survived_succ.2 ⟨hpast, hfatal⟩)
      rw [after_of_survived hunit hpast, step_tick hunit hpast.not_fatal, ← firstResults_succ]
      exact if_pos hfatal
    · rw [ih hpast]
      rfl

theorem effectsAt_of_not_survived (hunit : s.healthUnit = some unit) {results : Nat → Bool} {i : Nat}
    (h : ¬ Survived s results i) : effectsAt profile s (.loop true 0) results i = [] := by
  rw [effectsAt, after_of_not_survived hunit h]
  rfl

/-- A signal that no fatal tick precedes closes the device. -/
theorem signal_of_survived (hunit : s.healthUnit = some unit) {results : Nat → Bool} {n : Nat} (h : Survived s results n)
    {signal : Event} (hsignal : signal = .term ∨ signal = .intr) :
    step profile s signal (after profile s (.loop true 0) results n) = ([.magicClose], .left) := by
  rw [after_of_survived hunit h]
  rcases hsignal with rfl | rfl <;> rfl

/-- A fatal tick and all that comes after it neither feed the device nor close it. -/
theorem trace_fatal (hunit : s.healthUnit = some unit) {results : Nat → Bool} {i : Nat}
    (hfatal : Fatal s (firstResults results (i + 1))) (later : List Event) :
    ∀ st ∈ Run.trace (step profile s) (after profile s (.loop true 0) results i) (.tick (results i) :: later),
      Effect.kick ∉ st.output ∧ Effect.magicClose ∉ st.output := by
  have hgone : after profile s (.loop true 0) results (i + 1) = .left :=
    after_of_not_survived hunit fun h => (survived_succ.1 h).2 hfatal
  intro st hst
  rw [Run.trace_cons, ← after_succ, hgone] at hst
  rcases List.mem_cons.1 hst with rfl | hst
  · change Effect.kick ∉ effectsAt profile s (.loop true 0) results i ∧
      Effect.magicClose ∉ effectsAt profile s (.loop true 0) results i
    by_cases hpast : Survived s results i
    · rw [effectsAt_of_survived hunit hpast, if_pos hfatal]
      split_ifs <;> simp
    · rw [effectsAt_of_not_survived hunit hpast]
      simp
  · rw [trace_left profile s later st hst]
    simp

/-- The whole run of a daemon that has a device and watches a unit, over any sequence of results and whatever comes after. -/
theorem feeding (profile : Profile) (hunit : s.healthUnit = some unit) {boot : Boot} {effects : List Effect} {d : Daemon}
    (hstart : start s boot = .ok (effects, d)) (hopens : boot.opens = true) (results : Nat → Bool) :
    (∀ i, Effect.kick ∈ effectsAt profile s d results i ↔ ∀ j ≤ i, ¬ Fatal s (firstResults results (j + 1))) ∧
    (∀ i, Fatal s (firstResults results (i + 1)) → ∀ later : List Event,
      ∀ st ∈ Run.trace (step profile s) (after profile s d results i) (.tick (results i) :: later),
        Effect.kick ∉ st.output ∧ Effect.magicClose ∉ st.output) ∧
    (∀ i, Effect.systemctl "restart" unit ∈ effectsAt profile s d results i ↔
      streak (firstResults results (i + 1)) = s.restartAfter ∧ ∀ j < i, ¬ Fatal s (firstResults results (j + 1))) ∧
    (∀ i, results i = true → (∀ j < i, ¬ Fatal s (firstResults results (j + 1))) →
      after profile s d results (i + 1) = .loop true 0) := by
  rw [start_ok hstart, hopens]
  refine ⟨fun i => ?_, fun i hfatal later => trace_fatal hunit hfatal later, fun i => ?_, fun i hactive hpast => ?_⟩
  · have hkick : (∀ j ≤ i, ¬ Fatal s (firstResults results (j + 1))) ↔ Survived s results (i + 1) := by
      simp only [Survived, Nat.lt_succ_iff]
    rw [hkick, survived_succ]
    by_cases hpast : Survived s results i
    · rw [effectsAt_of_survived hunit hpast]
      split_ifs <;> simp [feed, *]
    · rw [effectsAt_of_not_survived hunit hpast]
      simp [hpast]
  · change _ ↔ _ ∧ Survived s results i
    by_cases hpast : Survived s results i
    · rw [effectsAt_of_survived hunit hpast]
      split_ifs <;> simp [feed, *]
    · rw [effectsAt_of_not_survived hunit hpast]
      simp [hpast]
  · have hpast : Survived s results i := hpast
    have hfatal : ¬ Fatal s (firstResults results (i + 1)) := by
      rw [firstResults_succ, hactive, fatal_append]
      simp
    rw [after_of_survived hunit (survived_succ.2 ⟨hpast, hfatal⟩), firstResults_succ, hactive, streak_active]

end

/-- What the daemon is configured with where the environment only names the edge agent. -/
def agentSettings : Settings :=
  ⟨"/dev/watchdog", 60, 20, false, some "suderra-agent.service", 3, 10, by decide, by decide⟩

example : configure .release (fun key => if key = "SUDERRA_WATCHDOG_HEALTH_UNIT" then some " suderra-agent.service" else none) =
    .ok agentSettings := rfl

/-- An agent that never comes up: the third tick restarts it, the ninth is the last to feed the device. -/
theorem feeding_agent :
    Effect.systemctl "restart" "suderra-agent.service" ∈ effectsAt .release agentSettings (.loop true 0) (fun _ => false) 2 ∧
    Effect.kick ∈ effectsAt .release agentSettings (.loop true 0) (fun _ => false) 8 ∧
    Effect.kick ∉ effectsAt .release agentSettings (.loop true 0) (fun _ => false) 9 := by
  have h := @feeding agentSettings "suderra-agent.service" .release rfl ⟨true, true, true, true⟩ [.kick, .notifyReady]
    (.loop true 0) rfl rfl fun _ => false
  exact ⟨(h.2.2.1 2).2 (by decide), (h.1 8).2 (by decide), fun hkick => (h.1 9).1 hkick 9 le_rfl (by decide)⟩

end SuderraOs.Watchdog
