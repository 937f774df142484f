import SuderraOs.Boot.UBoot

/-!
# Boots that userspace does not answer

Between two writes of userspace the boot chooser runs alone, and what it attempts is fixed before the first boot: all tries of the
first slot of the order, then all tries of the next one, and nothing when these are used up (`attempts_follow_schedule`). A power
cut that comes before the environment is saved only delays the schedule.
-/

namespace SuderraOs.Boot

/-- The slots that the order names, as often as it names them. -/
def UBootEnv.slots (env : UBootEnv) : List Slot := (words env.order).filterMap Slot.ofWord

/-- All tries of the first slot, then those of the next; a slot that is named again has none left. -/
def schedule : List Slot → (Slot → Nat) → List Slot
  | [], _ => []
  | slot :: slots, tries => List.replicate (tries slot) slot ++ schedule slots (Function.update tries slot 0)

/-- The attempts of a device that boots from an environment, without userspace. -/
def UBootEnv.schedule (env : UBootEnv) : List Slot := Boot.schedule env.withDefaults.slots env.tries

/-- An end after which the environment is the one that the script saved, or the one before it. -/
def BootEnd.Unanswered (ending : BootEnd) : Prop := ending ≠ .markedGood ∧ ending ≠ .markedBad

instance (ending : BootEnd) : Decidable ending.Unanswered := inferInstanceAs (Decidable (_ ∧ _))

/-- A boot that reached the end of the script's loop. -/
def BootEnd.chose (ending : BootEnd) : Bool := ending ≠ .powerCut false

/-! ## The schedule -/

theorem schedule_of_tries_zero {slot : Slot} {tries : Slot → Nat} (h : tries slot = 0) (slots : List Slot) :
    schedule (slot :: slots) tries = schedule slots tries := by
  have hsame : Function.update tries slot 0 = tries := by rw [← h, Function.update_eq_self]
  rw [schedule, h, List.replicate_zero, List.nil_append, hsame]

/-- The schedule starts with the first slot that has a try left. -/
theorem head?_schedule (slots : List Slot) (tries : Slot → Nat) :
    (schedule slots tries).head? = slots.find? fun slot => 0 < tries slot := by
  induction slots generalizing tries with
  | nil => rfl
  | cons slot slots ih =>
    by_cases htries : tries slot = 0
    · rw [schedule_of_tries_zero htries, ih, List.find?_cons_of_neg (by simp [htries])]
    · obtain ⟨n, hn⟩ := Nat.exists_eq_succ_of_ne_zero htries
      rw [schedule, hn, List.replicate_succ, List.cons_append, List.head?_cons, List.find?_cons_of_pos (by simp [hn])]

/-- An attempt takes the first one off the schedule. -/
theorem tail_schedule {slots : List Slot} {tries : Slot → Nat} {slot : Slot} (h : (schedule slots tries).head? = some slot) :
    schedule slots (Function.update tries slot (tries slot - 1)) = (schedule slots tries).tail := by
  induction slots generalizing tries with
  | nil => cases h
  | cons first slots ih =>
    by_cases htries : tries first = 0
    · have hafter : Function.update tries slot (tries slot - 1) first = 0 := by
        by_cases hslot : first = slot
        · subst hslot
          simp [htries]
        · rw [Function.update_of_ne hslot, htries]
      rw [schedule_of_tries_zero htries] at h ⊢
      rw [schedule_of_tries_zero hafter, ih h]
    · obtain ⟨n, hn⟩ := Nat.exists_eq_succ_of_ne_zero htries
      rw [schedule, hn, List.replicate_succ, List.cons_append, List.head?_cons, Option.some.injEq] at h
      subst h
      rw [schedule, schedule, hn, List.replicate_succ, List.cons_append, List.tail_cons, Function.update_self, Function.update_idem]
      rfl

/-- What the script selects is first on the schedule. -/
theorem firstBootable_eq_head? (env : UBootEnv) : firstBootable env.withDefaults = env.schedule.head? := by
  rw [UBootEnv.schedule, head?_schedule, UBootEnv.slots, List.find?_filterMap]
  unfold firstBootable
  induction words env.withDefaults.order with
  | nil => rfl
  | cons word rest ih =>
    rw [List.findSome?_cons, ih]
    cases hword : Slot.ofWord word with
    | none => simp [hword]
    | some slot =>
      by_cases htries : 0 < env.tries slot <;> simp [hword, htries, Option.filter]

/-! ## Runs -/

theorem UBootEnv.tries_useTry (env : UBootEnv) (slot : Slot) :
    (env.useTry slot).tries = Function.update env.tries slot (env.tries slot - 1) := by
  funext other
  by_cases hother : other = slot
  · subst hother
    simp [useTry]
  · simp [useTry, hother]

/-- An attempt that userspace does not answer leaves the rest of the schedule. -/
theorem schedule_useTry {env : UBootEnv} {slot : Slot} (h : env.schedule.head? = some slot) :
    (env.withDefaults.useTry slot).schedule = env.schedule.tail := by
  have horder : (env.withDefaults.useTry slot).withDefaults.order = env.withDefaults.order := by
    have hne : env.withDefaults.order ≠ "" := by
      unfold UBootEnv.withDefaults
      split_ifs with horder
      · simp
      · exact horder
    exact if_neg hne
  unfold UBootEnv.schedule at h ⊢
  rw [UBootEnv.slots, horder, ← UBootEnv.slots, UBootEnv.tries_useTry]
  exact tail_schedule h

theorem BootEnd.Unanswered.write {ending : BootEnd} (h : ending.Unanswered) (slot : Slot) (env : UBootEnv) : ending.write slot env = env := by
  cases ending with
  | markedGood => exact absurd rfl h.1
  | markedBad => exact absurd rfl h.2
  | _ => rfl

/-- A boot that reached the end of the loop took the first attempt off the schedule, another boot left it. -/
theorem ubootStep_schedule {ending : BootEnd} (h : ending.Unanswered) (env : UBootEnv) :
    (ubootStep ending env).1 = (if ending.chose then env.schedule.head? else none) ∧
      (ubootStep ending env).2.schedule = if ending.chose then env.schedule.tail else env.schedule := by
  have hchange := ubootStep_change ending env
  generalize (ubootStep ending env).1 = output at hchange ⊢
  generalize (ubootStep ending env).2 = env' at hchange ⊢
  cases hchange with
  | idle hidle =>
    rw [firstBootable_eq_head?] at hidle
    rcases hidle with rfl | hnone
    · exact ⟨rfl, rfl⟩
    · rw [hnone, List.head?_eq_none_iff.1 hnone]
      simp
  | attempted slot hfirst hcut =>
    rw [firstBootable_eq_head?] at hfirst
    have hchose : ending.chose = true := by simpa [BootEnd.chose] using hcut
    rw [hchose, if_pos rfl, if_pos rfl, h.write, hfirst, schedule_useTry hfirst]
    exact ⟨rfl, rfl⟩

/-- While userspace does not answer, the boots follow the schedule: the one that comes after `n` others which reached the end of the
loop attempts the `n`-th slot of the schedule, and resets when there is none. -/
theorem attempts_follow_schedule (env : UBootEnv) (ends : List BootEnd) (h : ∀ ending ∈ ends, ending.Unanswered)
    {past rest : List UBootStep} {step : UBootStep} (htrace : Run.trace ubootStep env ends = past ++ step :: rest) :
    step.output = if step.input.chose then env.schedule[past.countP fun before => before.input.chose]? else none := by
  induction ends generalizing env past with
  | nil => simp at htrace
  | cons ending ends ih =>
    obtain ⟨hhead, htail⟩ := List.forall_mem_cons.1 h
    obtain ⟨houtput, hschedule⟩ := ubootStep_schedule hhead env
    rw [Run.trace_cons] at htrace
    cases past with
    | nil =>
      obtain ⟨rfl, -⟩ := List.cons.inj htrace
      simpa [List.head?_eq_getElem?] using houtput
    | cons first past =>
      obtain ⟨rfl, hrest⟩ := List.cons.inj htrace
      rw [ih _ htail hrest, hschedule]
      cases hchose : ending.chose <;> simp [hchose]

/-- A device that was never written: two attempts fail, one boot is cut before it saves and one after it. The next attempt is on `B`. -/
theorem attempts_follow_schedule_unset :
    (ubootStep .loadFails (Run.final ubootStep .unset [.loadFails, .powerCut false, .powerCut true, .bootmFails])).1 = some .B := by
  have hstep := attempts_follow_schedule .unset ([.loadFails, .powerCut false, .powerCut true, .bootmFails] ++ [.loadFails])
    (by decide) (Run.trace_append _ _ _ _)
  exact hstep.trans (by decide +kernel)

end SuderraOs.Boot
