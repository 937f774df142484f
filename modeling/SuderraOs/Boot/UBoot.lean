import Mathlib.Data.List.Basic
import SuderraOs.Boot.Slots
import SuderraOs.Lib.Run

/-!
# The ARM boot chooser

`boot.scr` over the U-Boot environment: `BOOT_ORDER` and the counters `BOOT_A_LEFT` and `BOOT_B_LEFT`. Every boot uses up a try
of the slot it attempts, and only userspace gives tries back. The script attempts what it should and as often as it should; it
resets forever exactly once both counters are used up.
-/

namespace SuderraOs.Boot

/-- The saved environment; a variable that is not set is empty or none. The counters are natural numbers. -/
structure UBootEnv where
  order : String
  left : Slot → Option Nat

/-- An environment in which no variable is set. -/
def UBootEnv.unset : UBootEnv := ⟨"", fun _ => none⟩

/-- The tries a slot has left, with the script's default. -/
def UBootEnv.tries (env : UBootEnv) (slot : Slot) : Nat := (env.left slot).getD 3

/-- The defaults of the script. -/
def UBootEnv.withDefaults (env : UBootEnv) : UBootEnv where
  order := if env.order = "" then "A B" else env.order
  left := fun slot => some (env.tries slot)

def UBootEnv.setLeft (env : UBootEnv) (slot : Slot) (n : Nat) : UBootEnv :=
  { env with left := Function.update env.left slot (some n) }

@[simp] theorem UBootEnv.tries_setLeft_self (env : UBootEnv) (slot : Slot) (n : Nat) : (env.setLeft slot n).tries slot = n := by
  simp [tries, setLeft]

@[simp] theorem UBootEnv.tries_setLeft_of_ne (env : UBootEnv) {slot other : Slot} (h : other ≠ slot) (n : Nat) :
    (env.setLeft slot n).tries other = env.tries other := by
  simp [tries, setLeft, Function.update_of_ne h]

@[simp] theorem UBootEnv.tries_withDefaults (env : UBootEnv) (slot : Slot) : env.withDefaults.tries slot = env.tries slot := rfl

/-- The variables of the script, the saved environment and `bootslot`. -/
structure UBoot where
  vars : UBootEnv
  file : UBootEnv
  bootslot : Option Slot

/-- The environment with one try of a slot used up. -/
def UBootEnv.useTry (env : UBootEnv) (slot : Slot) : UBootEnv := env.setLeft slot (env.tries slot - 1)

/-- The body of the loop over `BOOT_ORDER`: the first slot with a try left loses one, which is saved, and becomes `bootslot`. -/
def trySlot (u : UBoot) (word : List Char) : UBoot :=
  if u.bootslot = none then
    match Slot.ofWord word with
    | none => u
    | some slot => if 0 < u.vars.tries slot then ⟨u.vars.useTry slot, u.vars.useTry slot, some slot⟩ else u
  else u

/-- `boot.scr` up to its last message: the slot it selected and the environment it saved. -/
def bootScr (env : UBootEnv) : Option Slot × UBootEnv :=
  let u := (words env.withDefaults.order).foldl trySlot ⟨env.withDefaults, env, none⟩
  (u.bootslot, u.file)

/-- How a boot ends. A power cut comes before the environment is saved or after it; the other ends come after it. -/
inductive BootEnd where
  | powerCut (saved : Bool)
  | loadFails
  | bootmFails
  | markedGood
  | markedBad
  deriving DecidableEq

/-- What an end writes to the environment of the attempted slot: userspace gives all tries back, or takes them. -/
def BootEnd.write (ending : BootEnd) (slot : Slot) (env : UBootEnv) : UBootEnv :=
  match ending with
  | .markedGood => env.setLeft slot 3
  | .markedBad => env.setLeft slot 0
  | _ => env

/-- One boot: the slot it attempted, or none when the power went too early or the script resets. -/
def ubootStep (ending : BootEnd) (env : UBootEnv) : Option Slot × UBootEnv :=
  match bootScr env with
  | (none, env') => (none, env')
  | (some slot, env') => if ending = .powerCut false then (none, env) else (some slot, ending.write slot env')

abbrev UBootStep := Step UBootEnv BootEnd (Option Slot)

/-! ## What the script should meet -/

/-- The first slot of `BOOT_ORDER` that has a try left. -/
def firstBootable (env : UBootEnv) : Option Slot :=
  (words env.order).findSome? fun word => (Slot.ofWord word).filter fun slot => 0 < env.tries slot

/-- A boot that is not cut before it saves attempts the first bootable slot, and the environment it boots with is the old one
with the defaults and one try of that slot less. -/
def AttemptsFirst (step : UBootStep) : Prop :=
  step.input ≠ .powerCut false → step.output = firstBootable step.pre.withDefaults ∧
    ∀ slot, step.output = some slot → ∃ booted, step.post = step.input.write slot booted ∧
      booted.order = step.pre.withDefaults.order ∧ booted.tries slot + 1 = step.pre.tries slot ∧
      booted.tries slot.other = step.pre.tries slot.other

/-- Along steps in which a slot is not marked good, it is attempted at most as often as it has tries before the first. -/
def AttemptsBounded (trace : List UBootStep) : Prop :=
  ∀ past first seg rest slot, trace = past ++ (first :: seg ++ rest) →
    (∀ step ∈ first :: seg, ¬(step.output = some slot ∧ step.input = .markedGood)) →
    (first :: seg).countP (fun step => step.output = some slot) ≤ first.pre.tries slot

/-- However its boots end, no boot from `env` on attempts a slot. -/
def Stranded (env : UBootEnv) : Prop := ∀ ends, ∀ step ∈ Run.trace ubootStep env ends, step.output = none

/-- The boot does not use up the last try: a failure leaves one, and a slot marked bad leaves one of the other. -/
def KeepsATry (env : UBootEnv) (ending : BootEnd) : Prop :=
  match ending with
  | .powerCut false | .markedGood => True
  | .powerCut true | .loadFails | .bootmFails => 2 ≤ env.tries .A + env.tries .B
  | .markedBad => 0 < env.tries .A ∧ 0 < env.tries .B

/-! ## One boot -/

/-- Once a slot is selected the loop does nothing more. -/
theorem foldl_trySlot_selected (order : List (List Char)) (u : UBoot) {slot : Slot} (h : u.bootslot = some slot) :
    order.foldl trySlot u = u := by
  induction order with
  | nil => rfl
  | cons word rest ih => rw [List.foldl_cons, show trySlot u word = u by simp [trySlot, h], ih]

/-- The loop selects the first slot with a try left, and uses it up. -/
theorem foldl_trySlot (order : List (List Char)) (vars file : UBootEnv) :
    order.foldl trySlot ⟨vars, file, none⟩ =
      match order.findSome? fun word => (Slot.ofWord word).filter fun slot => 0 < vars.tries slot with
      | none => ⟨vars, file, none⟩
      | some slot => ⟨vars.useTry slot, vars.useTry slot, some slot⟩ := by
  induction order with
  | nil => rfl
  | cons word rest ih =>
    rw [List.foldl_cons, List.findSome?_cons]
    cases hword : Slot.ofWord word with
    | none =>
      rw [show trySlot ⟨vars, file, none⟩ word = ⟨vars, file, none⟩ by simp [trySlot, hword], ih]
      rfl
    | some slot =>
      by_cases htries : 0 < vars.tries slot
      · rw [show trySlot ⟨vars, file, none⟩ word = ⟨vars.useTry slot, vars.useTry slot, some slot⟩ by
            simp [trySlot, hword, htries], foldl_trySlot_selected rest _ rfl]
        simp [Option.filter, htries]
      · rw [show trySlot ⟨vars, file, none⟩ word = ⟨vars, file, none⟩ by simp [trySlot, hword, htries], ih]
        simp [Option.filter, htries]

/-- What `boot.scr` selects and saves. -/
theorem bootScr_eq (env : UBootEnv) :
    bootScr env = match firstBootable env.withDefaults with
      | none => (none, env)
      | some slot => (some slot, env.withDefaults.useTry slot) := by
  simp only [bootScr, foldl_trySlot]
  unfold firstBootable
  split <;> rfl

/-- What one boot does: nothing that is saved, or an attempt on the first bootable slot. -/
inductive UBootChange (ending : BootEnd) (env : UBootEnv) : Option Slot → UBootEnv → Prop where
  | idle (h : ending = .powerCut false ∨ firstBootable env.withDefaults = none) : UBootChange ending env none env
  | attempted (slot : Slot) (hfirst : firstBootable env.withDefaults = some slot) (hending : ending ≠ .powerCut false) :
      UBootChange ending env (some slot) (ending.write slot (env.withDefaults.useTry slot))

theorem ubootStep_change (ending : BootEnd) (env : UBootEnv) :
    UBootChange ending env (ubootStep ending env).1 (ubootStep ending env).2 := by
  unfold ubootStep
  rw [bootScr_eq]
  cases hfirst : firstBootable env.withDefaults with
  | none => exact .idle (Or.inr hfirst)
  | some slot =>
    dsimp only
    by_cases hcut : ending = .powerCut false
    · rw [if_pos hcut]
      exact .idle (Or.inl hcut)
    · rw [if_neg hcut]
      exact .attempted slot hfirst hcut

/-- The slot that is attempted has a try left. -/
theorem firstBootable_tries {env : UBootEnv} {slot : Slot} (h : firstBootable env = some slot) : 0 < env.tries slot := by
  obtain ⟨word, _, hword⟩ := List.exists_of_findSome?_eq_some h
  rw [Option.filter_eq_some_iff] at hword
  simpa using hword.2

theorem Slot.other_ne (slot : Slot) : slot.other ≠ slot := by cases slot <;> decide

/-- Every boot attempts the first bootable slot with one try of it less. -/
theorem ubootStep_attemptsFirst (ending : BootEnd) (env : UBootEnv) :
    AttemptsFirst ⟨env, ending, (ubootStep ending env).1, (ubootStep ending env).2⟩ := by
  have hchange := ubootStep_change ending env
  generalize (ubootStep ending env).1 = output at hchange ⊢
  generalize (ubootStep ending env).2 = env' at hchange ⊢
  intro hcut
  cases hchange with
  | idle h => exact ⟨(h.resolve_left hcut).symm, fun slot hslot => by cases hslot⟩
  | attempted slot hfirst _ =>
    refine ⟨hfirst.symm, fun slot' hslot => ⟨env.withDefaults.useTry slot, ?_, rfl, ?_, ?_⟩⟩ <;> cases hslot
    · rfl
    · have htries := firstBootable_tries hfirst
      simp only [UBootEnv.tries_withDefaults] at htries
      simp only [UBootEnv.useTry, UBootEnv.tries_setLeft_self, UBootEnv.tries_withDefaults]
      omega
    · simp [UBootEnv.useTry, slot.other_ne]

/-! ## Attempts -/

/-- An attempt that does not end with the slot marked good leaves fewer tries of it. -/
theorem tries_write_lt {ending : BootEnd} (h : ending ≠ .markedGood) {env : UBootEnv} {slot : Slot} (htries : 0 < env.tries slot) :
    (ending.write slot (env.useTry slot)).tries slot < env.tries slot := by
  cases ending with
  | markedGood => exact absurd rfl h
  | markedBad => simpa [BootEnd.write] using htries
  | _ => simp [BootEnd.write, UBootEnv.useTry]; omega

/-- An attempt on one slot keeps the tries of another. -/
theorem tries_write_of_ne (ending : BootEnd) (env : UBootEnv) {slot other : Slot} (h : other ≠ slot) :
    (ending.write slot (env.useTry slot)).tries other = env.tries other := by
  cases ending <;> simp [BootEnd.write, UBootEnv.useTry, h]

/-- In a run that never marks a slot good, the slot is attempted at most as often as it has tries. -/
theorem attempts_le_tries {slot : Slot} (ends : List BootEnd) (env : UBootEnv)
    (h : ∀ step ∈ Run.trace ubootStep env ends, ¬(step.output = some slot ∧ step.input = .markedGood)) :
    (Run.trace ubootStep env ends).countP (fun step => step.output = some slot) ≤ env.tries slot := by
  induction ends generalizing env with
  | nil => simp
  | cons ending ends ih =>
    rw [Run.trace_cons] at h ⊢
    obtain ⟨hhead, htail⟩ := List.forall_mem_cons.1 h
    have hrest := ih _ htail
    have hchange := ubootStep_change ending env
    rw [List.countP_cons]
    dsimp only at hhead ⊢
    generalize (ubootStep ending env).1 = output at hhead hchange ⊢
    generalize (ubootStep ending env).2 = env' at hrest hchange ⊢
    cases hchange with
    | idle _ => simpa using hrest
    | attempted slot' hfirst _ =>
      by_cases hslot : slot' = slot
      · subst hslot
        have hlt := tries_write_lt (fun hgood => hhead ⟨rfl, hgood⟩) (firstBootable_tries hfirst)
        rw [UBootEnv.tries_withDefaults] at hlt
        simp only [decide_true, if_true]
        omega
      · rw [tries_write_of_ne ending _ (Ne.symm hslot), UBootEnv.tries_withDefaults] at hrest
        simpa [hslot] using hrest

theorem attemptsBounded (ends : List BootEnd) (env : UBootEnv) : AttemptsBounded (Run.trace ubootStep env ends) := by
  intro past first seg rest slot htrace hgood
  obtain ⟨_, ends', -, hsuffix⟩ := Run.trace_eq_append htrace
  obtain ⟨ends'', _, hseg, -⟩ := Run.trace_eq_append hsuffix.symm
  rw [hseg] at hgood ⊢
  have hle := attempts_le_tries ends'' _ hgood
  cases ends'' with
  | nil => cases hseg
  | cons ending ends'' => rwa [(List.cons.inj hseg).1]

/-! ## Stranding -/

/-- The environments the script leaves: the order is the default one. -/
def DefaultOrder (env : UBootEnv) : Prop := env.order = "" ∨ env.order = "A B"

theorem DefaultOrder.withDefaults {env : UBootEnv} (h : DefaultOrder env) : env.withDefaults.order = "A B" := by
  rcases h with h | h <;> simp [UBootEnv.withDefaults, h]

theorem BootEnd.write_order (ending : BootEnd) (slot : Slot) (env : UBootEnv) : (ending.write slot env).order = env.order := by
  cases ending <;> rfl

theorem DefaultOrder.step {env : UBootEnv} (h : DefaultOrder env) (ending : BootEnd) :
    DefaultOrder (ubootStep ending env).2 := by
  have hchange := ubootStep_change ending env
  generalize (ubootStep ending env).1 = output at hchange
  generalize (ubootStep ending env).2 = env' at hchange ⊢
  cases hchange with
  | idle _ => exact h
  | attempted slot _ _ =>
    refine Or.inr ?_
    rw [BootEnd.write_order]
    exact h.withDefaults

/-- In the default order slot `A` comes first. -/
theorem DefaultOrder.firstBootable {env : UBootEnv} (h : DefaultOrder env) :
    firstBootable env.withDefaults =
      if 0 < env.tries .A then some .A else if 0 < env.tries .B then some .B else none := by
  have hwords : words "A B" = [Slot.A.word, Slot.B.word] := by decide +kernel
  simp only [Boot.firstBootable, h.withDefaults, hwords, List.findSome?_cons, Slot.ofWord_word, UBootEnv.tries_withDefaults]
  by_cases hA : 0 < env.tries .A <;> by_cases hB : 0 < env.tries .B <;> simp [Option.filter, hA, hB]

/-- A device is stranded exactly when no slot has a try left. -/
theorem stranded_iff {env : UBootEnv} (h : DefaultOrder env) : Stranded env ↔ env.tries .A = 0 ∧ env.tries .B = 0 := by
  constructor
  · intro hstranded
    have hnone : (ubootStep .markedGood env).1 = none := hstranded [.markedGood] _ List.mem_cons_self
    have hchange := ubootStep_change .markedGood env
    rw [hnone] at hchange
    generalize (ubootStep .markedGood env).2 = env' at hchange
    cases hchange with
    | idle hidle =>
      have hfirst := hidle.resolve_left (by simp)
      rw [h.firstBootable] at hfirst
      split at hfirst
      · cases hfirst
      · split at hfirst
        · cases hfirst
        · omega
  · rintro ⟨hA, hB⟩ ends
    have hidle : ∀ ending, ubootStep ending env = (none, env) := by
      intro ending
      have hchange := ubootStep_change ending env
      have hfirst := h.firstBootable
      simp only [hA, hB, Nat.lt_irrefl, if_false] at hfirst
      rcases hstep : ubootStep ending env with ⟨output, env'⟩
      rw [hstep] at hchange
      cases hchange with
      | idle _ => rfl
      | attempted slot hsome _ => rw [hfirst] at hsome; cases hsome
    have hsame : ∀ step ∈ Run.trace ubootStep env ends, step.pre = env ∧ step.post = env :=
      Run.trace_inv (I := (· = env)) rfl fun step hstep hpre => by
        have heq := (Run.step_of_mem_trace hstep).1
        rw [hpre, hidle] at heq
        exact (congrArg Prod.snd heq).symm
    intro step hstep
    have heq := (Run.step_of_mem_trace hstep).1
    rw [(hsame step hstep).1, hidle] at heq
    exact (congrArg Prod.fst heq).symm

/-- An attempt keeps a try exactly when not both slots are used up after it. -/
theorem keepsATry_iff {env : UBootEnv} {slot : Slot} (htries : 0 < env.tries slot) {ending : BootEnd}
    (hcut : ending ≠ .powerCut false) :
    KeepsATry env ending ↔ ¬((ending.write slot (env.useTry slot)).tries slot = 0 ∧ env.tries slot.other = 0) := by
  rcases ending with (_ | _) | _ | _ | _ | _
  · exact absurd rfl hcut
  all_goals cases slot <;> simp [KeepsATry, BootEnd.write, UBootEnv.useTry, Slot.other] <;> omega

/-- A boot strands a device that was not stranded exactly when it does not keep a try. -/
theorem stranded_step_iff {env : UBootEnv} (h : DefaultOrder env) (hnot : ¬Stranded env) (ending : BootEnd) :
    ¬Stranded (ubootStep ending env).2 ↔ KeepsATry env ending := by
  have hnone : Boot.firstBootable env.withDefaults ≠ none := by
    rw [stranded_iff h] at hnot
    rw [h.firstBootable]
    split
    · simp
    · split
      · simp
      · omega
  have hstranded := stranded_iff (h.step ending)
  have hchange := ubootStep_change ending env
  generalize (ubootStep ending env).1 = output at hchange
  generalize (ubootStep ending env).2 = env' at hchange hstranded ⊢
  cases hchange with
  | idle hidle =>
    rw [hidle.resolve_right hnone]
    exact ⟨fun _ => trivial, fun _ => hnot⟩
  | attempted slot hfirst hcut =>
    have hkeeps := keepsATry_iff (firstBootable_tries hfirst) hcut
    have hother := tries_write_of_ne ending env.withDefaults slot.other_ne
    rw [UBootEnv.tries_withDefaults] at hkeeps hother
    rw [hstranded, show KeepsATry env ending ↔ KeepsATry env.withDefaults ending from Iff.rfl, hkeeps, ← hother]
    cases slot with
    | A => exact Iff.rfl
    | B => rw [and_comm, Slot.other]

/-- Over every run from an unset environment: boots attempt the first bootable slot, no slot is attempted more often than it has
tries, and no environment of the run strands the device, exactly when every boot keeps a try. -/
theorem uboot_never_strands_iff (ends : List BootEnd) :
    ((∀ step ∈ Run.trace ubootStep .unset ends, AttemptsFirst step) ∧
      AttemptsBounded (Run.trace ubootStep .unset ends) ∧
      ∀ env ∈ Run.states ubootStep .unset ends, ¬Stranded env) ↔
    ∀ step ∈ Run.trace ubootStep .unset ends, KeepsATry step.pre step.input := by
  have horder : ∀ step ∈ Run.trace ubootStep .unset ends, DefaultOrder step.pre ∧ DefaultOrder step.post :=
    Run.trace_inv (Or.inl rfl) fun step hstep hpre => by
      have hnext := hpre.step step.input
      rwa [(Run.step_of_mem_trace hstep).1] at hnext
  have hunset : ¬Stranded .unset := by
    rw [stranded_iff (Or.inl rfl)]
    decide
  have hkeeps : ∀ step ∈ Run.trace ubootStep .unset ends, ¬Stranded step.pre →
      (¬Stranded step.post ↔ KeepsATry step.pre step.input) := by
    intro step hstep hpre
    have hiff := stranded_step_iff (horder step hstep).1 hpre step.input
    rwa [(Run.step_of_mem_trace hstep).1] at hiff
  constructor
  · rintro ⟨-, -, hstates⟩ step hstep
    have hpost : ¬Stranded step.post := hstates _ (List.mem_cons_of_mem _ (List.mem_map.2 ⟨step, hstep, rfl⟩))
    exact (hkeeps step hstep (hstates _ (Run.pre_mem_states hstep))).1 hpost
  · intro h
    refine ⟨fun step hstep => ?_, attemptsBounded ends .unset, ?_⟩
    · have hattempts := ubootStep_attemptsFirst step.input step.pre
      rwa [(Run.step_of_mem_trace hstep).1] at hattempts
    · exact Run.states_inv hunset fun step hstep hpre => (hkeeps step hstep hpre).2 (h step hstep)

/-- Three power cuts on each of two slots that were never bad: the script resets forever. -/
theorem not_uboot_never_strands :
    ¬∀ ends, (∀ step ∈ Run.trace ubootStep .unset ends, AttemptsFirst step) ∧
      AttemptsBounded (Run.trace ubootStep .unset ends) ∧
      ∀ env ∈ Run.states ubootStep .unset ends, ¬Stranded env := by
  intro h
  let ends := List.replicate 6 (BootEnd.powerCut true)
  have hfinal := (h ends).2.2 (Run.final ubootStep .unset ends) (by simp [Run.states, Run.final, ends])
  refine hfinal ((stranded_iff (Or.inr ?_)).2 ?_)
  · decide +kernel
  · decide +kernel

end SuderraOs.Boot
