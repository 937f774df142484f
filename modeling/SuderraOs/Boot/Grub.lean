import Mathlib.Data.List.Chain
import SuderraOs.Boot.Slots
import SuderraOs.Lib.Run

/-!
# The x86_64 boot chooser

`grub.cfg` over the environment block it shares with RAUC's GRUB backend. The script clears `<slot>_TRY` before it boots a slot
that has one and boots a slot that is OK without writing anything, while an install leaves the new slot OK with `<slot>_TRY=0`:
the slot is booted again at every boot until userspace writes the block.
-/

namespace SuderraOs.Boot

/-- The environment block: `ORDER`, and `<slot>_OK` and `<slot>_TRY` of each slot. A variable that is not set is empty. -/
structure GrubEnv where
  order : String
  ok : Slot → String
  tries : Slot → String

/-- The defaults of `grub.cfg`. -/
def GrubEnv.withDefaults (env : GrubEnv) : GrubEnv where
  order := if env.order = "" then "A B" else env.order
  ok := fun slot => if env.ok slot = "" then (match slot with | .A => "1" | .B => "0") else env.ok slot
  tries := fun slot => if env.tries slot = "" then "0" else env.tries slot

/-- How the commands of one boot end: `search` for the block, `save_env`, and `chainloader` with `boot` for each slot. -/
structure GrubIo where
  espFound : Bool
  saves : Bool
  loads : Slot → Bool

/-- The variables of the script and the block on the disk. -/
structure Grub where
  vars : GrubEnv
  file : GrubEnv

def Grub.clearTry (g : Grub) (slot : Slot) : Grub :=
  { g with vars := { g.vars with tries := Function.update g.vars.tries slot "0" } }

/-- `save_env` of all five variables. -/
def Grub.saveEnv (io : GrubIo) (g : Grub) : Grub := if io.saves then { g with file := g.vars } else g

/-- `boot_suderra_slot`: the slot that was chainloaded, or none when the function returns. -/
def bootSuderraSlot (io : GrubIo) (word : List Char) (g : Grub) : Option Slot × Grub :=
  match Slot.ofWord word with
  | none => (none, g)
  | some slot =>
    let g' := if g.vars.tries slot ≠ "0" then (g.clearTry slot).saveEnv io else g
    if g.vars.tries slot ≠ "0" ∧ io.loads slot then (some slot, g')
    else if g.vars.ok slot = "1" ∧ io.loads slot then (some slot, g')
    else (none, g')

/-- The loop over the words of `ORDER`. -/
def bootLoop (io : GrubIo) : List (List Char) → Grub → Option Slot × Grub
  | [], g => (none, g)
  | word :: rest, g =>
    match bootSuderraSlot io word g with
    | (some slot, g') => (some slot, g')
    | (none, g') => bootLoop io rest g'

/-- One boot: the slot that `grub.cfg` chainloads, or none when it halts, and the block it leaves. -/
def grubCfg (io : GrubIo) (env : GrubEnv) : Option Slot × GrubEnv :=
  if !io.espFound then (none, env)
  else
    let r := bootLoop io (words env.withDefaults.order) ⟨env.withDefaults, env⟩
    (r.1, r.2.file)

/-! ## RAUC's GRUB backend -/

/-- A text for `ORDER` that has a slot first. -/
def PrimaryOrder (slot : Slot) : Type := { text : String // (words text).head? = some slot.word }

/-- A boot, or a write of RAUC's backend. -/
inductive GrubEvent where
  | boot (io : GrubIo)
  | install (slot : Slot)
  | markGood (slot : Slot)
  | markBad (slot : Slot)

def GrubEnv.write (env : GrubEnv) (slot : Slot) (ok tries : String) : GrubEnv :=
  { env with ok := Function.update env.ok slot ok, tries := Function.update env.tries slot tries }

abbrev GrubStep := Step GrubEnv GrubEvent (Option Slot)

section backend

variable (order : ∀ slot, PrimaryOrder slot)

/-- One event, with the order an install writes; the output is the slot that was chainloaded. -/
def grubStep (event : GrubEvent) (env : GrubEnv) : Option Slot × GrubEnv :=
  match event with
  | .boot io => grubCfg io env
  | .install slot => (none, { env.write slot "1" "0" with order := (order slot).1 })
  | .markGood slot => (none, env.write slot "1" "0")
  | .markBad slot => (none, env.write slot "0" "0")

/-! ## What an installed slot should meet -/

/-- Among the steps `past`, `slot` was installed and not marked good since. -/
def FreshlyInstalled (past : List GrubStep) (slot : Slot) : Prop :=
  ∃ earlier install later, past = earlier ++ install :: later ∧ install.input = .install slot ∧
    ∀ step ∈ later, step.input ≠ .markGood slot

/-- A freshly installed slot is not chainloaded on two consecutive boots without a userspace write between. -/
def NeverTwice (env : GrubEnv) (slot : Slot) : Prop :=
  ∀ events past first second rest, Run.trace (grubStep order) env events = past ++ first :: second :: rest →
    FreshlyInstalled past slot → ¬(first.output = some slot ∧ second.output = some slot)

/-- A freshly installed slot is booted once before the other slot is, as long as the other slot is OK. -/
def TriedOnce (env : GrubEnv) (slot : Slot) : Prop :=
  ∀ events past first mid second rest,
    Run.trace (grubStep order) env events = past ++ first :: (mid ++ second :: rest) → FreshlyInstalled past slot →
    (∀ step ∈ mid, step.input ≠ .markGood slot ∧ step.input ≠ .install slot) →
    (∀ step ∈ first :: (mid ++ [second]), step.pre.ok slot.other = "1") →
    first.output = some slot → second.output = some slot → ∃ step ∈ mid, step.output = some slot.other

/-! ## What the script does -/

/-- A slot that is first in `ORDER`, OK, and without a try. -/
structure Primary (slot : Slot) (env : GrubEnv) : Prop where
  first : (words env.order).head? = some slot.word
  ok : env.ok slot = "1"
  tries : env.tries slot = "0"

theorem grubStep_install_primary (slot : Slot) (env : GrubEnv) : Primary slot (grubStep order (.install slot) env).2 where
  first := (order slot).2
  ok := by simp [grubStep, GrubEnv.write]
  tries := by simp [grubStep, GrubEnv.write]

theorem Primary.withDefaults {slot : Slot} {env : GrubEnv} (h : Primary slot env) : Primary slot env.withDefaults where
  first := by
    have horder : env.order ≠ "" := by
      intro hempty
      have hfirst := h.first
      rw [hempty] at hfirst
      cases hfirst
    rw [GrubEnv.withDefaults, if_neg horder]
    exact h.first
  ok := by simp [GrubEnv.withDefaults, h.ok]
  tries := by simp [GrubEnv.withDefaults, h.tries]

/-- Clearing a try keeps a slot primary, whichever slot it is of. -/
theorem Primary.clearTry {slot : Slot} {g : Grub} (h : Primary slot g.vars) (other : Slot) :
    Primary slot (g.clearTry other).vars where
  first := h.first
  ok := h.ok
  tries := by
    by_cases heq : slot = other
    · simp [Grub.clearTry, heq]
    · simp [Grub.clearTry, Function.update_of_ne heq, h.tries]

/-- `boot_suderra_slot` keeps a slot primary, in the variables and on the disk. -/
theorem bootSuderraSlot_primary {slot : Slot} (io : GrubIo) (word : List Char) {g : Grub} (hvars : Primary slot g.vars)
    (hfile : Primary slot g.file) :
    Primary slot (bootSuderraSlot io word g).2.vars ∧ Primary slot (bootSuderraSlot io word g).2.file := by
  unfold bootSuderraSlot
  split
  · exact ⟨hvars, hfile⟩
  · rename_i other _
    have hsaved : Primary slot ((g.clearTry other).saveEnv io).vars ∧ Primary slot ((g.clearTry other).saveEnv io).file := by
      unfold Grub.saveEnv
      split
      · exact ⟨hvars.clearTry other, hvars.clearTry other⟩
      · exact ⟨hvars.clearTry other, hfile⟩
    have hnext : ∀ g' : Grub, g' = (if g.vars.tries other ≠ "0" then (g.clearTry other).saveEnv io else g) →
        Primary slot g'.vars ∧ Primary slot g'.file := by
      rintro g' rfl
      split
      · exact hsaved
      · exact ⟨hvars, hfile⟩
    dsimp only
    split
    · exact hnext _ rfl
    · split
      · exact hnext _ rfl
      · exact hnext _ rfl

theorem bootLoop_primary {slot : Slot} (io : GrubIo) (order : List (List Char)) {g : Grub} (hvars : Primary slot g.vars)
    (hfile : Primary slot g.file) : Primary slot (bootLoop io order g).2.file := by
  induction order generalizing g with
  | nil => exact hfile
  | cons word rest ih =>
    obtain ⟨hvars', hfile'⟩ := bootSuderraSlot_primary io word hvars hfile
    unfold bootLoop
    rcases hboot : bootSuderraSlot io word g with ⟨r, g'⟩
    rw [hboot] at hvars' hfile'
    cases r with
    | some booted => exact hfile'
    | none => exact ih hvars' hfile'

/-- Whether this boot can chainload a slot. -/
def GrubIo.chains (io : GrubIo) (slot : Slot) : Prop := io.espFound = true ∧ io.loads slot = true

/-- A boot keeps a slot primary. -/
theorem grubCfg_primary {slot : Slot} {env : GrubEnv} (io : GrubIo) (h : Primary slot env) :
    Primary slot (grubCfg io env).2 := by
  unfold grubCfg
  split
  · exact h
  · exact bootLoop_primary io _ h.withDefaults h

theorem bootSuderraSlot_slot {io : GrubIo} {word : List Char} {g : Grub} {slot : Slot}
    (h : (bootSuderraSlot io word g).1 = some slot) : io.loads slot = true := by
  unfold bootSuderraSlot at h
  split at h
  · cases h
  · dsimp only at h
    split at h
    · rename_i hloads
      exact Option.some.inj h ▸ hloads.2
    · split at h
      · rename_i hloads
        exact Option.some.inj h ▸ hloads.2
      · cases h

theorem bootLoop_slot {io : GrubIo} {order : List (List Char)} {g : Grub} {slot : Slot}
    (h : (bootLoop io order g).1 = some slot) : io.loads slot = true := by
  induction order generalizing g with
  | nil => cases h
  | cons word rest ih =>
    unfold bootLoop at h
    rcases hboot : bootSuderraSlot io word g with ⟨r, g'⟩
    rw [hboot] at h
    cases r with
    | some booted =>
      exact bootSuderraSlot_slot (show (bootSuderraSlot io word g).1 = some slot by rw [hboot]; exact h)
    | none => exact ih h

/-- A boot that can chainload a primary slot does, and leaves the block as it was. -/
theorem grubCfg_of_chains {slot : Slot} {env : GrubEnv} {io : GrubIo} (h : Primary slot env) (hchains : io.chains slot) :
    grubCfg io env = (some slot, env) := by
  have hfirst := h.withDefaults.first
  cases hwords : words env.withDefaults.order with
  | nil => rw [hwords] at hfirst; cases hfirst
  | cons word rest =>
    rw [hwords, List.head?_cons, Option.some.injEq] at hfirst
    simp [grubCfg, hchains.1, hwords, bootLoop, bootSuderraSlot, hfirst, h.withDefaults.tries, h.withDefaults.ok, hchains.2]

/-- A primary slot is chainloaded at exactly the boots that can chainload it. -/
theorem grubCfg_slot_iff {slot : Slot} {env : GrubEnv} (io : GrubIo) (h : Primary slot env) :
    (grubCfg io env).1 = some slot ↔ io.chains slot := by
  constructor
  · intro hboot
    unfold grubCfg at hboot
    split at hboot
    · cases hboot
    · rename_i hesp
      exact ⟨by simpa using hesp, bootLoop_slot hboot⟩
  · intro hchains
    rw [grubCfg_of_chains h hchains]

/-- Over boots without a userspace write a primary slot is chainloaded at exactly those that can. -/
theorem primary_boots {slot : Slot} {env : GrubEnv} (h : Primary slot env) (ios : List GrubIo) :
    (Run.trace (grubStep order) env (ios.map .boot)).map (fun step => step.output = some slot) =
      ios.map (fun io => io.chains slot) := by
  induction ios generalizing env with
  | nil => rfl
  | cons io ios ih =>
    have hhead : ((grubStep order (.boot io) env).1 = some slot) = io.chains slot := eq_iff_iff.2 (grubCfg_slot_iff io h)
    have htail := @ih (grubStep order (.boot io) env).2 (grubCfg_primary io h)
    rw [List.map_cons, Run.trace_cons, List.map_cons, hhead, htail, List.map_cons]

/-! ## Every installed slot is booted again and again -/

/-- A boot on which every command succeeds. -/
def GrubIo.allDone : GrubIo := ⟨true, true, fun _ => true⟩

/-- After an install two boots chainload the new slot, and the block stays as the install left it. -/
theorem two_boots_after_install (slot : Slot) (env : GrubEnv) :
    let installed := (grubStep order (.install slot) env).2
    Run.trace (grubStep order) env [.install slot, .boot .allDone, .boot .allDone] =
      [⟨env, .install slot, none, installed⟩, ⟨installed, .boot .allDone, some slot, installed⟩,
        ⟨installed, .boot .allDone, some slot, installed⟩] := by
  intro installed
  have hboot : grubStep order (.boot .allDone) installed = (some slot, installed) :=
    grubCfg_of_chains (grubStep_install_primary order slot env) ⟨rfl, rfl⟩
  simp only [Run.trace_cons, Run.trace_nil]
  rw [show (grubStep order (.install slot) env).2 = installed from rfl]
  simp only [hboot]
  rfl

theorem not_neverTwice (env : GrubEnv) (slot : Slot) : ¬NeverTwice order env slot := by
  intro h
  exact h _ [_] _ _ [] (two_boots_after_install order slot env) ⟨[], _, [], rfl, rfl, by simp⟩ ⟨rfl, rfl⟩

/-- The other slot was marked good before the install, and both boots pass over it. -/
theorem not_triedOnce (env : GrubEnv) (slot : Slot) : ¬TriedOnce order env slot := by
  intro h
  have htrace := congrArg (List.cons ⟨env, .markGood slot.other, none, env.write slot.other "1" "0"⟩)
    (two_boots_after_install order slot (env.write slot.other "1" "0"))
  have hother : (grubStep order (.install slot) (env.write slot.other "1" "0")).2.ok slot.other = "1" := by
    cases slot <;> simp [grubStep, GrubEnv.write, Slot.other]
  obtain ⟨step, hstep, -⟩ := h (.markGood slot.other :: _) [_, _] _ [] _ [] htrace ⟨[_], _, [], rfl, rfl, by simp⟩ (by simp)
    (by simpa using hother) rfl rfl
  simp at hstep

end backend

/-- The slot, then the other one. -/
def bothSlots : ∀ slot, PrimaryOrder slot
  | .A => ⟨"A B", by decide +kernel⟩
  | .B => ⟨"B A", by decide +kernel⟩

end SuderraOs.Boot
