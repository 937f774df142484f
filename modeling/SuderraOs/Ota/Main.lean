import SuderraOs.Lib.Run
import SuderraOs.Ota.Commands

/-!
# What one invocation leaves

`main` runs a command and, after an error, writes the last event over whatever the command left. `main_end` lists the ends of an
invocation; the lemmas after it say what the last event keeps. A run is a list of invocations (`Run.trace (main Γ)`).
-/

namespace SuderraOs.Ota

/-- The state with the last event of an error. -/
def erroredState (io : Io) (e : Error) (state : OtaState) : OtaState :=
  { state with lastEvent := some (eventJson io "error" "failed" (.obj []) (some e)), lastError := some e }

/-- What the last event leaves: the device as it was, or with the error recorded in the state that a load gave. -/
inductive LastEvent (io : Io) (e : Error) (dev : Device) : Device → Prop where
  | kept : LastEvent io e dev dev
  | written (state : OtaState) : loadState io.env io.errLoad dev = .ok state →
      LastEvent io e dev (dev.save (erroredState io e state))

theorem persistLastEvent_end (io : Io) (e : Error) (dev : Device) :
    LastEvent io e dev ((persistLastEvent io e).run dev).2 := by
  apply Effect.wp.final
  apply Effect.wp_bind
  apply Effect.wp_read
  · intro state hload
    apply wp_saveState
    · intro _
      exact .written state hload
    · intro _ _
      exact .kept
  · intro _ _
    exact .kept

/-- How the command of an invocation ends; `status` writes nothing. -/
def CommandEnd (Γ : Ctx) (inv : Invocation) (dev : Device) (r : Except Error Unit) (dev' : Device) : Prop :=
  match inv.command with
  | .install args => InstallEnd Γ inv.io dev args r dev'
  | .status => dev' = dev
  | .rollback args => RollbackEnd inv.io dev args r dev'
  | .markGood args => MarkGoodEnd inv.io dev args r dev'

theorem run_end (Γ : Ctx) (inv : Invocation) (dev : Device) :
    (run Γ inv).wp (fun _ => CommandEnd Γ inv dev (.ok ())) (fun e => CommandEnd Γ inv dev (.error e)) dev := by
  obtain ⟨command, io⟩ := inv
  cases command with
  | install args => exact install_end Γ io args dev
  | status =>
    apply Effect.wp_bind
    apply Effect.wp_read
    · intro _ _
      exact Effect.wp_pure rfl
    · intro _ _
      rfl
  | rollback args => exact rollback_end io args dev
  | markGood args => exact markGood_end io args dev

/-- What `main` adds to the end of a command. -/
def AfterCommand (io : Io) (r : Except Error Unit) (dev dev' : Device) : Prop :=
  match r with
  | .ok () => dev' = dev
  | .error e => LastEvent io e dev dev'

/-- An invocation ends as its command does, with the last event of an error written over it. -/
theorem main_end (Γ : Ctx) (inv : Invocation) (dev : Device) :
    ∃ dev₁, CommandEnd Γ inv dev (main Γ inv dev).1 dev₁ ∧ AfterCommand inv.io (main Γ inv dev).1 dev₁ (main Γ inv dev).2 := by
  have hend := run_end Γ inv dev
  unfold main
  rcases hrun : (run Γ inv).run dev with ⟨r, dev₁⟩
  refine ⟨dev₁, ?_⟩
  cases r with
  | ok u => exact ⟨hend.ok hrun, rfl⟩
  | error e => exact ⟨hend.error hrun, persistLastEvent_end inv.io e dev₁⟩

/-- A successful `mark_good` ran to its end. -/
theorem main_markGood_ok {Γ : Ctx} {io : Io} {args : MarkGoodArgs} {dev : Device}
    (h : (main Γ ⟨.markGood args, io⟩ dev).1 = .ok ()) :
    ∃ state version floor, verifyMarkGood io args dev = .ok (state, version) ∧ raisedFloor version state = .ok floor ∧
      (main Γ ⟨.markGood args, io⟩ dev).2 =
        ((dev.issue .markGood true).save (markedGoodState io version floor state)).mirrorFloor floor := by
  obtain ⟨dev₁, hend, hafter⟩ := main_end Γ ⟨.markGood args, io⟩ dev
  rw [h] at hend hafter
  cases hend with
  | done state version floor hverify _ _ hfloor _ _ => exact ⟨state, version, floor, hverify, hfloor, hafter⟩

/-! ## What the last event keeps -/

theorem LastEvent.rauc {io : Io} {e : Error} {dev dev' : Device} (h : LastEvent io e dev dev') : dev'.rauc = dev.rauc := by
  cases h <;> rfl

/-- The last event keeps the pending update. -/
theorem LastEvent.pending {io : Io} {e : Error} {dev dev' : Device} (h : LastEvent io e dev dev') :
    dev'.pendingVersion = dev.pendingVersion ∧ dev'.pendingBootSlot = dev.pendingBootSlot := by
  cases h with
  | kept => exact ⟨rfl, rfl⟩
  | written state hload =>
    change state.pendingVersion = _ ∧ state.pendingBootSlot = _
    exact loadState_pending hload

theorem AfterCommand.rauc {io : Io} {r : Except Error Unit} {dev dev' : Device} (h : AfterCommand io r dev dev') :
    dev'.rauc = dev.rauc := by
  cases r with
  | ok u => rw [show dev' = dev from h]
  | error e => exact LastEvent.rauc h

theorem AfterCommand.pending {io : Io} {r : Except Error Unit} {dev dev' : Device} (h : AfterCommand io r dev dev') :
    dev'.pendingVersion = dev.pendingVersion ∧ dev'.pendingBootSlot = dev.pendingBootSlot := by
  cases r with
  | ok u => rw [show dev' = dev from h]; exact ⟨rfl, rfl⟩
  | error e => exact LastEvent.pending h

end SuderraOs.Ota
