import SuderraOs.Lib.Effect

/-!
# Scripts under failures and power cuts

A script issues fallible commands on a state. How each command ends is given from outside: it does what the state allows, it
fails, or the power is cut before it. A command that fails leaves the state as it was; what the script does then is its own
matter. `wp_command` and `keeps_command` are the rules of a command, the others those of the idioms built from it.
-/

namespace SuderraOs.Script

/-- How a command ends: it does what the state allows, it fails, or the power is cut before it. -/
inductive CommandResult where
  | ok
  | fails
  | cut
  deriving DecidableEq

/-- Why a run stops: the script exits, or the power is cut. -/
inductive Stop where
  | exit
  | powerCut

variable {κ σ : Type} {result : κ → CommandResult}

/-- A command that works on the state as `act` says, if the state allows it; the value is whether it succeeded. -/
def command (result : κ → CommandResult) (c : κ) (act : σ → Option σ) : Effect Stop σ Bool := fun s =>
  match result c with
  | .cut => (.error .powerCut, s)
  | .fails => (.ok false, s)
  | .ok =>
    match act s with
    | some s' => (.ok true, s')
    | none => (.ok false, s)

/-- The script exits unless a test holds. -/
def require (b : Bool) : Effect Stop σ Unit := Effect.ofExcept (if b then .ok () else .error .exit)

/-- The script exits when a command fails. -/
def need (result : κ → CommandResult) (c : κ) (act : σ → Option σ) : Effect Stop σ Unit := do
  let ok ← command result c act
  require ok

/-- The script exits when a command fails, and the command may have done a part of its work: `left` is what it leaves then. -/
def needLeaving (result : κ → CommandResult) (c : κ) (act left : σ → σ) : Effect Stop σ Unit := fun s =>
  match result c with
  | .ok => (.ok (), act s)
  | .fails => (.error .exit, left s)
  | .cut => (.error .powerCut, left s)

/-- A part of the script that runs only if a test holds. -/
def runIf (b : Bool) (x : Effect Stop σ Unit) : Effect Stop σ Unit := if b then x else pure ()

/-! ## Weakest preconditions -/

variable {s : σ} {c : κ} {act : σ → Option σ} {Q : Unit → σ → Prop} {E : Stop → σ → Prop}

theorem wp_command {Q : Bool → σ → Prop} (hyes : ∀ s', result c = .ok → act s = some s' → Q true s')
    (hno : result c = .fails ∨ result c = .ok ∧ act s = none → Q false s) (hcut : result c = .cut → E .powerCut s) :
    (command result c act).wp Q E s := by
  unfold command Effect.wp Effect.run
  cases hc : result c with
  | cut => exact hcut hc
  | fails => exact hno (Or.inl hc)
  | ok =>
    cases hact : act s with
    | none => simpa only [hact] using hno (Or.inr ⟨hc, hact⟩)
    | some s' => simpa only [hact] using hyes s' hc hact

theorem wp_require {b : Bool} (hQ : b = true → Q () s) (hE : b = false → E .exit s) : (require b).wp Q E s := by
  cases b with
  | true => exact hQ rfl
  | false => exact hE rfl

/-- The rule of a needed command, by how the command ends. -/
theorem wp_need_cases (hyes : ∀ s', result c = .ok → act s = some s' → Q () s')
    (hno : result c = .fails ∨ result c = .ok ∧ act s = none → E .exit s) (hcut : result c = .cut → E .powerCut s) :
    (need result c act).wp Q E s := by
  apply Effect.wp_bind
  refine wp_command (fun s' hc hact => ?_) (fun hc => ?_) hcut
  · exact wp_require (fun _ => hyes s' hc hact) (by simp)
  · exact wp_require (by simp) fun _ => hno hc

theorem wp_need (hyes : ∀ s', result c = .ok → act s = some s' → Q () s')
    (hno : ∀ e, result c ≠ .ok ∨ act s = none → E e s) : (need result c act).wp Q E s := by
  refine wp_need_cases hyes (fun hc => hno _ ?_) fun hc => hno _ (by simp [hc])
  rcases hc with hc | ⟨-, hact⟩
  · simp [hc]
  · exact Or.inr hact

/-- A command that does nothing to the state. -/
theorem wp_need_some (hyes : result c = .ok → Q () s) (hno : ∀ e, E e s) : (need result c some).wp Q E s :=
  wp_need (fun _ hc hact => by cases hact; exact hyes hc) fun e _ => hno e

theorem wp_needLeaving {act left : σ → σ} (hyes : result c = .ok → Q () (act s)) (hno : result c = .fails → E .exit (left s))
    (hcut : result c = .cut → E .powerCut (left s)) : (needLeaving result c act left).wp Q E s := by
  unfold needLeaving Effect.wp Effect.run
  cases hc : result c with
  | ok => exact hyes hc
  | fails => exact hno hc
  | cut => exact hcut hc

theorem wp_runIf {b : Bool} {x : Effect Stop σ Unit} (hyes : b = true → x.wp Q E s) (hno : b = false → Q () s) :
    (runIf b x).wp Q E s := by
  cases b with
  | true => exact hyes rfl
  | false => exact hno rfl

/-! ## Kept invariants -/

variable {I : σ → Prop}

/-- A command keeps an invariant that its action keeps, however it ends. -/
theorem keeps_command (result : κ → CommandResult) (c : κ) (h : ∀ s s', act s = some s' → I s → I s') :
    (command result c act).Keeps I :=
  fun s hs => wp_command (fun s' _ hact => h s s' hact hs) (fun _ => hs) fun _ => hs

theorem keeps_require (b : Bool) : (require b).Keeps I := Effect.keeps_ofExcept _

theorem keeps_need (result : κ → CommandResult) (c : κ) (h : ∀ s s', act s = some s' → I s → I s') :
    (need result c act).Keeps I :=
  Effect.keeps_bind (keeps_command result c h) fun b => keeps_require b

theorem keeps_needLeaving (result : κ → CommandResult) (c : κ) {act left : σ → σ} (hact : ∀ s, I s → I (act s))
    (hleft : ∀ s, I s → I (left s)) : (needLeaving result c act left).Keeps I :=
  fun s hs => wp_needLeaving (fun _ => hact s hs) (fun _ => hleft s hs) fun _ => hleft s hs

/-- A command that does nothing to the state keeps every invariant. -/
theorem keeps_need_some (result : κ → CommandResult) (c : κ) : (need result c some).Keeps I := by
  apply keeps_need
  intro s s' hact hs
  rwa [← Option.some.inj hact]

theorem keeps_runIf (b : Bool) {x : Effect Stop σ Unit} (h : x.Keeps I) : (runIf b x).Keeps I := by
  cases b with
  | true => exact h
  | false => exact Effect.keeps_pure ()

end SuderraOs.Script
