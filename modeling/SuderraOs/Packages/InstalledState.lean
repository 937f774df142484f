import Mathlib.Data.List.Infix
import Mathlib.Data.List.Induction
import Mathlib.Logic.Function.Basic
import SuderraOs.Lib.Run

/-!
# The installed packages

`InstalledState` of `suderra-installer`: what is recorded of the installed packages, with the version a rollback goes back to. An
install keeps the version it replaces as the previous one, whatever the new version is. Along a run from the empty state the
previous version is always the last other version that was recorded exactly when no recorded version is installed over itself and
no first install brings a previous version along (`rollbackTargets_iff`).
-/

namespace SuderraOs.Packages

inductive InstallMethod where
  | unknown
  | rauc
  | labCopy
  deriving DecidableEq, Repr

/-- An installed package; `installedAt` is the instant of the install. -/
structure InstalledPackage where
  name : String
  version : String
  previousVersion : Option String
  installedAt : Nat
  sha256 : String
  signatureVerified : Bool
  installMethod : InstallMethod
  deriving DecidableEq, Repr

/-- `InstalledState`: the map from the names of packages. -/
abbrev InstalledState := String → Option InstalledPackage

def InstalledState.empty : InstalledState := fun _ => none

namespace InstalledState

/-- `record_install`. -/
def recordInstall (state : InstalledState) (pkg : InstalledPackage) : InstalledState :=
  let pkg := match state pkg.name with
    | some existing => { pkg with previousVersion := some existing.version }
    | none => pkg
  Function.update state pkg.name (some pkg)

/-- `record_remove`. -/
def recordRemove (state : InstalledState) (name : String) : InstalledState := Function.update state name none

theorem recordInstall_self (state : InstalledState) (pkg : InstalledPackage) :
    state.recordInstall pkg pkg.name =
      some { pkg with previousVersion := ((state pkg.name).map (·.version)).or pkg.previousVersion } := by
  unfold recordInstall
  cases state pkg.name <;> simp

theorem recordInstall_of_ne (state : InstalledState) {pkg : InstalledPackage} {key : String} (h : pkg.name ≠ key) :
    state.recordInstall pkg key = state key := by
  unfold recordInstall
  cases state pkg.name <;> exact Function.update_of_ne h.symm _ _

theorem recordRemove_self (state : InstalledState) (name : String) : state.recordRemove name name = none :=
  Function.update_self _ _ _

theorem recordRemove_of_ne (state : InstalledState) {name key : String} (h : name ≠ key) :
    state.recordRemove name key = state key :=
  Function.update_of_ne h.symm _ _

end InstalledState

/-! ## Runs -/

inductive Operation where
  | install (pkg : InstalledPackage)
  | remove (name : String)
  deriving DecidableEq

def perform : Operation → InstalledState → Unit × InstalledState
  | .install pkg, state => ((), state.recordInstall pkg)
  | .remove name, state => ((), state.recordRemove name)

/-- The state after a sequence of operations. -/
def after (ops : List Operation) : InstalledState := Run.final perform .empty ops

/-- The versions recorded of a package since it was last removed, the last one first. -/
def recorded (name : String) (ops : List Operation) : List String :=
  ops.foldl (fun versions op =>
    match op with
    | .install pkg => if pkg.name = name then pkg.version :: versions else versions
    | .remove removed => if removed = name then [] else versions) []

/-- An entry stands under the name of its package, and the previous version it has, if any, is another one than its own: the one
recorded last among the others. -/
structure Target (ops : List Operation) (key : String) (pkg : InstalledPackage) : Prop where
  name_eq : pkg.name = key
  previous : ∀ p, pkg.previousVersion = some p → p ≠ pkg.version ∧ (recorded key ops).find? (· ≠ pkg.version) = some p

/-- Every entry of the state after the operations is such. -/
def RollbackTargets (ops : List Operation) : Prop := ∀ key pkg, after ops key = some pkg → Target ops key pkg

/-- The operation does not install a version over itself, or a first version that brings a previous one along. -/
def Replaces (state : InstalledState) : Operation → Prop
  | .install pkg =>
    match state pkg.name with
    | some existing => existing.version ≠ pkg.version
    | none => pkg.previousVersion = none
  | .remove _ => True

theorem replaces_of_none {state : InstalledState} {pkg : InstalledPackage} (h : state pkg.name = none) :
    Replaces state (.install pkg) ↔ pkg.previousVersion = none := by
  simp only [Replaces, h]

theorem replaces_of_some {state : InstalledState} {pkg existing : InstalledPackage} (h : state pkg.name = some existing) :
    Replaces state (.install pkg) ↔ existing.version ≠ pkg.version := by
  simp only [Replaces, h]

theorem after_append (ops : List Operation) (op : Operation) : after (ops ++ [op]) = (perform op (after ops)).2 := by
  rw [after, Run.final_append]
  rfl

theorem recorded_append (name : String) (ops : List Operation) (op : Operation) :
    recorded name (ops ++ [op]) =
      match op with
      | .install pkg => if pkg.name = name then pkg.version :: recorded name ops else recorded name ops
      | .remove removed => if removed = name then [] else recorded name ops := by
  rw [recorded, List.foldl_append]
  rfl

/-- The last version recorded of a package is the one it has; what is not there has no record. -/
theorem head?_recorded (ops : List Operation) (key : String) : (recorded key ops).head? = (after ops key).map (·.version) := by
  induction ops using List.reverseRecOn with
  | nil => rfl
  | append_singleton ops op ih =>
    rw [after_append, recorded_append]
    cases op with
    | install pkg =>
      by_cases hkey : pkg.name = key
      · subst hkey
        simp [perform, InstalledState.recordInstall_self]
      · simpa [perform, hkey, InstalledState.recordInstall_of_ne] using ih
    | remove name =>
      by_cases hkey : name = key
      · subst hkey
        simp [perform, InstalledState.recordRemove_self]
      · simpa [perform, hkey, InstalledState.recordRemove_of_ne] using ih

/-- What an install records is a target of rollbacks exactly when it replaces another version, or nothing. -/
theorem target_install_iff (ops : List Operation) (pkg : InstalledPackage) :
    (∀ entry, (after ops).recordInstall pkg pkg.name = some entry → Target (ops ++ [.install pkg]) pkg.name entry) ↔
      Replaces (after ops) (.install pkg) := by
  have hhead := head?_recorded ops pkg.name
  have hrecorded : recorded pkg.name (ops ++ [.install pkg]) = pkg.version :: recorded pkg.name ops := by
    rw [recorded_append]
    exact if_pos rfl
  simp only [InstalledState.recordInstall_self, Option.some.injEq, forall_eq']
  cases hstate : after ops pkg.name with
  | none =>
    rw [replaces_of_none hstate]
    rw [hstate, Option.map_none, List.head?_eq_none_iff] at hhead
    rw [hhead] at hrecorded
    constructor
    · rintro ⟨-, hprevious⟩
      simp only [Option.map_none, Option.none_or, hrecorded] at hprevious
      cases hp : pkg.previousVersion with
      | none => rfl
      | some p => simpa using (hprevious p hp).2
    · intro hprevious
      exact ⟨rfl, by simp [hprevious]⟩
  | some existing =>
    rw [replaces_of_some hstate]
    rw [hstate, Option.map_some, List.head?_eq_some_iff] at hhead
    obtain ⟨older, holder⟩ := hhead
    rw [holder] at hrecorded
    constructor
    · rintro ⟨-, hprevious⟩
      exact (hprevious existing.version rfl).1
    · intro hne
      refine ⟨rfl, fun p hp => ?_⟩
      obtain rfl : existing.version = p := by simpa using hp
      rw [hrecorded]
      exact ⟨hne, by simp [hne]⟩

/-- An operation on another package changes neither the entry nor the record. -/
theorem target_append {ops : List Operation} (op : Operation) {key : String}
    (hother : match op with | .install pkg => pkg.name ≠ key | .remove name => name ≠ key) (pkg : InstalledPackage) :
    (after (ops ++ [op]) key = after ops key) ∧ (Target (ops ++ [op]) key pkg ↔ Target ops key pkg) := by
  have hrecorded : recorded key (ops ++ [op]) = recorded key ops := by
    rw [recorded_append]
    cases op <;> exact if_neg hother
  refine ⟨?_, ⟨fun h => ⟨h.name_eq, hrecorded ▸ h.previous⟩, fun h => ⟨h.name_eq, hrecorded ▸ h.previous⟩⟩⟩
  rw [after_append]
  cases op with
  | install pkg => exact InstalledState.recordInstall_of_ne _ hother
  | remove name => exact InstalledState.recordRemove_of_ne _ hother

/-- One operation keeps the targets exactly when it replaces another version, or nothing. -/
theorem rollbackTargets_append {ops : List Operation} (h : RollbackTargets ops) (op : Operation) :
    RollbackTargets (ops ++ [op]) ↔ Replaces (after ops) op := by
  cases op with
  | install pkg =>
    rw [← target_install_iff, RollbackTargets]
    constructor
    · intro hall entry hentry
      exact hall pkg.name entry (by rw [after_append]; exact hentry)
    · intro hself key entry hentry
      by_cases hkey : pkg.name = key
      · subst hkey
        rw [after_append] at hentry
        exact hself entry hentry
      · obtain ⟨hsame, htarget⟩ := target_append (.install pkg) hkey entry
        rw [htarget]
        exact h key entry (hsame ▸ hentry)
  | remove name =>
    refine iff_of_true (fun key entry hentry => ?_) trivial
    by_cases hkey : name = key
    · subst hkey
      rw [after_append] at hentry
      simp [perform, InstalledState.recordRemove_self] at hentry
    · obtain ⟨hsame, htarget⟩ := target_append (.remove name) hkey entry
      rw [htarget]
      exact h key entry (hsame ▸ hentry)

/-- A run has rollback targets in all of its states exactly when each of its steps replaces another version, or nothing. -/
theorem rollbackTargets_iff (ops : List Operation) :
    (∀ before, before.IsPrefix ops → RollbackTargets before) ↔
      ∀ before op rest, ops = before ++ op :: rest → Replaces (after before) op := by
  induction ops using List.reverseRecOn with
  | nil =>
    refine iff_of_true (fun before hbefore => ?_) (fun before op rest h => by simp at h)
    rw [List.prefix_nil.1 hbefore]
    intro key pkg hentry
    cases hentry
  | append_singleton ops op ih =>
    have hlast : (∀ before, before.IsPrefix (ops ++ [op]) → RollbackTargets before) ↔
        RollbackTargets (ops ++ [op]) ∧ ∀ before, before.IsPrefix ops → RollbackTargets before := by
      simp only [List.prefix_concat_iff, forall_eq_or_imp]
    have hstep : (∀ before op' rest, ops ++ [op] = before ++ op' :: rest → Replaces (after before) op') ↔
        Replaces (after ops) op ∧ ∀ before op' rest, ops = before ++ op' :: rest → Replaces (after before) op' := by
      constructor
      · intro h
        refine ⟨h ops op [] rfl, fun before op' rest hops => h before op' (rest ++ [op]) (by rw [hops]; simp)⟩
      · rintro ⟨hop, h⟩ before op' rest hops
        rcases List.eq_nil_or_concat rest with rfl | ⟨rest, last, rfl⟩
        · obtain ⟨rfl, hop'⟩ := List.append_inj' hops rfl
          cases hop'
          exact hop
        · refine h before op' rest ?_
          rw [List.concat_eq_append, ← List.cons_append, ← List.append_assoc] at hops
          exact (List.append_inj' hops rfl).1
    rw [hlast, hstep, ← ih]
    constructor
    · rintro ⟨hop, h⟩
      exact ⟨(rollbackTargets_append (h ops List.prefix_rfl) op).1 hop, h⟩
    · rintro ⟨hop, h⟩
      exact ⟨(rollbackTargets_append (h ops List.prefix_rfl) op).2 hop, h⟩

/-- The edge package, as `install` records it. -/
def edge (version : String) : InstalledPackage := ⟨"edge", version, none, 0, "abc", true, .labCopy⟩

/-- An upgrade to the version that is installed makes it its own previous version. -/
theorem rollbackTargets_reinstall : ¬ ∀ ops, RollbackTargets ops := by
  intro h
  have htarget := h [.install (edge "1.6.0"), .install (edge "1.6.0")] "edge" { edge "1.6.0" with previousVersion := some "1.6.0" }
    (by decide +kernel)
  exact (htarget.previous "1.6.0" rfl).1 rfl

end SuderraOs.Packages
