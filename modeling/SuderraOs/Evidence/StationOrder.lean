import SuderraOs.Evidence.Station
import SuderraOs.Lib.FirstPlaces

/-!
# The order of a station run

`validate_payload` compares where the roles of a run occur first. An accepted run follows the order of its contract exactly when the
events of every required role stand together (`follows_order_iff`).
-/

namespace SuderraOs.Evidence.Station

open Value

/-! ## Accepted runs -/

/-- The events of a run follow an order of roles: the places of their roles never go down. -/
def FollowsOrder (order : List String) (events : List Value) : Prop := (placesIn order (eventRoles events)).Pairwise (· ≤ ·)

/-- The roles of the events of a run that an order lists. -/
def listedRoles (order : List String) (events : List Value) : List String := (eventRoles events).filter fun role => order.contains role

/-- The events of a payload. -/
def eventsOf (payload : Fields) : List Value := ((field "events" payload).asList).getD []

/-- The roles of an accepted run occur first in the order of the contract. -/
theorem firstPlaces_of_accepted {Γ : Python} {contract : Contract} {expected : Expected} {files : Files} {root : PosixPath}
    {checkFiles : Bool} {payload : Fields} (h : validatePayload Γ contract expected files root checkFiles payload = .ok []) :
    (firstPlaces contract.adapterRoles (eventRoles (eventsOf payload))).Pairwise (· ≤ ·) := by
  unfold validatePayload at h
  simp only at h
  split at h
  · next event events hevents =>
    obtain ⟨found, _, h⟩ := bind_ok_iff.1 h
    simp only [Except.ok.injEq, List.append_eq_nil_iff, orderErrors, failUnless_eq_nil, decide_eq_true_eq] at h
    have heventsOf : eventsOf payload = event :: events := by simp [eventsOf, hevents, asList]
    rw [heventsOf]
    exact h.2.2
  · simp at h

/-- An accepted run follows the order of its contract exactly when the events of every required role stand together. -/
theorem follows_order_iff {Γ : Python} {contract : Contract} {expected : Expected} {files : Files} {root : PosixPath}
    {checkFiles : Bool} {payload : Fields} (h : validatePayload Γ contract expected files root checkFiles payload = .ok []) :
    FollowsOrder contract.adapterRoles (eventsOf payload) ↔ Together (listedRoles contract.adapterRoles (eventsOf payload)) :=
  ⟨together_of_pairwise, pairwise_of_together (firstPlaces_of_accepted h)⟩

theorem follows_order_sample :
    FollowsOrder sampleContract.adapterRoles (eventsOf samplePayload) ↔
      Together (listedRoles sampleContract.adapterRoles (eventsOf samplePayload)) :=
  follows_order_iff sample_accepted

/-- The sample with the flash adapter run once more at the end. -/
def reflashedPayload : Fields :=
  setField samplePayload ("events", .list ((sampleContract.adapterRoles ++ ["flash"]).map sampleEvent))

/-- A run is accepted that writes the storage again after it was read back. -/
theorem accepted_out_of_order :
    validatePayload samplePython sampleContract ⟨none, none, none, none, none, none, none, none⟩ sampleFiles sampleRoot true
        reflashedPayload = .ok [] ∧ ¬FollowsOrder sampleContract.adapterRoles (eventsOf reflashedPayload) := by
  refine ⟨by decide +kernel, ?_⟩
  unfold FollowsOrder
  decide +kernel

end SuderraOs.Evidence.Station
