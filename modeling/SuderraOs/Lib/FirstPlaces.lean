import Mathlib.Data.List.Basic
import Mathlib.Data.List.Sublists

/-!
# The places of first occurrence

What the first occurrences of its items say of a list. A list follows an order exactly when its items occur first in this order
(`firstPlaces`) and no item comes back after another one (`Together`): `pairwise_of_together` and `together_of_pairwise`.
-/

namespace SuderraOs

variable {α : Type} [DecidableEq α]

/-- No item comes back after another one. -/
def Together (xs : List α) : Prop := ∀ a b, [a, b, a].Sublist xs → b = a

/-- An item that is first found before another one stands before it. -/
theorem sublist_of_idxOf_lt {a b : α} {xs : List α} (ha : xs.idxOf a < xs.idxOf b) (hb : b ∈ xs) : [a, b].Sublist xs := by
  induction xs with
  | nil => cases hb
  | cons x xs ih =>
    rw [List.idxOf_cons, List.idxOf_cons] at ha
    have hne : x ≠ b := by
      rintro rfl
      simp at ha
    have hmem : b ∈ xs := (List.mem_cons.1 hb).resolve_left fun heq => hne heq.symm
    by_cases hx : x = a
    · subst hx
      exact (List.singleton_sublist.2 hmem).cons_cons x
    · rw [cond_eq_ite, cond_eq_ite, if_neg (by simpa using hx), if_neg (by simpa using hne)] at ha
      exact (ih (by omega) hmem).cons x

/-- An item that comes after another one and was found before it comes back. -/
theorem sublist_back {a b : α} {xs : List α} (hsub : [b, a].Sublist xs) (hlt : xs.idxOf a < xs.idxOf b) : [a, b, a].Sublist xs := by
  induction xs with
  | nil => cases hsub
  | cons x xs ih =>
    rw [List.idxOf_cons, List.idxOf_cons] at hlt
    have hne : x ≠ b := by
      rintro rfl
      simp at hlt
    have hrest : [b, a].Sublist xs := by
      cases hsub with
      | cons _ h => exact h
      | cons_cons _ h => exact absurd rfl hne
    by_cases hx : x = a
    · subst hx
      exact hrest.cons_cons x
    · rw [cond_eq_ite, cond_eq_ite, if_neg (by simpa using hx), if_neg (by simpa using hne)] at hlt
      exact (ih hrest (by omega)).cons x

/-- The items of a list that an order lists, at their places in it. -/
def placesIn (order xs : List α) : List Nat := (xs.filter fun x => order.contains x).map order.idxOf

/-- Where the items of an order occur first in a list. -/
def firstPlaces (order xs : List α) : List Nat := (order.filter fun x => xs.contains x).map xs.idxOf

/-- A list follows an order when its items occur first in this order and none comes back after another one. -/
theorem pairwise_of_together {order xs : List α} (hfirst : (firstPlaces order xs).Pairwise (· ≤ ·))
    (htogether : Together (xs.filter fun x => order.contains x)) : (placesIn order xs).Pairwise (· ≤ ·) := by
  rw [firstPlaces, List.pairwise_map, List.pairwise_iff_forall_sublist] at hfirst
  rw [placesIn, List.pairwise_map, List.pairwise_iff_forall_sublist]
  intro a b hsub
  by_contra hlt
  rw [not_le] at hlt
  have hmem : ∀ x ∈ [a, b], x ∈ xs ∧ x ∈ order := fun x hx => by
    simpa using List.mem_filter.1 (hsub.subset hx)
  obtain ⟨haxs, haorder⟩ := hmem a (by simp)
  obtain ⟨hbxs, hborder⟩ := hmem b (by simp)
  have hne : b ≠ a := by
    rintro rfl
    exact lt_irrefl _ hlt
  -- the smaller item is found first, and comes after the larger one again
  have horder : [b, a].Sublist (order.filter fun x => xs.contains x) := by
    have := (sublist_of_idxOf_lt hlt haorder).filter fun x => xs.contains x
    simpa [haxs, hbxs] using this
  have hidx : xs.idxOf b < xs.idxOf a := by
    refine lt_of_le_of_ne (hfirst horder) fun heq => hne ?_
    exact (List.idxOf_inj hbxs).1 heq
  have hback := (sublist_back (hsub.trans List.filter_sublist) hidx).filter fun x => order.contains x
  refine hne (htogether b a ?_).symm
  simpa [haorder, hborder] using hback

/-- In a list that follows an order no item comes back after another one. -/
theorem together_of_pairwise {order xs : List α} (h : (placesIn order xs).Pairwise (· ≤ ·)) :
    Together (xs.filter fun x => order.contains x) := by
  rw [placesIn, List.pairwise_map, List.pairwise_iff_forall_sublist] at h
  intro a b hsub
  have hmem : ∀ x ∈ [a, b, a], x ∈ order := fun x hx => by
    simpa using (List.mem_filter.1 (hsub.subset hx)).2
  have hab := h ((by decide : [0, 1].Sublist [0, 1, 0]).map (fun i => if i = 0 then a else b) |>.trans hsub)
  have hba := h ((by decide : [1, 0].Sublist [0, 1, 0]).map (fun i => if i = 0 then a else b) |>.trans hsub)
  exact (List.idxOf_inj (hmem b (by simp))).1 (le_antisymm hba hab)

end SuderraOs
