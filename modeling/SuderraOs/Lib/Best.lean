import Mathlib.Data.List.Induction
import Mathlib.Data.List.MinMax
import Mathlib.Order.Nat

/-!
# Scanning for a best element

One pass over a list that keeps the first element of least priority and counts the elements that tie with it. The scan ends with a
count of one exactly when a single element has the least priority, and with that element (`scan_eq_sole`).
-/

namespace SuderraOs

/-- What a scan has found so far; the priority is that of the best element, and `seen` counts every element. -/
structure Best (α : Type) where
  best : Option α
  priority : Nat
  count : Nat
  seen : Nat

namespace Best

variable {α : Type} (priority : α → Nat) {top : Nat}

/-- Look at one more element. -/
def add (b : Best α) (a : α) : Best α :=
  if priority a < b.priority then ⟨some a, priority a, 1, b.seen + 1⟩
  else if priority a = b.priority then { b with count := b.count + 1, seen := b.seen + 1 }
  else { b with seen := b.seen + 1 }

/-- The scan of a list, from a priority above all of its elements. -/
def scan (top : Nat) (l : List α) : Best α := l.foldl (add priority) ⟨none, top, 0, 0⟩

/-- `a` has the least priority in the list, and nothing else has it. -/
def Sole (l : List α) (a : α) : Prop := a ∈ l ∧ l.countP (fun x => priority x ≤ priority a) = 1

variable {priority}

theorem scan_append (l : List α) (a : α) : scan priority top (l ++ [a]) = add priority (scan priority top l) a := by
  simp [scan]

theorem add_priority (b : Best α) (a : α) : (add priority b a).priority = min (priority a) b.priority := by
  unfold add
  split_ifs <;> simp only <;> omega

theorem add_seen (b : Best α) (a : α) : (add priority b a).seen = b.seen + 1 := by
  unfold add
  split_ifs <;> rfl

/-- What the scan keeps: a lower bound of the priorities, and the element that reaches it with the number of its ties. -/
theorem scan_spec {l : List α} (h : ∀ a ∈ l, priority a < top) :
    (scan priority top l).seen = l.length ∧ (∀ a ∈ l, (scan priority top l).priority ≤ priority a) ∧
      (scan priority top l).count = l.countP (fun x => priority x = (scan priority top l).priority) ∧
      (l ≠ [] → ∃ a ∈ l, (scan priority top l).best = some a ∧ priority a = (scan priority top l).priority) := by
  induction l using List.reverseRecOn with
  | nil => simp [scan]
  | append_singleton l a ih =>
    obtain ⟨hseen, hle, hcount, hbest⟩ := ih fun x hx => h x (List.mem_append_left _ hx)
    rw [scan_append]
    refine ⟨by simp [add_seen, hseen], fun x hx => ?_, ?_⟩
    · rw [add_priority]
      rcases List.mem_append.1 hx with hx | hx
      · exact (Nat.min_le_right _ _).trans (hle x hx)
      · rw [List.mem_singleton.1 hx]
        exact Nat.min_le_left _ _
    · have hkept (hge : (scan priority top l).priority ≤ priority a) : l ≠ [] := by
        rintro rfl
        exact absurd (h a (by simp)) (Nat.not_lt.2 hge)
      rw [add]
      split_ifs with hlt heq
      · have hnone : l.countP (fun x => priority x = priority a) = 0 := by
          rw [List.countP_eq_zero]
          intro x hx
          have := hle x hx
          simp only [decide_eq_true_eq]
          omega
        exact ⟨by simp [List.countP_append, hnone], fun _ => ⟨a, by simp, rfl, rfl⟩⟩
      · obtain ⟨b, hb, hbb, hpb⟩ := hbest (hkept heq.ge)
        exact ⟨by simp [List.countP_append, hcount, heq], fun _ => ⟨b, List.mem_append_left _ hb, hbb, hpb⟩⟩
      · obtain ⟨b, hb, hbb, hpb⟩ := hbest (hkept (Nat.not_lt.1 hlt))
        exact ⟨by simp [List.countP_append, hcount, heq], fun _ => ⟨b, List.mem_append_left _ hb, hbb, hpb⟩⟩

/-- A scan counts one exactly when a single element has the least priority, and that is the one it keeps. -/
theorem scan_eq_sole {l : List α} (h : ∀ a ∈ l, priority a < top) (a : α) :
    (0 < (scan priority top l).seen ∧ (scan priority top l).count = 1 ∧ (scan priority top l).best = some a) ↔ Sole priority l a := by
  obtain ⟨hseen, hle, hcount, hbest⟩ := scan_spec h
  have hpos : 0 < (scan priority top l).seen ↔ l ≠ [] := by rw [hseen, List.length_pos_iff]
  -- to be at most the least priority is to have it
  have hties {b : α} (hpb : priority b = (scan priority top l).priority) :
      l.countP (fun x => priority x ≤ priority b) = (scan priority top l).count := by
    rw [hcount]
    refine List.countP_congr fun x hx => ?_
    have := hle x hx
    simp only [decide_eq_true_eq]
    omega
  constructor
  · rintro ⟨hne, hone, ha⟩
    obtain ⟨b, hb, hbb, hpb⟩ := hbest (hpos.1 hne)
    obtain rfl : b = a := Option.some.inj (hbb.symm.trans ha)
    exact ⟨hb, (hties hpb).trans hone⟩
  · rintro ⟨ha, hone⟩
    have hne : l ≠ [] := List.ne_nil_of_mem ha
    obtain ⟨b, hb, hbb, hpb⟩ := hbest hne
    rw [List.countP_eq_length_filter, List.length_eq_one_iff] at hone
    obtain ⟨c, hc⟩ := hone
    have hmem {x : α} (hx : x ∈ l) (hp : priority x ≤ priority a) : x = c := by
      have : x ∈ l.filter fun x => priority x ≤ priority a := List.mem_filter.2 ⟨hx, decide_eq_true hp⟩
      rwa [hc, List.mem_singleton] at this
    have hab : b = a := (hmem hb (hpb ▸ hle a ha)).trans (hmem ha le_rfl).symm
    subst hab
    refine ⟨hpos.2 hne, ?_, hbb⟩
    rw [← hties hpb, List.countP_eq_length_filter, hc]
    rfl

/-! ## The sole best element -/

/-- The sole best element of a part of a list stands in the list between elements that are worse, or not of the part. -/
theorem sole_filter_iff {p : α → Bool} {l : List α} {a : α} :
    Sole priority (l.filter p) a ↔ p a = true ∧
      ∃ before after, l = before ++ a :: after ∧ ∀ x ∈ before ++ after, p x = true → priority a < priority x := by
  constructor
  · rintro ⟨ha, hone⟩
    obtain ⟨hmem, hp⟩ := List.mem_filter.1 ha
    obtain ⟨before, after, rfl⟩ := List.append_of_mem hmem
    rw [List.filter_append, List.filter_cons_of_pos hp, List.countP_append, List.countP_cons_of_pos (by simp)] at hone
    refine ⟨hp, before, after, rfl, fun x hx hpx => ?_⟩
    have hnone : (before.filter p ++ after.filter p).countP (fun x => priority x ≤ priority a) = 0 := by
      rw [List.countP_append]
      omega
    have := List.countP_eq_zero.1 hnone x (by rw [← List.filter_append]; exact List.mem_filter.2 ⟨hx, hpx⟩)
    simpa using this
  · rintro ⟨hp, before, after, rfl, hworse⟩
    refine ⟨List.mem_filter.2 ⟨by simp, hp⟩, ?_⟩
    have hnone : (before.filter p ++ after.filter p).countP (fun x => priority x ≤ priority a) = 0 := by
      rw [List.countP_eq_zero, ← List.filter_append]
      intro x hx
      obtain ⟨hx, hpx⟩ := List.mem_filter.1 hx
      simpa using hworse x hx hpx
    rw [List.countP_append] at hnone
    rw [List.filter_append, List.filter_cons_of_pos hp, List.countP_append, List.countP_cons_of_pos (by simp)]
    omega

/-- Which element is the sole best one does not depend on the order of the list. -/
theorem sole_perm {l l' : List α} (h : l.Perm l') (a : α) : Sole priority l a ↔ Sole priority l' a := by
  rw [Sole, Sole, h.mem_iff, h.countP_eq]

/-- There is no sole best element exactly when there is none at all or two elements tie below the others. -/
theorem not_sole_filter_iff {p : α → Bool} {l : List α} :
    (∀ a, ¬ Sole priority (l.filter p) a) ↔ l.filter p = [] ∨
      ∃ a b, [a, b].Sublist l ∧ p a = true ∧ p b = true ∧ priority a = priority b ∧
        ∀ x ∈ l, p x = true → priority a ≤ priority x := by
  constructor
  · intro hnone
    cases hleast : (l.filter p).argmin priority with
    | none => exact Or.inl (List.argmin_eq_none.1 hleast)
    | some a =>
      have ha : a ∈ l.filter p := List.argmin_mem hleast
      have hle {x : α} (hx : x ∈ l.filter p) : priority a ≤ priority x := List.le_of_mem_argmin hx hleast
      have hpos : 0 < (l.filter p).countP fun x => priority x ≤ priority a := List.countP_pos_iff.2 ⟨a, ha, by simp⟩
      have htwo : 2 ≤ ((l.filter p).filter fun x => priority x ≤ priority a).length := by
        have : (l.filter p).countP (fun x => priority x ≤ priority a) ≠ 1 := fun hone => hnone a ⟨ha, hone⟩
        rw [← List.countP_eq_length_filter]
        omega
      -- the first two of the elements that are as good as the least one
      match hties : (l.filter p).filter fun x => priority x ≤ priority a, htwo with
      | x :: y :: rest, _ =>
        have hbest {z : α} (hz : z ∈ x :: y :: rest) : z ∈ l.filter p ∧ priority z = priority a := by
          rw [← hties] at hz
          obtain ⟨hz, hza⟩ := List.mem_filter.1 hz
          exact ⟨hz, le_antisymm (of_decide_eq_true hza) (hle hz)⟩
        have hx := hbest (z := x) (by simp)
        have hy := hbest (z := y) (by simp)
        refine Or.inr ⟨x, y, ?_, (List.mem_filter.1 hx.1).2, (List.mem_filter.1 hy.1).2, hx.2.trans hy.2.symm, fun z hz hpz => ?_⟩
        · have hfirst : [x, y].Sublist (x :: y :: rest) := by simp
          exact (hfirst.trans (hties ▸ List.filter_sublist)).trans List.filter_sublist
        · rw [hx.2]
          exact hle (List.mem_filter.2 ⟨hz, hpz⟩)
  · rintro (hempty | ⟨a, b, hsub, hpa, hpb, hab, hleast⟩) c hsole
    · rw [hempty] at hsole
      exact absurd hsole.1 List.not_mem_nil
    · obtain ⟨hmem, hone⟩ := hsole
      obtain ⟨hc, hpc⟩ := List.mem_filter.1 hmem
      have hac := hleast c hc hpc
      have htwo : ([a, b].filter p).countP (fun x => priority x ≤ priority c) = 2 := by
        simp [hpa, hpb, hac, ← hab]
      have := (hsub.filter p).countP_le (p := fun x => decide (priority x ≤ priority c))
      omega

end Best

end SuderraOs
