import Mathlib.Data.List.Basic

/-!
# Stretches between ends

A list that is read up to its ends, and what comes of reading it in pieces. The stretches of a list are those of its pieces exactly when
no piece ends inside a stretch (`flatMap_stretches`), and there are more of them as soon as one does (`length_stretches_flatten`).
-/

namespace SuderraOs.Framing

variable {α β : Type} {isEnd : α → Bool}

/-- A part, unless it is empty. -/
def part : List α → List (List α)
  | [] => []
  | x :: xs => [x :: xs]

/-- The parts of a list between ends, without the empty ones; `pending` was read before. -/
def stretchesFrom (isEnd : α → Bool) (pending : List α) : List α → List (List α)
  | [] => part pending
  | x :: xs => if isEnd x then part pending ++ stretchesFrom isEnd [] xs else stretchesFrom isEnd (pending ++ [x]) xs

def stretches (isEnd : α → Bool) (xs : List α) : List (List α) := stretchesFrom isEnd [] xs

/-- What was read since the last end. -/
def pendingAfter (isEnd : α → Bool) (pending : List α) : List α → List α
  | [] => pending
  | x :: xs => pendingAfter isEnd (if isEnd x then [] else pending ++ [x]) xs

/-- No stretch runs over the cut. -/
def CleanCut (isEnd : α → Bool) (u v : List α) : Prop := (∀ x ∈ u.getLast?, isEnd x = true) ∨ ∀ x ∈ v.head?, isEnd x = true

/-- No stretch runs over the end of a piece. -/
def CleanCuts (isEnd : α → Bool) (pieces : List (List α)) : Prop :=
  ∀ before behind, pieces = before ++ behind → CleanCut isEnd before.flatten behind.flatten

theorem part_eq {xs : List α} (h : xs ≠ []) : part xs = [xs] := by
  cases xs with
  | nil => exact absurd rfl h
  | cons x xs => rfl

variable (isEnd) in
/-- Reading on after a first piece depends only on what it left over. -/
theorem stretchesFrom_append (u : List α) :
    ∀ pending : List α, ∃ done, ∀ v, stretchesFrom isEnd pending (u ++ v) = done ++ stretchesFrom isEnd (pendingAfter isEnd pending u) v := by
  induction u with
  | nil => exact fun pending => ⟨[], fun v => rfl⟩
  | cons x u ih =>
    intro pending
    cases hx : isEnd x with
    | true =>
      obtain ⟨done, hdone⟩ := ih []
      refine ⟨part pending ++ done, fun v => ?_⟩
      simp only [List.cons_append, stretchesFrom, pendingAfter, hx, if_true, hdone v, List.append_assoc]
    | false =>
      obtain ⟨done, hdone⟩ := ih (pending ++ [x])
      refine ⟨done, fun v => ?_⟩
      simpa only [List.cons_append, stretchesFrom, pendingAfter, hx, Bool.false_eq_true, if_false] using hdone v

/-- Nothing is left over after an end. -/
theorem pendingAfter_eq_nil_iff (u : List α) :
    ∀ pending : List α, pendingAfter isEnd pending u = [] ↔ (u = [] ∧ pending = []) ∨ ∃ x ∈ u.getLast?, isEnd x = true := by
  induction u with
  | nil => simp [pendingAfter]
  | cons x u ih =>
    intro pending
    rw [pendingAfter, ih]
    cases u with
    | nil => cases hx : isEnd x <;> simp [hx]
    | cons y u => simp

theorem pendingAfter_nil_iff {u : List α} : pendingAfter isEnd [] u = [] ↔ ∀ x ∈ u.getLast?, isEnd x = true := by
  rw [pendingAfter_eq_nil_iff]
  cases h : u.getLast? with
  | none => simp [List.getLast?_eq_none_iff.1 h]
  | some x =>
    have hne : u ≠ [] := by
      rintro rfl
      cases h
    simp [hne]

variable (isEnd) in
/-- How many stretches follow does not depend on what was read before, as long as something was. -/
theorem length_stretchesFrom (v : List α) :
    ∀ {p q : List α}, p ≠ [] → q ≠ [] → (stretchesFrom isEnd p v).length = (stretchesFrom isEnd q v).length := by
  induction v with
  | nil =>
    intro p q hp hq
    rw [stretchesFrom, stretchesFrom, part_eq hp, part_eq hq]
    rfl
  | cons x v ih =>
    intro p q hp hq
    cases hx : isEnd x with
    | true => simp only [stretchesFrom, hx, if_true, part_eq hp, part_eq hq, List.length_append, List.length_singleton]
    | false =>
      simp only [stretchesFrom, hx, Bool.false_eq_true, if_false]
      exact ih (by simp) (by simp)

theorem stretches_append_of_clean {u v : List α} (h : CleanCut isEnd u v) :
    stretches isEnd (u ++ v) = stretches isEnd u ++ stretches isEnd v := by
  obtain ⟨done, hdone⟩ := stretchesFrom_append isEnd u []
  have hu := hdone []
  rw [List.append_nil] at hu
  rw [stretches, stretches, stretches, hdone v, hu, List.append_assoc]
  congr 1
  rcases h with hlast | hhead
  · rw [pendingAfter_nil_iff.2 hlast]
    rfl
  · cases v with
    | nil => simp [stretchesFrom, part]
    | cons x v =>
      have hx : isEnd x = true := hhead x rfl
      simp only [stretchesFrom, hx, if_true, part, List.nil_append]

/-- A stretch over the cut counts twice when the two sides are read by themselves. -/
theorem length_stretches_append_of_not_clean {u v : List α} (h : ¬CleanCut isEnd u v) :
    (stretches isEnd (u ++ v)).length + 1 = (stretches isEnd u).length + (stretches isEnd v).length := by
  have hlast : ¬∀ x ∈ u.getLast?, isEnd x = true := fun hall => h (Or.inl hall)
  have hhead : ¬∀ x ∈ v.head?, isEnd x = true := fun hall => h (Or.inr hall)
  cases v with
  | nil => simp at hhead
  | cons x v =>
    have hx : isEnd x = false := by simpa using hhead
    obtain ⟨done, hdone⟩ := stretchesFrom_append isEnd u []
    have hu := hdone []
    rw [List.append_nil] at hu
    have hpending : pendingAfter isEnd [] u ≠ [] := fun heq => hlast (pendingAfter_nil_iff.1 heq)
    have hlength := @length_stretchesFrom _ isEnd v (pendingAfter isEnd [] u ++ [x]) [x] (by simp) (by simp)
    simp only [stretches, hdone (x :: v), hu, stretchesFrom, hx, Bool.false_eq_true, if_false, List.length_append, part_eq hpending,
      List.length_singleton, List.nil_append, hlength]
    omega

variable (isEnd) in
theorem length_stretches_append_le (u v : List α) :
    (stretches isEnd (u ++ v)).length ≤ (stretches isEnd u).length + (stretches isEnd v).length := by
  by_cases h : CleanCut isEnd u v
  · exact Nat.le_of_eq (by rw [stretches_append_of_clean h, List.length_append])
  · have := length_stretches_append_of_not_clean h
    omega

theorem cleanCuts_cons {p : List α} {ps : List (List α)} :
    CleanCuts isEnd (p :: ps) ↔ CleanCut isEnd p ps.flatten ∧ CleanCuts isEnd ps := by
  constructor
  · intro h
    refine ⟨by simpa using h [p] ps rfl, fun before behind hps => ?_⟩
    by_cases hempty : before.flatten = []
    · rw [hempty]
      exact Or.inl (by simp)
    · have hcut := h (p :: before) behind (by rw [hps]; rfl)
      rw [CleanCut, List.flatten_cons, List.getLast?_append_of_ne_nil _ hempty] at hcut
      exact hcut
  · rintro ⟨hp, hps⟩ before behind heq
    cases before with
    | nil => exact Or.inl (by simp)
    | cons b before =>
      obtain ⟨rfl, rfl⟩ := List.cons.inj heq
      have hcut := hps before behind rfl
      by_cases hempty : before.flatten = []
      · have hflat : (before ++ behind).flatten = behind.flatten := by rw [List.flatten_append, hempty, List.nil_append]
        rw [List.flatten_cons, hempty, List.append_nil, ← hflat]
        exact hp
      · rw [CleanCut, List.flatten_cons, List.getLast?_append_of_ne_nil _ hempty]
        exact hcut

variable (isEnd) in
/-- Read in pieces, a list has at least its stretches, and no more only if no piece ends inside one. -/
theorem length_stretches_flatten (pieces : List (List α)) :
    (stretches isEnd pieces.flatten).length ≤ (pieces.flatMap (stretches isEnd)).length ∧
      ((pieces.flatMap (stretches isEnd)).length ≤ (stretches isEnd pieces.flatten).length → CleanCuts isEnd pieces) := by
  induction pieces with
  | nil =>
    refine ⟨by simp [stretches, stretchesFrom, part], fun _ before behind heq => ?_⟩
    rw [(List.append_eq_nil_iff.1 heq.symm).1]
    exact Or.inl (by simp)
  | cons p ps ih =>
    obtain ⟨hle, hclean⟩ := ih
    have happend := length_stretches_append_le isEnd p ps.flatten
    rw [List.flatten_cons, List.flatMap_cons, List.length_append]
    refine ⟨by omega, fun hge => cleanCuts_cons.2 ⟨?_, hclean (by omega)⟩⟩
    by_contra hcut
    have := length_stretches_append_of_not_clean hcut
    omega

/-- The stretches of a list are those of its pieces, if no piece ends inside one. -/
theorem flatMap_stretches {pieces : List (List α)} (h : CleanCuts isEnd pieces) :
    pieces.flatMap (stretches isEnd) = stretches isEnd pieces.flatten := by
  induction pieces with
  | nil => rfl
  | cons p ps ih =>
    obtain ⟨hp, hps⟩ := cleanCuts_cons.1 h
    rw [List.flatten_cons, List.flatMap_cons, stretches_append_of_clean hp, ih hps]

/-- Pieces that end with an end. -/
theorem cleanCuts_of_getLast? {pieces : List (List α)} (h : ∀ p ∈ pieces, ∀ x ∈ p.getLast?, isEnd x = true) : CleanCuts isEnd pieces := by
  induction pieces with
  | nil =>
    intro before behind heq
    rw [(List.append_eq_nil_iff.1 heq.symm).1]
    exact Or.inl (by simp)
  | cons p ps ih => exact cleanCuts_cons.2 ⟨Or.inl (h p (by simp)), ih fun q hq => h q (by simp [hq])⟩

/-! ## The front of a list -/

/-- The first end splits a list in one way. -/
theorem append_cons_inj {x : α} {u u' v v' : List α} (hu : x ∉ u) (hu' : x ∉ u') (h : u ++ x :: v = u' ++ x :: v') : u = u' ∧ v = v' := by
  induction u generalizing u' with
  | nil =>
    cases u' with
    | nil => exact ⟨rfl, (List.cons.inj h).2⟩
    | cons y u' => exact absurd (List.cons.inj h).1 fun heq => hu' (by simp [heq])
  | cons y u ih =>
    cases u' with
    | nil => exact absurd (List.cons.inj h).1 fun heq => hu (by simp [heq])
    | cons y' u' =>
      obtain ⟨rfl, hrest⟩ := List.cons.inj h
      obtain ⟨rfl, rfl⟩ := ih (fun hmem => hu (by simp [hmem])) (fun hmem => hu' (by simp [hmem])) hrest
      exact ⟨rfl, rfl⟩

/-- Items of one kind at the front stand before the first item of another kind. -/
theorem front_of_append_eq {P : α → Prop} {x : α} {u v before rest : List α} (hu : ∀ y ∈ u, P y) (hx : ¬P x)
    (h : u ++ v = before ++ x :: rest) : ∃ before', before = u ++ before' ∧ v = before' ++ x :: rest := by
  rcases List.append_eq_append_iff.1 h with ⟨before', hbefore, hv⟩ | ⟨cs, hu', hrest⟩
  · exact ⟨before', hbefore, hv⟩
  · cases cs with
    | nil => exact ⟨[], by simpa using hu'.symm, by simpa using hrest.symm⟩
    | cons c cs =>
      obtain ⟨rfl, -⟩ := List.cons.inj hrest
      exact absurd (hu x (by simp [hu'])) hx

/-- Items of one kind at the end stand behind the last item of another kind. -/
theorem end_of_append_eq {P : α → Prop} {x : α} {u v behind rest : List α} (hu : ∀ y ∈ u, P y) (hx : ¬P x)
    (h : v ++ u = rest ++ (x :: behind)) : ∃ behind', behind = behind' ++ u ∧ v = rest ++ (x :: behind') := by
  rcases List.append_eq_append_iff.1 h with ⟨cs, hrest, hu'⟩ | ⟨cs, hv, hbehind⟩
  · exact absurd (hu x (by simp [hu'])) hx
  · cases cs with
    | nil => exact absurd (hu x (by rw [← List.nil_append u, ← hbehind]; simp)) hx
    | cons c cs =>
      obtain ⟨rfl, rfl⟩ := List.cons.inj hbehind
      exact ⟨cs, rfl, hv⟩

/-! ## Items and their codes -/

theorem stretchesFrom_of_no_end {xs : List α} (h : ∀ x ∈ xs, isEnd x = false) (pending ys : List α) :
    stretchesFrom isEnd pending (xs ++ ys) = stretchesFrom isEnd (pending ++ xs) ys := by
  induction xs generalizing pending with
  | nil => simp
  | cons x xs ih =>
    rw [List.cons_append, stretchesFrom, if_neg (by simp [h x]), ih fun y hy => h y (by simp [hy])]
    simp

/-- A code that gives one end for an end, and no end for anything else, keeps the stretches. -/
theorem stretches_flatMap {isEnd' : β → Bool} {code : α → List β} (hend : ∀ x, isEnd x = true → ∃ y, code x = [y] ∧ isEnd' y = true)
    (hno : ∀ x, isEnd x = false → code x ≠ [] ∧ ∀ y ∈ code x, isEnd' y = false) (xs : List α) :
    stretches isEnd' (xs.flatMap code) = (stretches isEnd xs).map fun stretch => stretch.flatMap code := by
  have hpart : ∀ pending : List α, (∀ x ∈ pending, isEnd x = false) →
      part (pending.flatMap code) = (part pending).map fun stretch => stretch.flatMap code := by
    intro pending hpending
    cases pending with
    | nil => rfl
    | cons x pending =>
      refine part_eq ?_
      rw [List.flatMap_cons]
      exact List.append_ne_nil_of_left_ne_nil (hno x (hpending x (by simp))).1 _
  have hfrom : ∀ (xs pending : List α), (∀ x ∈ pending, isEnd x = false) → stretchesFrom isEnd' (pending.flatMap code) (xs.flatMap code) =
      (stretchesFrom isEnd pending xs).map fun stretch => stretch.flatMap code := by
    intro xs
    induction xs with
    | nil => exact hpart
    | cons x xs ih =>
      intro pending hpending
      cases hx : isEnd x with
      | true =>
        obtain ⟨y, hcode, hy⟩ := hend x hx
        have hrest := ih [] (by simp)
        rw [List.flatMap_nil] at hrest
        rw [List.flatMap_cons, hcode, List.singleton_append, stretchesFrom, stretchesFrom, if_pos hy, if_pos hx, List.map_append,
          hpart pending hpending, hrest]
      | false =>
        rw [List.flatMap_cons, stretchesFrom_of_no_end (hno x hx).2, stretchesFrom, if_neg (by simp [hx])]
        have hrest := ih (pending ++ [x]) (by simpa [or_imp, forall_and, hx] using hpending)
        rwa [List.flatMap_append, List.flatMap_singleton] at hrest
  exact hfrom xs [] (by simp)

/-! ## A single stretch -/

theorem stretchesFrom_ne_nil (xs : List α) : ∀ {pending : List α}, pending ≠ [] → stretchesFrom isEnd pending xs ≠ [] := by
  induction xs with
  | nil =>
    intro pending hne
    simp [stretchesFrom, part_eq hne]
  | cons x xs ih =>
    intro pending hne
    rw [stretchesFrom]
    split
    · simp [part_eq hne]
    · exact ih (by simp)

/-- A list without a stretch is made of ends. -/
theorem stretches_eq_nil {xs : List α} (h : stretches isEnd xs = []) : ∀ x ∈ xs, isEnd x = true := by
  induction xs with
  | nil => simp
  | cons x xs ih =>
    rw [stretches, stretchesFrom] at h
    split at h
    · rename_i hx
      simpa [hx] using ih (by simpa [part, stretches] using h)
    · exact absurd h (stretchesFrom_ne_nil xs (by simp))

theorem stretchesFrom_eq_singleton (xs : List α) : ∀ {pending stretch : List α}, pending ≠ [] → stretchesFrom isEnd pending xs = [stretch] →
    ∃ more behind, xs = more ++ behind ∧ stretch = pending ++ more ∧ ∀ x ∈ behind, isEnd x = true := by
  induction xs with
  | nil =>
    intro pending stretch hne h
    rw [stretchesFrom, part_eq hne, List.cons.injEq] at h
    exact ⟨[], [], rfl, by rw [← h.1, List.append_nil], by simp⟩
  | cons x xs ih =>
    intro pending stretch hne h
    rw [stretchesFrom] at h
    split at h
    · rename_i hx
      rw [part_eq hne, List.singleton_append, List.cons.injEq] at h
      exact ⟨[], x :: xs, rfl, by rw [← h.1, List.append_nil], by simpa [hx] using stretches_eq_nil h.2⟩
    · obtain ⟨more, behind, rfl, rfl, hbehind⟩ := ih (by simp) h
      exact ⟨x :: more, behind, rfl, by simp, hbehind⟩

/-- A list of one stretch has nothing but ends around it. -/
theorem around_of_stretches {xs stretch : List α} (h : stretches isEnd xs = [stretch]) :
    ∃ before behind, xs = before ++ (stretch ++ behind) ∧ (∀ x ∈ before, isEnd x = true) ∧ ∀ x ∈ behind, isEnd x = true := by
  induction xs with
  | nil => cases h
  | cons x xs ih =>
    rw [stretches, stretchesFrom] at h
    split at h
    · rename_i hx
      obtain ⟨before, behind, rfl, hbefore, hbehind⟩ := ih (by simpa [part, stretches] using h)
      exact ⟨x :: before, behind, rfl, by simpa [hx] using hbefore, hbehind⟩
    · obtain ⟨more, behind, rfl, rfl, hbehind⟩ := stretchesFrom_eq_singleton xs (by simp) h
      exact ⟨[], behind, by simp, by simp, hbehind⟩

end SuderraOs.Framing
