import Mathlib.Data.List.Forall2
import Mathlib.Logic.Basic

/-!
# Effects: computations over a state that may fail

An `Effect` reads and writes a state and ends with a value or an error; what it wrote before it failed stays written. This is
the shape of a program whose steps have side effects outside of it: there is no undo. `Effect.wp` is the weakest precondition
with two postconditions, one for each end, and the rules below derive it command by command.
-/

namespace SuderraOs

/-- A sequence of results ends well exactly when its parts do. -/
theorem bind_ok_iff {ε α β : Type} {x : Except ε α} {f : α → Except ε β} {b : β} :
    (x >>= f) = .ok b ↔ ∃ a, x = .ok a ∧ f a = .ok b := by
  cases x with
  | ok a => exact ⟨fun h => ⟨a, rfl, h⟩, fun ⟨_, ha, h⟩ => by cases ha; exact h⟩
  | error e => exact ⟨fun h => (nomatch h), fun ⟨_, ha, _⟩ => (nomatch ha)⟩

/-- A value that must be there, or an error. -/
def orError {ε α : Type} (e : ε) : Option α → Except ε α
  | some a => .ok a
  | none => .error e

@[simp] theorem orError_some {ε α : Type} (e : ε) (a : α) : orError e (some a) = .ok a := rfl

theorem orError_ok_iff {ε α : Type} {e : ε} {x : Option α} {a : α} : orError e x = .ok a ↔ x = some a := by
  cases x <;> simp [orError]

/-- A condition that must hold, or an error. -/
def guardError {ε : Type} (e : ε) (p : Bool) : Except ε Unit := if p then .ok () else .error e

theorem guardError_ok_iff {ε : Type} {e : ε} {p : Bool} {u : Unit} : guardError e p = .ok u ↔ p = true := by
  cases p <;> simp [guardError]

theorem ok_bind {ε α β : Type} (a : α) (f : α → Except ε β) : (.ok a >>= f) = f a := rfl

theorem guardError_bind_ok_iff {ε β : Type} {e : ε} {p : Bool} {f : Unit → Except ε β} {b : β} :
    (guardError e p >>= f) = .ok b ↔ p = true ∧ f () = .ok b := by
  rw [bind_ok_iff]
  exact ⟨fun ⟨_, hp, h⟩ => ⟨guardError_ok_iff.1 hp, h⟩, fun ⟨hp, h⟩ => ⟨(), guardError_ok_iff.2 hp, h⟩⟩

theorem orError_bind_ok_iff {ε α β : Type} {e : ε} {x : Option α} {f : α → Except ε β} {b : β} :
    (orError e x >>= f) = .ok b ↔ ∃ a, x = some a ∧ f a = .ok b := by
  simp only [bind_ok_iff, orError_ok_iff]

/-- The message of a check that did not hold, where every check is made before the messages are reported. -/
def failUnless {ε : Type} (e : ε) (p : Bool) : List ε := if p then [] else [e]

/-- Names in a message. -/
def commaSeparated (names : List String) : String := ", ".intercalate names

/-- A value in a message that is made only where the value is there. -/
def orEmpty (value : Option String) : String := value.getD ""

@[simp] theorem failUnless_eq_nil {ε : Type} {e : ε} {p : Bool} : failUnless e p = [] ↔ p = true := by
  cases p <;> simp [failUnless]

/-- What every step of a loop keeps, the loop keeps. -/
theorem foldlM_keeps {ε σ α : Type} {step : σ → α → Except ε σ} {I : σ → Prop} (hstep : ∀ s x s', I s → step s x = .ok s' → I s')
    {xs : List α} {s s' : σ} (hs : I s) (h : xs.foldlM step s = .ok s') : I s' := by
  induction xs generalizing s with
  | nil => exact Except.ok.inj h ▸ hs
  | cons x xs ih =>
    rw [List.foldlM_cons] at h
    obtain ⟨t, ht, h⟩ := bind_ok_iff.1 h
    exact ih (hstep s x t hs ht) h

/-- A list is computed item by item. -/
theorem mapM_ok_iff {ε α β : Type} {f : α → Except ε β} {xs : List α} {ys : List β} :
    xs.mapM f = .ok ys ↔ List.Forall₂ (fun x y => f x = .ok y) xs ys := by
  induction xs generalizing ys with
  | nil =>
    rw [List.mapM_nil, List.forall₂_nil_left_iff]
    exact ⟨fun h => (Except.ok.inj h).symm, fun h => h ▸ rfl⟩
  | cons x xs ih =>
    rw [List.mapM_cons, List.forall₂_cons_left_iff]
    constructor
    · intro h
      obtain ⟨y, hy, h⟩ := bind_ok_iff.1 h
      obtain ⟨ys', hys, h⟩ := bind_ok_iff.1 h
      exact ⟨y, ys', hy, ih.1 hys, (Except.ok.inj h).symm⟩
    · rintro ⟨y, ys', hy, hys, rfl⟩
      rw [hy, ok_bind, ih.2 hys, ok_bind]
      rfl

theorem mapM_ok_left {ε α β : Type} {f : α → Except ε β} {xs : List α} {ys : List β} (h : xs.mapM f = .ok ys) :
    ∀ x ∈ xs, ∃ y ∈ ys, f x = .ok y := by
  rw [mapM_ok_iff] at h
  induction h with
  | nil => simp
  | cons hxy _ ih => exact List.forall_mem_cons.2 ⟨⟨_, List.mem_cons_self, hxy⟩,
      fun x hx => (ih x hx).imp fun y hy => ⟨List.mem_cons_of_mem _ hy.1, hy.2⟩⟩

theorem mapM_ok_right {ε α β : Type} {f : α → Except ε β} {xs : List α} {ys : List β} (h : xs.mapM f = .ok ys) :
    ∀ y ∈ ys, ∃ x ∈ xs, f x = .ok y := by
  rw [mapM_ok_iff] at h
  induction h with
  | nil => simp
  | cons hxy _ ih => exact List.forall_mem_cons.2 ⟨⟨_, List.mem_cons_self, hxy⟩,
      fun y hy => (ih y hy).imp fun x hx => ⟨List.mem_cons_of_mem _ hx.1, hx.2⟩⟩

/-- A list is computed where each of its items is. -/
theorem exists_mapM {ε α β : Type} {f : α → Except ε β} {xs : List α} (h : ∀ x ∈ xs, ∃ y, f x = .ok y) : ∃ ys, xs.mapM f = .ok ys := by
  simp only [mapM_ok_iff]
  induction xs with
  | nil => exact ⟨[], .nil⟩
  | cons x xs ih =>
    obtain ⟨⟨y, hy⟩, hrest⟩ := List.forall_mem_cons.1 h
    obtain ⟨ys, hys⟩ := ih hrest
    exact ⟨y :: ys, .cons hy hys⟩

theorem exists_mem_zipIdx {α : Type} {xs : List α} {x : α} (h : x ∈ xs) : ∃ i, (x, i) ∈ xs.zipIdx := by
  obtain ⟨i, hi, rfl⟩ := List.getElem_of_mem h
  exact ⟨i, List.mk_mem_zipIdx_iff_getElem?.2 (List.getElem?_eq_getElem hi)⟩

/-- Where no message is found at all, none is found at any place. -/
theorem mapM_flatten_eq_nil {ε α β : Type} {f : α → Except ε (List β)} {xs : List α} {yss : List (List β)}
    (h : xs.mapM f = .ok yss) (hnil : yss.flatten = []) : ∀ x ∈ xs, f x = .ok [] := by
  induction xs generalizing yss with
  | nil => simp
  | cons x xs ih =>
    rw [List.mapM_cons] at h
    obtain ⟨ys, hys, h⟩ := bind_ok_iff.1 h
    obtain ⟨yss', hyss, h⟩ := bind_ok_iff.1 h
    obtain rfl := Except.ok.inj h
    rw [List.flatten_cons, List.append_eq_nil_iff] at hnil
    intro z hz
    rcases List.mem_cons.1 hz with rfl | hz
    · rw [hys, hnil.1]
    · exact ih hyss hnil.2 z hz

/-- Steps that all find nothing find nothing together. -/
theorem exists_mapM_flatten_nil {ε α β : Type} {f : α → Except ε (List β)} {xs : List α} (h : ∀ x ∈ xs, f x = .ok []) :
    ∃ yss, xs.mapM f = .ok yss ∧ yss.flatten = [] := by
  induction xs with
  | nil => exact ⟨[], rfl, rfl⟩
  | cons x xs ih =>
    rw [List.forall_mem_cons] at h
    obtain ⟨yss, hyss, hnil⟩ := ih h.2
    refine ⟨[] :: yss, ?_, by simpa using hnil⟩
    rw [List.mapM_cons, h.1, ok_bind, hyss]
    rfl

theorem forM_ok {ε α : Type} {f : α → Except ε Unit} {xs : List α} (h : xs.forM f = .ok ()) : ∀ x ∈ xs, f x = .ok () := by
  induction xs with
  | nil => simp
  | cons x xs ih =>
    obtain ⟨_, hx, h⟩ := bind_ok_iff.1 (show (f x >>= fun _ => xs.forM f) = .ok () from h)
    exact List.forall_mem_cons.2 ⟨hx, ih h⟩

/-- A computation over a state `σ` that ends with a value or with an error. What it wrote when it fails stays written. -/
def Effect (ε σ α : Type) : Type := σ → Except ε α × σ

namespace Effect

variable {ε σ α β : Type}

/-- Run a computation from a state. -/
def run (x : Effect ε σ α) (s : σ) : Except ε α × σ := x s

instance : Monad (Effect ε σ) where
  pure a := fun s => (.ok a, s)
  bind x f := fun s =>
    match x s with
    | (.ok a, s') => f a s'
    | (.error e, s') => (.error e, s')

/-- A result that reads and writes nothing. -/
def ofExcept (r : Except ε α) : Effect ε σ α := fun s => (r, s)

/-- A result that depends on the state and writes nothing. -/
def read (f : σ → Except ε α) : Effect ε σ α := fun s => (f s, s)

/-- A write that also decides how the computation ends. -/
def act (f : σ → σ) (r : Except ε α) : Effect ε σ α := fun s => (r, f s)

@[simp] theorem run_read (f : σ → Except ε α) (s : σ) : (read f : Effect ε σ α).run s = (f s, s) := rfl

/-- A sequence goes on from the state and the value its first part ends in. -/
theorem run_bind_ok {x : Effect ε σ α} {s s' : σ} {a : α} (h : x.run s = (.ok a, s')) (f : α → Effect ε σ β) :
    (x >>= f).run s = (f a).run s' := by
  change (match x s with | (.ok a, s') => f a s' | (.error e, s') => (.error e, s')) = _
  rw [show x s = (.ok a, s') from h]
  rfl

/-- A sequence ends where its first part fails. -/
theorem run_bind_error {x : Effect ε σ α} {s s' : σ} {e : ε} (h : x.run s = (.error e, s')) (f : α → Effect ε σ β) :
    (x >>= f).run s = (.error e, s') := by
  change (match x s with | (.ok a, s') => f a s' | (.error e, s') => (.error e, s')) = _
  rw [show x s = (.error e, s') from h]

/-! ## Weakest preconditions -/

/-- From `s` the computation ends with a value and a state in `Q`, or with an error and a state in `E`. -/
def wp (x : Effect ε σ α) (Q : α → σ → Prop) (E : ε → σ → Prop) (s : σ) : Prop :=
  match x.run s with
  | (.ok a, s') => Q a s'
  | (.error e, s') => E e s'

variable {Q : α → σ → Prop} {E : ε → σ → Prop} {s : σ}

/-- What a weakest precondition says of the run that ends with a value. -/
theorem wp.ok {x : Effect ε σ α} (h : x.wp Q E s) {a : α} {s' : σ} (hx : x.run s = (.ok a, s')) : Q a s' := by
  simpa only [wp, hx] using h

/-- What a weakest precondition says of the run that ends with an error. -/
theorem wp.error {x : Effect ε σ α} (h : x.wp Q E s) {e : ε} {s' : σ} (hx : x.run s = (.error e, s')) : E e s' := by
  simpa only [wp, hx] using h

/-- A postcondition of both ends holds of the state a computation leaves. -/
theorem wp.final {x : Effect ε σ α} {P : σ → Prop} (h : x.wp (fun _ => P) (fun _ => P) s) : P (x.run s).2 := by
  rcases hx : x.run s with ⟨r, s'⟩
  simp only [wp, hx] at h
  cases r with
  | ok a => exact h
  | error e => exact h

theorem wp_pure {a : α} (h : Q a s) : (pure a : Effect ε σ α).wp Q E s := h

theorem wp_ofExcept {r : Except ε α} (hQ : ∀ a, r = .ok a → Q a s) (hE : ∀ e, r = .error e → E e s) :
    (ofExcept r : Effect ε σ α).wp Q E s := by
  cases r with
  | ok a => exact hQ a rfl
  | error e => exact hE e rfl

theorem wp_read {f : σ → Except ε α} (hQ : ∀ a, f s = .ok a → Q a s) (hE : ∀ e, f s = .error e → E e s) :
    (read f : Effect ε σ α).wp Q E s := by
  simp only [wp, run_read]
  cases h : f s with
  | ok a => exact hQ a h
  | error e => exact hE e h

/-- The rule of sequence: the first part's postcondition is the second part's precondition, and both share the error end. -/
theorem wp_bind {x : Effect ε σ α} {f : α → Effect ε σ β} {Q : β → σ → Prop}
    (h : x.wp (fun a => (f a).wp Q E) E s) : (x >>= f).wp Q E s := by
  rcases hx : x.run s with ⟨r, s'⟩
  simp only [wp, hx] at h ⊢
  cases r with
  | ok a => rw [run_bind_ok hx]; exact h
  | error e => rw [run_bind_error hx]; exact h

/-- The rule of consequence. -/
theorem wp_mono {x : Effect ε σ α} {Q' : α → σ → Prop} {E' : ε → σ → Prop} (h : x.wp Q E s)
    (hQ : ∀ a s', Q a s' → Q' a s') (hE : ∀ e s', E e s' → E' e s') : x.wp Q' E' s := by
  rcases hx : x.run s with ⟨r, s'⟩
  simp only [wp, hx] at h ⊢
  cases r with
  | ok a => exact hQ a s' h
  | error e => exact hE e s' h

/-! ## Kept invariants -/

/-- An invariant that holds before a computation holds of the state it leaves, at either end. -/
def Keeps (I : σ → Prop) (x : Effect ε σ α) : Prop := ∀ s, I s → x.wp (fun _ => I) (fun _ => I) s

theorem Keeps.final {I : σ → Prop} {x : Effect ε σ α} (h : x.Keeps I) {s : σ} (hs : I s) : I (x.run s).2 := (h s hs).final

theorem keeps_pure {I : σ → Prop} (a : α) : (pure a : Effect ε σ α).Keeps I := fun _ hs => wp_pure hs

theorem keeps_ofExcept {I : σ → Prop} (r : Except ε α) : (ofExcept r : Effect ε σ α).Keeps I :=
  fun _ hs => wp_ofExcept (fun _ _ => hs) fun _ _ => hs

theorem keeps_read {I : σ → Prop} (f : σ → Except ε α) : (read f : Effect ε σ α).Keeps I :=
  fun _ hs => wp_read (fun _ _ => hs) fun _ _ => hs

theorem keeps_bind {I : σ → Prop} {x : Effect ε σ α} {f : α → Effect ε σ β} (hx : x.Keeps I) (hf : ∀ a, (f a).Keeps I) :
    (x >>= f).Keeps I := fun s hs => wp_bind (wp_mono (hx s hs) (fun a s' hs' => hf a s' hs') fun _ _ hs' => hs')

end Effect

end SuderraOs
