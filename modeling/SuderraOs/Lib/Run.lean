import Mathlib.Data.List.Basic

/-!
# Runs of a deterministic machine

A machine takes an input in a state and gives an output and the next state. `trace` lists the steps of a run in order, each
with the state it started from and the one it left. The rules package the inductions over a run: an invariant (`trace_inv`),
an invariant that looks back at the steps so far (`trace_history`) or at one of them (`trace_between`), a preorder the states
climb (`states_pairwise`) and observations that are bounded by the state (`observed_pairwise`).
-/

namespace SuderraOs

/-- One step of a run: where it started, what it was given, what it gave and where it ended. -/
structure Step (σ ι ω : Type) where
  pre : σ
  input : ι
  output : ω
  post : σ

namespace Run

variable {σ ι ω β : Type}

/-- The steps of the run over a list of inputs. -/
def trace (f : ι → σ → ω × σ) : σ → List ι → List (Step σ ι ω)
  | _, [] => []
  | s, i :: is => ⟨s, i, (f i s).1, (f i s).2⟩ :: trace f (f i s).2 is

/-- The state a run ends in. -/
def final (f : ι → σ → ω × σ) : σ → List ι → σ
  | s, [] => s
  | s, i :: is => final f (f i s).2 is

/-- The states of a run, the first one included. -/
def states (f : ι → σ → ω × σ) (s : σ) (is : List ι) : List σ := s :: (trace f s is).map (·.post)

@[simp] theorem trace_nil (f : ι → σ → ω × σ) (s : σ) : trace f s [] = [] := rfl

@[simp] theorem trace_cons (f : ι → σ → ω × σ) (s : σ) (i : ι) (is : List ι) :
    trace f s (i :: is) = ⟨s, i, (f i s).1, (f i s).2⟩ :: trace f (f i s).2 is := rfl

theorem trace_append (f : ι → σ → ω × σ) (s : σ) (is js : List ι) :
    trace f s (is ++ js) = trace f s is ++ trace f (final f s is) js := by
  induction is generalizing s with
  | nil => rfl
  | cons i is ih => simp only [List.cons_append, trace_cons, final, ih]

theorem final_append (f : ι → σ → ω × σ) (s : σ) (is js : List ι) : final f s (is ++ js) = final f (final f s is) js := by
  induction is generalizing s with
  | nil => rfl
  | cons i is ih => exact ih _

theorem final_mem_states (f : ι → σ → ω × σ) (s : σ) (is : List ι) : final f s is ∈ states f s is := by
  induction is generalizing s with
  | nil => exact List.mem_cons_self
  | cons i is ih => exact List.mem_cons_of_mem _ (ih _)

/-- Every step of a run is a step of the machine. -/
theorem step_of_mem_trace {f : ι → σ → ω × σ} {s : σ} {is : List ι} {st : Step σ ι ω} (h : st ∈ trace f s is) :
    f st.input st.pre = (st.output, st.post) ∧ st.input ∈ is := by
  induction is generalizing s with
  | nil => simp at h
  | cons i is ih =>
    rcases List.mem_cons.1 h with rfl | h
    · exact ⟨rfl, List.mem_cons_self⟩
    · exact ⟨(ih h).1, List.mem_cons_of_mem _ (ih h).2⟩

/-- The rule of invariants: what holds at the start and is kept by the steps a run takes holds before and after each. -/
theorem trace_inv {f : ι → σ → ω × σ} {I : σ → Prop} {s : σ} {is : List ι} (h0 : I s)
    (hstep : ∀ st ∈ trace f s is, I st.pre → I st.post) : ∀ st ∈ trace f s is, I st.pre ∧ I st.post := by
  induction is generalizing s with
  | nil => intro st hst; simp at hst
  | cons i is ih =>
    have h1 : I (f i s).2 := hstep _ List.mem_cons_self h0
    intro st hst
    rcases List.mem_cons.1 hst with rfl | hst
    · exact ⟨h0, h1⟩
    · exact ih h1 (fun st hst => hstep st (List.mem_cons_of_mem _ hst)) st hst

/-- An invariant holds in the state a run ends in. -/
theorem final_inv {f : ι → σ → ω × σ} {I : σ → Prop} {s : σ} {is : List ι} (h0 : I s)
    (hstep : ∀ st ∈ trace f s is, I st.pre → I st.post) : I (final f s is) := by
  induction is generalizing s with
  | nil => exact h0
  | cons i is ih =>
    exact ih (hstep _ List.mem_cons_self h0) (fun st hst => hstep st (List.mem_cons_of_mem _ hst))

/-- A step of a run starts in a state of the run. -/
theorem pre_mem_states {f : ι → σ → ω × σ} {s : σ} {is : List ι} {st : Step σ ι ω} (h : st ∈ trace f s is) :
    st.pre ∈ states f s is := by
  induction is generalizing s with
  | nil => simp at h
  | cons i is ih =>
    rcases List.mem_cons.1 h with rfl | h
    · exact List.mem_cons_self
    · exact List.mem_cons_of_mem _ (ih h)

/-- An invariant holds in every state of a run. -/
theorem states_inv {f : ι → σ → ω × σ} {I : σ → Prop} {s : σ} {is : List ι} (h0 : I s)
    (hstep : ∀ st ∈ trace f s is, I st.pre → I st.post) : ∀ t ∈ states f s is, I t := by
  intro t ht
  rcases List.mem_cons.1 ht with rfl | ht
  · exact h0
  · obtain ⟨st, hst, rfl⟩ := List.mem_map.1 ht
    exact (trace_inv h0 hstep st hst).2

/-- The rule of histories: `J past s` relates a state to the steps that led to it, oldest first. -/
theorem trace_history {f : ι → σ → ω × σ} {J : List (Step σ ι ω) → σ → Prop} {s : σ} {is : List ι}
    (past : List (Step σ ι ω)) (h0 : J past s)
    (hstep : ∀ st ∈ trace f s is, ∀ past, J past st.pre → J (past ++ [st]) st.post) :
    ∀ before st after, trace f s is = before ++ st :: after → J (past ++ before) st.pre := by
  induction is generalizing s past with
  | nil => intro before st after h; simp at h
  | cons i is ih =>
    intro before st after h
    cases before with
    | nil =>
      simp only [trace_cons, List.nil_append, List.cons.injEq] at h
      rw [← h.1, List.append_nil]
      exact h0
    | cons b before =>
      simp only [trace_cons, List.cons_append, List.cons.injEq] at h
      have hnext := ih (past ++ [b]) (h.1 ▸ hstep _ List.mem_cons_self past h0)
        (fun st hst => hstep st (List.mem_cons_of_mem _ hst)) before st after h.2
      simpa only [List.append_assoc, List.singleton_append] using hnext

/-- A run cut in two is two runs, the second from where the first ends. -/
theorem trace_eq_append {f : ι → σ → ω × σ} {s : σ} {is : List ι} {l₁ l₂ : List (Step σ ι ω)}
    (h : trace f s is = l₁ ++ l₂) : ∃ is₁ is₂, l₁ = trace f s is₁ ∧ l₂ = trace f (final f s is₁) is₂ := by
  induction l₁ generalizing s is with
  | nil => exact ⟨[], is, rfl, h.symm⟩
  | cons st l₁ ih =>
    cases is with
    | nil => simp at h
    | cons i is =>
      simp only [trace_cons, List.cons_append, List.cons.injEq] at h
      obtain ⟨is₁, is₂, h₁, h₂⟩ := ih h.2
      exact ⟨i :: is₁, is₂, by rw [trace_cons, h.1, h₁], h₂⟩

/-- The rule of segments: what one step establishes and the steps after it keep holds where a later step starts. -/
theorem trace_between {f : ι → σ → ω × σ} {I : σ → Prop} {s : σ} {is : List ι} {past mid rest : List (Step σ ι ω)}
    {first last : Step σ ι ω} (h : trace f s is = past ++ first :: (mid ++ last :: rest)) (h0 : I first.post)
    (hstep : ∀ st ∈ mid, I st.pre → I st.post) : I last.pre := by
  obtain ⟨is₁, is₂, -, hfirst⟩ := trace_eq_append h
  cases is₂ with
  | nil => simp at hfirst
  | cons i is₂ =>
    simp only [trace_cons, List.cons.injEq] at hfirst
    obtain ⟨rfl, htail⟩ := hfirst
    obtain ⟨is₃, is₄, rfl, hlast⟩ := trace_eq_append htail.symm
    cases is₄ with
    | nil => simp at hlast
    | cons j is₄ =>
      rw [(List.cons.inj hlast).1]
      exact final_inv h0 hstep

/-- The states of a run climb a preorder that its inputs climb, as long as they keep an invariant. -/
theorem states_pairwise_of_mem {f : ι → σ → ω × σ} {I : σ → Prop} {R : σ → σ → Prop} (hR : ∀ {a b c}, R a b → R b c → R a c)
    {is : List ι} (hI : ∀ i ∈ is, ∀ s, I s → I (f i s).2) (hstep : ∀ i ∈ is, ∀ s, I s → R s (f i s).2) {s : σ} (h0 : I s) :
    (states f s is).Pairwise R := by
  induction is generalizing s with
  | nil => simp [states]
  | cons i is ih =>
    have htail := ih (fun j hj => hI j (List.mem_cons_of_mem _ hj)) (fun j hj => hstep j (List.mem_cons_of_mem _ hj))
      (hI i List.mem_cons_self s h0)
    have hfirst := hstep i List.mem_cons_self s h0
    refine List.pairwise_cons.2 ⟨?_, htail⟩
    -- the first state is below the second, and the second below all the others
    intro t ht
    simp only [trace_cons, List.map_cons] at ht
    rcases List.mem_cons.1 ht with rfl | ht
    · exact hfirst
    · exact hR hfirst ((List.pairwise_cons.1 htail).1 t ht)

/-- The states of a run climb a preorder that every step climbs, as long as an invariant is kept. -/
theorem states_pairwise {f : ι → σ → ω × σ} {I : σ → Prop} {R : σ → σ → Prop} (hR : ∀ {a b c}, R a b → R b c → R a c)
    (hI : ∀ i s, I s → I (f i s).2) (hstep : ∀ i s, I s → R s (f i s).2) {s : σ} (h0 : I s) (is : List ι) :
    (states f s is).Pairwise R :=
  states_pairwise_of_mem (R := R) hR (fun i _ => hI i) (fun i _ => hstep i) h0

/-- Observations along a run climb a relation: each one is a lower bound `B` of the state it leaves, later states keep the
bound, and an observation is related to every lower bound of the state it starts from. -/
theorem observed_pairwise {f : ι → σ → ω × σ} {I : σ → Prop} {obs : Step σ ι ω → Option β} {B : β → σ → Prop}
    {R : β → β → Prop} (hI : ∀ i s, I s → I (f i s).2)
    (hpost : ∀ i s b, I s → obs ⟨s, i, (f i s).1, (f i s).2⟩ = some b → B b (f i s).2)
    (hkeep : ∀ i s b, I s → B b s → B b (f i s).2)
    (hpre : ∀ i s b b', I s → B b s → obs ⟨s, i, (f i s).1, (f i s).2⟩ = some b' → R b b')
    {s : σ} (h0 : I s) (is : List ι) : ((trace f s is).filterMap obs).Pairwise R := by
  -- a bound of the first state stays below every later observation
  have hbound : ∀ (is : List ι) (s : σ) (b : β), I s → B b s → ∀ b' ∈ (trace f s is).filterMap obs, R b b' := by
    intro is
    induction is with
    | nil => intro s b _ _ b' hb'; simp at hb'
    | cons i is ih =>
      intro s b hs hb b' hb'
      rw [trace_cons, List.filterMap_cons] at hb'
      split at hb'
      · exact ih _ b (hI i s hs) (hkeep i s b hs hb) b' hb'
      · rename_i c hc
        rcases List.mem_cons.1 hb' with rfl | hb'
        · exact hpre i s b _ hs hb hc
        · exact ih _ b (hI i s hs) (hkeep i s b hs hb) b' hb'
  induction is generalizing s with
  | nil => simp
  | cons i is ih =>
    rw [trace_cons, List.filterMap_cons]
    split
    · exact ih (hI i s h0)
    · rename_i c hc
      exact List.pairwise_cons.2 ⟨hbound is _ c (hI i s h0) (hpost i s c h0 hc), ih (hI i s h0)⟩

end Run

end SuderraOs
