import Mathlib.Tactic

/-!
Runs of a transition relation: the states a run can reach, and what holds of all of them.
-/

namespace Silicio.Runs

variable {σ α : Type*}

/-- The states reached from `init` by labelled steps. -/
inductive Reach (init : σ → Prop) (step : σ → α → σ → Prop) : σ → Prop
  | init {s : σ} (h : init s) : Reach init step s
  | step {s s' : σ} {a : α} (h : Reach init step s) (hs : step s a s') : Reach init step s'

variable {init : σ → Prop} {step : σ → α → σ → Prop} {s s' : σ}

/-- **The rule of invariants**: what holds at the start and is carried over every step holds
of every state reached. -/
theorem Reach.invariant {P : σ → Prop} (hinit : ∀ s, init s → P s)
    (hstep : ∀ s a s', P s → step s a s' → P s') (h : Reach init step s) : P s := by
  induction h with
  | init h => exact hinit _ h
  | step _ hs ih => exact hstep _ _ _ ih hs

lemma Reach.mono {step' : σ → α → σ → Prop} (hstep : ∀ s a s', step s a s' → step' s a s')
    (h : Reach init step s) : Reach init step' s := by
  induction h with
  | init h => exact .init h
  | step _ hs ih => exact ih.step (hstep _ _ _ hs)

/-- A run from `s` to `s'` with the labels of its steps. -/
inductive Steps (step : σ → α → σ → Prop) : σ → List α → σ → Prop
  | nil (s : σ) : Steps step s [] s
  | cons {s t u : σ} {a : α} {l : List α} (hs : step s a t) (h : Steps step t l u) :
      Steps step s (a :: l) u

/-- **The rule of runs**: a preorder that every step respects relates the ends of a run. -/
theorem Steps.rel {R : σ → σ → Prop} {l : List α} (hrefl : ∀ s, R s s)
    (htrans : ∀ s t u, R s t → R t u → R s u) (hstep : ∀ s a t, step s a t → R s t)
    (h : Steps step s l s') : R s s' := by
  induction h with
  | nil => exact hrefl _
  | cons hs _ ih => exact htrans _ _ _ (hstep _ _ _ hs) ih

lemma Steps.invariant {P : σ → Prop} {l : List α} (hstep : ∀ s a s', P s → step s a s' → P s')
    (h : Steps step s l s') (hs : P s) : P s' := by
  induction h with
  | nil => exact hs
  | cons ha _ ih => exact ih (hstep _ _ _ hs ha)

lemma Steps.mono {step' : σ → α → σ → Prop} {l : List α}
    (hstep : ∀ s a s', step s a s' → step' s a s') (h : Steps step s l s') :
    Steps step' s l s' := by
  induction h with
  | nil => exact .nil _
  | cons hs _ ih => exact .cons (hstep _ _ _ hs) ih

lemma Reach.steps {l : List α} (h : Reach init step s) (hl : Steps step s l s') :
    Reach init step s' := by
  induction hl with
  | nil => exact h
  | cons hs _ ih => exact ih (h.step hs)

lemma Steps.primero {a : α} {l : List α} (h : Steps step s (a :: l) s') :
    ∃ t, step s a t ∧ Steps step t l s' := by
  cases h with
  | cons hs h => exact ⟨_, hs, h⟩

/-- **The rule of simulations**: when a relation carries each step of one system to a step of
another with the same label, it carries runs to runs. -/
theorem Steps.sim {τ : Type*} {step' : τ → α → τ → Prop} {R : σ → τ → Prop} {t : τ} {l : List α}
    (hsim : ∀ s a s' t, R s t → step s a s' → ∃ t', step' t a t' ∧ R s' t')
    (hR : R s t) (h : Steps step s l s') : ∃ t', Steps step' t l t' ∧ R s' t' := by
  induction h generalizing t with
  | nil => exact ⟨t, .nil t, hR⟩
  | cons hs _ ih =>
    obtain ⟨u, hu, hRu⟩ := hsim _ _ _ _ hR hs
    obtain ⟨t', ht', hRt'⟩ := ih hRu
    exact ⟨t', .cons hu ht', hRt'⟩

end Silicio.Runs
