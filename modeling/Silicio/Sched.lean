import Silicio.Defs
import Silicio.Rotation

/-!
The scheduler: the search in `task_control` for the task to run next.

The search steps from slot to slot and wraps in two places, at `MAX_TASK` and at the first slot
that holds no task; both wraps lead to slot 1, which is then not asked whether it holds a task.
While the tasks fill slots `0 .. n - 1` the two wraps are one, and the search goes round the
ring `1 .. n - 1`.
-/

namespace Silicio.Sched

open Silicio.Defs Silicio.Rotation

def siguiente (r : ℕ → Run) (t : ℕ) : ℕ :=
  let t := t + 1
  if t = MAX_TASK then 1
  else if (r t).task = 0 then 1
  else t

def Ejecutable (r : ℕ → Run) (t : ℕ) : Prop := (r t).status = .running ∨ (r t).status = .starting

instance (r : ℕ → Run) (t : ℕ) : Decidable (Ejecutable r t) := inferInstanceAs (Decidable (_ ∨ _))

/-- The `do … while( seguir == 0 )` of `task_control`, for at most `m` turns. -/
def buscarTarea (r : ℕ → Run) : ℕ → ℕ → Option ℕ
  | 0, _ => none
  | m + 1, t =>
    let t := siguiente r t
    if Ejecutable r t then some t else buscarTarea r m t

def Decide (r : ℕ → Run) (t u : ℕ) : Prop := ∃ m, buscarTarea r m t = some u

lemma buscarTarea_mono {r : ℕ → Run} {m m' t u : ℕ} (h : buscarTarea r m t = some u)
    (hm : m ≤ m') : buscarTarea r m' t = some u := by
  induction m generalizing m' t with
  | zero => cases h
  | succ m ih =>
    obtain ⟨m', rfl⟩ : ∃ i, m' = i + 1 := ⟨m' - 1, by omega⟩
    unfold buscarTarea at h ⊢
    simp only at h ⊢
    split
    · next hr => rwa [if_pos hr] at h
    · next hr =>
      rw [if_neg hr] at h
      exact ih h (by omega)

/-- The tasks fill slots `0 .. n - 1`. -/
structure Tabla (n : ℕ) (r : ℕ → Run) : Prop where
  dos : 1 < n
  cabe : n ≤ MAX_TASK
  ocupadas : ∀ i < MAX_TASK, (r i).task ≠ 0 ↔ i < n

variable {n t u : ℕ} {r : ℕ → Run}

lemma Tabla.siguiente (h : Tabla n r) (ht : t < n) : siguiente r t = suc n t := by
  have hc := h.cabe
  unfold Sched.siguiente suc
  simp only
  split
  · next he => rw [if_neg (by omega)]
  · next he =>
    have hiff := h.ocupadas (t + 1) (by omega)
    by_cases hlt : t + 1 < n
    · rw [if_neg (hiff.mpr hlt), if_pos hlt]
    · rw [if_pos (by_contra fun h0 => hlt (hiff.mp h0)), if_neg hlt]

/-- The search ends within the distance to any task it could stop at. -/
lemma Tabla.buscar (h : Tabla n r) {m : ℕ} (ht : t < n)
    (hw : ∃ w, 1 ≤ w ∧ w < n ∧ Ejecutable r w ∧ dist n t w ≤ m) :
    ∃ u, buscarTarea r m t = some u ∧ Elige n (Ejecutable r) t u := by
  induction m generalizing t with
  | zero =>
    obtain ⟨w, hw1, -, -, hd⟩ := hw
    have := Rotation.dist_pos (n := n) (t := t) hw1
    omega
  | succ m ih =>
    obtain ⟨hs1, hsn⟩ := suc_mem h.dos t
    unfold buscarTarea
    simp only
    rw [h.siguiente ht]
    by_cases hr : Ejecutable r (suc n t)
    · refine ⟨suc n t, if_pos hr, hs1, hsn, hr, fun w hw1 hwn _ => ?_⟩
      rw [dist_suc_self ht h.dos]
      exact Rotation.dist_pos hw1
    · -- the slot passed over is no task to stop at, so all of those are a step nearer
      have hne : ∀ w, Ejecutable r w → w ≠ suc n t := fun w hw he => hr (he ▸ hw)
      obtain ⟨w, hw1, hwn, hwr, hd⟩ := hw
      have hstep := dist_suc ht hw1 hwn (hne w hwr)
      obtain ⟨u, hu, he⟩ := ih hsn ⟨w, hw1, hwn, hwr, by omega⟩
      refine ⟨u, by rw [if_neg hr, hu], he.desde, he.hasta, he.lista, fun v hv1 hvn hvr => ?_⟩
      have h1 := dist_suc ht he.desde he.hasta (hne u he.lista)
      have h2 := dist_suc ht hv1 hvn (hne v hvr)
      have h3 := he.primero v hv1 hvn hvr
      omega

/-- **One decision**: from any slot of a task the search ends within `n - 1` turns, and wherever
it ends is the first task to run after that slot. -/
lemma Tabla.decision (h : Tabla n r) (ht : t < n) (hr : ∃ w, 1 ≤ w ∧ w < n ∧ Ejecutable r w) :
    (∃ u, buscarTarea r (n - 1) t = some u) ∧ ∀ u, Decide r t u → Elige n (Ejecutable r) t u := by
  obtain ⟨w, hw1, hwn, hwr⟩ := hr
  obtain ⟨u, hu, he⟩ := h.buscar (m := n - 1) ht ⟨w, hw1, hwn, hwr, dist_le ht hwn⟩
  refine ⟨⟨u, hu⟩, fun v ⟨m, hv⟩ => ?_⟩
  have h1 := buscarTarea_mono hv (le_max_left m (n - 1))
  have h2 := buscarTarea_mono hu (le_max_right m (n - 1))
  rw [h1] at h2
  rwa [Option.some.inj h2]

/-- **Round robin.** Every decision of a run ends, and picks the first task to run after the
last one picked, that one itself coming last; so no task is picked twice while another that
could run all along is not. -/
theorem task_control_turnos {r : ℕ → ℕ → Run} (hn : 1 < n) (hcabe : n ≤ MAX_TASK)
    (htabla : ∀ i, ∀ s < MAX_TASK, (r i s).task ≠ 0 ↔ s < n)
    (halguna : ∀ i, ∃ w, 1 ≤ w ∧ w < n ∧ Ejecutable (r i) w) :
    (∀ i, ∀ t < n, ∃ u, Decide (r i) t u) ∧
    (∀ i, ∀ t < n, ∀ u, Decide (r i) t u → Elige n (Ejecutable (r i)) t u) ∧
    ∀ sel : ℕ → ℕ, sel 0 < n → (∀ i, Decide (r i) (sel i) (sel (i + 1))) →
      ∀ k, 1 ≤ k → k < n → (∀ i, Ejecutable (r i) k) →
        ∀ a b, a < b → sel (a + 1) = sel (b + 1) → sel (a + 1) ≠ k →
          ∃ c, a < c ∧ c < b ∧ sel (c + 1) = k := by
  have htab : ∀ i, Tabla n (r i) := fun i => ⟨hn, hcabe, htabla i⟩
  refine ⟨fun i t ht => ?_, fun i t ht => ((htab i).decision ht (halguna i)).2, ?_⟩
  · obtain ⟨u, hu⟩ := ((htab i).decision ht (halguna i)).1
    exact ⟨u, n - 1, hu⟩
  · intro sel h0 hsel k hk hkn hlisto a b hab hdos hne
    have hlt : ∀ i, sel i < n := by
      intro i
      induction i with
      | zero => exact h0
      | succ i ih => exact (((htab i).decision ih (halguna i)).2 _ (hsel i)).hasta
    exact entre_dos h0 (fun i => ((htab i).decision (hlt i) (halguna i)).2 _ (hsel i)) hk hkn
      hlisto hab hdos hne

def dosTareas (i : ℕ) : Run := ⟨fun _ => 0, if i < 3 then 8 * (5 + 2 * i) else 0, some i, .running⟩

/-- From slot 2 the search comes back to slot 1. -/
theorem task_control_turnos_dos : Elige 3 (Ejecutable dosTareas) 2 1 :=
  (task_control_turnos (n := 3) (r := fun _ => dosTareas) (by decide) (by decide)
    (fun _ => by decide) (fun _ => ⟨1, by decide⟩)).2.1 0 2 (by decide) 1 ⟨1, by decide⟩

end Silicio.Sched
