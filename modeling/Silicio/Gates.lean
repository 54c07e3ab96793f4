import Silicio.Registry

/-!
From a task's slot to its TSS.

The scheduler jumps to the gate a slot of `r_tareas` names; the gate names a descriptor, the
descriptor a TSS. The three tables are searched one by one at every load. They stay linked
because they fill in step: the `t`-th load takes slot `t`, TSS `t` and the pair of entries
`4 + 2t`, `5 + 2t`, and only the first of the pair is ever looked at.
-/

namespace Silicio.Gates

open Silicio.Bitmap Silicio.Defs Silicio.Runs Silicio.Tasks Silicio.Registry

def base (d : Gdtp) : ℕ := d.baseL + 2 ^ 16 * d.baseM + 2 ^ 24 * d.baseH

def puerta (k : Kernel) (t : ℕ) : ℕ := (k.rTareas t).task / 8

/-- What the scheduler relies on when it jumps to task `t`. -/
structure Enlazada (l : Link) (k : Kernel) (t : ℕ) : Prop where
  impar : puerta k t % 2 = 1
  lugar : 5 ≤ puerta k t ∧ puerta k t ≤ 199
  selector : (k.rTareas t).task = 8 * puerta k t
  compuerta : (k.gdt (puerta k t)).acceso = 0x85 ∧ (k.gdt (puerta k t)).baseL = 8 * (puerta k t - 1)
  descriptor : (k.gdt (puerta k t - 1)).acceso = 0x89 ∧ (k.rTareas t).taskTss ≠ none ∧
    base (k.gdt (puerta k t - 1)) = l.dirTss (k.rTareas t).taskTss % 2 ^ 32

structure Consistente (l : Link) (k₀ k : Kernel) : Prop where
  prefijo : ∃ n ≤ MAX_TASK, ∀ t < MAX_TASK, (k.rTareas t).task ≠ 0 ↔ t < n
  enlazada : ∀ t, Tarea k t → Enlazada l k t
  distintas : ∀ t u, Tarea k t → Tarea k u → t ≠ u →
    (k.rTareas t).taskTss ≠ (k.rTareas u).taskTss ∧ puerta k t ≠ puerta k u ∧
      k.gdt (puerta k t - 1) ≠ k.gdt (puerta k u - 1)
  fijas : ∀ i < 4, k.gdt i = k₀.gdt i

variable {l : Link} {n : ℕ} {k k' k₀ : Kernel}

lemma base_descTss (m : ℕ) : base (descTss m) = m % 2 ^ 32 := by
  simp only [base, descTss]
  omega

/-! ### The GDT after `n` loads -/

/-- The pairs of the first `n` loads, and the entries below them. -/
structure Puertas (l : Link) (fijas : ℕ → Gdtp) (n : ℕ) (d : ℕ → Gdtp) : Prop where
  desc : ∀ t < n, t < PARES → d (4 + 2 * t) = descTss (l.dirTss (some t))
  puerta : ∀ t < n, t < PARES →
    (d (5 + 2 * t)).acceso = 0x85 ∧ (d (5 + 2 * t)).baseL = 8 * (4 + 2 * t)
  fijas : ∀ i < 4, d i = fijas i

/-- **One more load** fills the next pair, or none when the GDT is full. -/
lemma Puertas.alta {d₀ : ℕ → Gdtp} (hp : Puertas l d₀ n k.gdt) (h : Registro n k) :
    Puertas l d₀ (n + 1) (setDescTss (l.dirTss (tssLibre k.tss)) k.gdt).2 := by
  have hdesc := h.descLibre
  have htss := h.tssLibre
  split at hdesc
  · next hn =>
    have hlt : n < MAX_TASK - 1 := by simp only [PARES, MAX_GDT, MAX_TASK] at hn ⊢; omega
    have h200 : 4 + 2 * n ≠ MAX_GDT := by simp only [PARES, MAX_GDT] at hn ⊢; omega
    rw [if_pos hlt] at htss
    have hgdt : (setDescTss (l.dirTss (tssLibre k.tss)) k.gdt).2 =
        Function.update (Function.update k.gdt (4 + 2 * n) (descTss (l.dirTss (some n))))
          (4 + 2 * n + 1) (descPuerta ((4 + 2 * n) * 8) (k.gdt (4 + 2 * n + 1))) := by
      rw [setDescTss_libre (by rwa [hdesc]), hdesc, htss]
    rw [hgdt]
    refine ⟨fun t ht hpar => ?_, fun t ht hpar => ?_, fun i hi => ?_⟩
    · rw [Function.update_of_ne (by omega)]
      rcases Nat.lt_succ_iff_lt_or_eq.mp ht with hlt' | rfl
      · rw [Function.update_of_ne (by omega)]
        exact hp.desc t hlt' hpar
      · rw [Function.update_self]
    · rcases Nat.lt_succ_iff_lt_or_eq.mp ht with hlt' | rfl
      · rw [Function.update_of_ne (by omega), Function.update_of_ne (by omega)]
        exact hp.puerta t hlt' hpar
      · rw [show 5 + 2 * t = 4 + 2 * t + 1 by omega, Function.update_self]
        refine ⟨rfl, ?_⟩
        simp only [descPuerta, PARES, MAX_GDT] at hpar ⊢
        omega
    · rw [Function.update_of_ne (by omega), Function.update_of_ne (by omega)]
      exact hp.fijas i hi
  · next hn =>
    rw [setDescTss_lleno hdesc]
    exact ⟨fun t ht hpar => hp.desc t (by omega) hpar, fun t ht hpar => hp.puerta t (by omega) hpar,
      hp.fijas⟩

lemma execs_gdt (l : Link) (start pila : ℕ) (name : ℕ → Byte) (k : Kernel) :
    (execs l start pila name k).2.gdt = (setDescTss (l.dirTss (tssLibre k.tss)) k.gdt).2 := by
  unfold execs
  simp only [setTss_fst]

def Cargadas (l : Link) (d₀ : ℕ → Gdtp) (k : Kernel) : Prop :=
  ∃ n, Registro n k ∧ Puertas l d₀ n k.gdt

lemma cargar_cargadas {d₀ : ℕ → Gdtp} {cs : ℕ} (ds start fin : ℕ) (name : ℕ → Byte)
    (hcs : cs ≠ 0) (h : Cargadas l d₀ k) : Cargadas l d₀ (cargar cs ds l start fin name k).2 := by
  obtain ⟨n, hr, hp⟩ := h
  by_cases ha : Admite start fin k
  · refine ⟨n + 1, cargar_registro ds l name hcs ha hr, ?_⟩
    rw [cargar_gdt _ _ _ _ ha]
    exact hp.alta hr
  · rw [cargar_rechazo _ _ _ _ ha]
    exact ⟨n, hr, hp⟩

/-- **Each load keeps the tables linked.** -/
lemma Prepara.cargadas {d₀ : ℕ → Gdtp} (hs : Prepara l k k') (h : Cargadas l d₀ k) :
    Cargadas l d₀ k' := by
  cases hs with
  | iniPag =>
    obtain ⟨n, hr, hp⟩ := h
    exact ⟨n, hr.congr (fun _ => rfl) rfl (fun _ => rfl) fun _ => rfl, hp⟩
  | execs start pila name =>
    obtain ⟨n, hr, hp⟩ := h
    refine ⟨n + 1, execs_registro l start pila name hr, ?_⟩
    rw [execs_gdt]
    exact hp.alta hr
  | exec start fin name => exact cargar_cargadas USER_DS start fin name (by decide : USER_CS ≠ 0) h
  | execd start fin name =>
    exact cargar_cargadas KERNEL_DS start fin name (by decide : KERNEL_CS ≠ 0) h

lemma Inicio.cargadas (h : Inicio l k) : Cargadas l k.gdt k :=
  ⟨0, h.registro, fun t ht => absurd ht (Nat.not_lt_zero t),
    fun t ht => absurd ht (Nat.not_lt_zero t),
    fun _ _ => rfl⟩

/-! ### The chain -/

lemma Cargadas.enlazada {d₀ : ℕ → Gdtp} (h : Cargadas l d₀ k) {t : ℕ} (ht : Tarea k t) :
    puerta k t = 5 + 2 * t ∧ (k.rTareas t).taskTss = some t ∧ t < PARES ∧
      k.gdt (4 + 2 * t) = descTss (l.dirTss (some t)) ∧ Enlazada l k t := by
  obtain ⟨n, hr, hp⟩ := h
  obtain ⟨hn, hpar⟩ := hr.tarea_iff.mp ht
  obtain ⟨htask, htss⟩ := hr.lugar t hn hpar
  have hg : puerta k t = 5 + 2 * t := by rw [puerta, htask, Nat.mul_div_cancel_left _ (by decide)]
  have hg1 : puerta k t - 1 = 4 + 2 * t := by omega
  have hdesc := hp.desc t hn hpar
  have hgate := hp.puerta t hn hpar
  refine ⟨hg, htss, hpar, hdesc, ?_, ?_, ?_, ?_, ?_⟩
  · omega
  · simp only [PARES, MAX_GDT] at hpar
    omega
  · rw [htask, hg]
  · rwa [hg1, hg]
  · rw [hg1, hdesc, htss, base_descTss]
    exact ⟨rfl, Option.some_ne_none t, rfl⟩

lemma dirTss_inj {t u : ℕ} (ht : t < PARES) (hu : u < PARES)
    (h : l.dirTss (some t) % 2 ^ 32 = l.dirTss (some u) % 2 ^ 32) : t = u := by
  simp only [Link.dirTss, TSS_LEN, PARES, MAX_GDT] at h ht hu
  omega

/-- **The task registry is consistent** in every state of every run of loads, whatever their
order, their number and their arguments. -/
theorem registro_consistente (h₀ : Inicio l k₀)
    (h : Reach (fun k => k = k₀) (fun k (_ : Unit) k' => Prepara l k k') k) :
    Consistente l k₀ k := by
  have hc : Cargadas l k₀.gdt k := by
    refine h.invariant (P := Cargadas l k₀.gdt) ?_ fun k _ k' hk hs => Prepara.cargadas hs hk
    rintro k rfl
    exact Inicio.cargadas h₀
  obtain ⟨n, hr, hp⟩ := hc
  refine ⟨⟨min n PARES, ?_, fun t ht => ?_⟩, fun t ht => (Cargadas.enlazada ⟨n, hr, hp⟩ ht).2.2.2.2,
    fun t u ht hu hne => ?_, hp.fijas⟩
  · simp only [PARES, MAX_GDT, MAX_TASK]
    omega
  · have := hr.tarea_iff (t := t)
    rw [Tarea, and_iff_right ht] at this
    rw [this, lt_min_iff]
  · obtain ⟨hgt, htt, hpt, hdt, -⟩ := Cargadas.enlazada ⟨n, hr, hp⟩ ht
    obtain ⟨hgu, htu, hpu, hdu, -⟩ := Cargadas.enlazada ⟨n, hr, hp⟩ hu
    rw [hgt, hgu, htt, htu, show 5 + 2 * t - 1 = 4 + 2 * t by omega,
      show 5 + 2 * u - 1 = 4 + 2 * u by omega, hdt, hdu]
    refine ⟨fun he => hne (Option.some.inj he), by omega,
      fun he => hne (dirTss_inj (l := l) hpt hpu ?_)⟩
    rw [← base_descTss, he, base_descTss]

lemma tresTareas_reach (l : Link) : let k₀ := iniTss (iniLdt l (Kernel.cargado fun _ => 0))
    Reach (fun k => k = k₀) (fun k (_ : Unit) k' => Prepara l k k') (tresTareas l) := by
  intro k₀
  have h₀ : Reach (fun k => k = k₀) (fun k (_ : Unit) k' => Prepara l k k') k₀ := .init rfl
  have h₁ := h₀.step (a := ()) (.execs 0 0 fun _ => 0)
  have h₂ := h₁.step (a := ()) (.execs 0 0 fun _ => 0)
  exact h₂.step (a := ()) (.execs 0 0 fun _ => 0)

theorem registro_consistente_tres : Consistente enlace
    (iniTss (iniLdt enlace (Kernel.cargado fun _ => 0))) (tresTareas enlace) :=
  registro_consistente ⟨Kernel.cargado fun _ => 0, rfl, rfl⟩ (tresTareas_reach enlace)

end Silicio.Gates
