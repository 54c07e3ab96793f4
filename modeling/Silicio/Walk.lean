import Silicio.Layout

/-!
What a task can reach, and what the kernel thinks it can reach.

The processor looks at both entries on the way to a page, `check_addr` only at the second. A
grant outside the first region opens an entry of a table that all tasks walk through, and the
directory entry of one task only: from then on `check_addr` takes the page for every task's,
and every task that opens the region for a page of its own reaches the page as well.
-/

namespace Silicio.Walk

open Silicio.Bitmap Silicio.Bytes Silicio.Defs Silicio.Mm Silicio.Mmu Silicio.Tasks Silicio.Registry
open Silicio.Runs Silicio.Syscall Silicio.Boot Silicio.Owners Silicio.Tables Silicio.Layout

variable {b : Maquina} {g : Historia} {k : Kernel} {s : Kernel × Historia} {t u v : ℕ}

/-! ### The walk -/

/-- `check_addr` is the walk without the look at the directory entry's bits. -/
lemma checkAddr_eq (v t : ℕ) (k : Kernel) : checkAddr v t k =
    if pte k.mem (k.tssOf t).cr3 v % 8 = 7 then phys k.mem (k.tssOf t).cr3 v else 0 := by
  rw [← and_seven]
  unfold checkAddr
  simp only
  split
  · next h => exact (if_neg h).symm
  · next h => exact (if_pos (not_not.mp h)).symm

/-- The page that entry `j` of region `r` of task `u` names. -/
def paginaDe (g : Historia) (u r j : ℕ) : ℕ :=
  if 3 ≤ u ∧ r = 0 then
    ((g.cargas[u - 3]?).map fun e => destino e.ini e.pag e.espacio.pila j).getD 0
  else 1024 * r + j

/-- Entry `j` of region `r` of task `u` is open. -/
def Muestra (g : Historia) (u r j : ℕ) : Prop :=
  if 3 ≤ u ∧ r = 0 then ∃ e, g.cargas[u - 3]? = some e ∧ Usa g (u - 3) e j else Comparte g r j

lemma entradas (h : Tables.Inv b (k, g)) (hv : b.Ventana) (hu : Tarea k u) (h32 : v < 2 ^ 32) :
    Entrada (pde k.mem (k.tssOf u).cr3 v) (tablaDe b g u (v / 2 ^ 22)) (Abre g u (v / 2 ^ 22)) ∧
      Entrada (pte k.mem (k.tssOf u).cr3 v) (paginaDe g u (v / 2 ^ 22) (v / 4096 % 1024))
        (Muestra g u (v / 2 ^ 22) (v / 4096 % 1024)) := by
  have hreg : Registro (3 + g.cargas.length) k := h.registro
  have hlt : u < 3 + g.cargas.length := (hreg.tarea_iff.mp hu).1
  have hcr : (k.tssOf u).cr3 = 4096 * raizDe b g u := by
    rw [hreg.tssOf hu]
    exact h.cr3 u hu
  have hb := fun e he => (⟨(h.bajo e he).1, (h.bajo e he).2.1⟩ :
    e.espacio.dir < 2 ^ 20 ∧ e.espacio.tabla < 2 ^ 20)
  have hr : v / 2 ^ 22 < 1024 := by omega
  obtain ⟨hd, -, -, -, -⟩ := tablas_de hlt (raiz_lt hv) hb (h.distintas hv) hr
  have hpde : pde k.mem (k.tssOf u).cr3 v = word k.mem (raizDe b g u) (v / 2 ^ 22) :=
    pde_eq hd (by omega)
  have h1 := h.mapa.dirs u hlt (v / 2 ^ 22) hr
  have hpte : pte k.mem (k.tssOf u).cr3 v =
      word k.mem (tablaDe b g u (v / 2 ^ 22)) (v / 4096 % 1024) :=
    pte_eq (by rw [hpde]; exact h1.pagina)
  rw [hpde, hpte]
  refine ⟨h1, ?_⟩
  have hj : v / 4096 % 1024 < 1024 := by omega
  unfold paginaDe Muestra
  by_cases hc : 3 ≤ u ∧ v / 2 ^ 22 = 0
  · obtain ⟨c, e, rfl, he⟩ := (lt_tres_or hlt).resolve_left (by omega)
    rw [if_pos hc, hc.2, tablaDe_carga he]
    simp only [Nat.add_sub_cancel_left, he, Option.map_some, Option.getD_some]
    refine (h.mapa.propias c e he _ hj).congr ?_
    rw [if_pos ⟨hc.1, trivial⟩]
    exact ⟨fun hx => ⟨e, rfl, hx⟩, fun ⟨e', he', hx⟩ => Option.some.inj he' ▸ hx⟩
  · rw [tablaDe, if_neg hc, if_neg hc, if_neg hc]
    exact h.mapa.comunes _ hr _ hj

lemma userWrite_abre (h : Tables.Inv b (k, g)) (hv : b.Ventana) (hu : Tarea k u)
    (h32 : v < 2 ^ 32) : UserWrite k.mem (k.tssOf u).cr3 v ↔
      Abre g u (v / 2 ^ 22) ∧ Muestra g u (v / 2 ^ 22) (v / 4096 % 1024) := by
  obtain ⟨h1, h2⟩ := entradas h hv hu h32
  rw [userWrite_iff, h1.mod_eight, h2.mod_eight]

lemma phys_pagina (h : Tables.Inv b (k, g)) (hv : b.Ventana) (hu : Tarea k u)
    (h32 : v < 2 ^ 32) : phys k.mem (k.tssOf u).cr3 v =
      4096 * paginaDe g u (v / 2 ^ 22) (v / 4096 % 1024) + v % 4096 := by
  rw [phys_eq, (entradas h hv hu h32).2.pagina, Nat.mul_comm]

lemma pagina_modulo_ne_zero {i : ℕ} {mod : Modulo} (hm : b.modulos[i]? = some mod) {p : ℕ}
    (hp : mod.Pagina p) : p ≠ 0 := by
  have := (b.lugar mod (List.mem_of_getElem? hm) p hp).1
  exact Nat.ne_of_gt (lt_of_le_of_lt (Nat.zero_le _) this)

lemma paginaDe_ne_zero (h : Tables.Inv b (k, g)) {r j : ℕ} (hM : Muestra g u r j) :
    paginaDe g u r j ≠ 0 := by
  unfold paginaDe
  unfold Muestra at hM
  by_cases hc : 3 ≤ u ∧ r = 0
  · rw [if_pos hc] at hM ⊢
    obtain ⟨e, he, hU⟩ := hM
    have hm := List.mem_of_getElem? he
    simp only [he, Option.map_some, Option.getD_some]
    obtain ⟨mod, hmod, hini, hpag, -⟩ := h.modulo e hm
    unfold destino
    split
    · next hx =>
      refine pagina_modulo_ne_zero hmod ⟨by rw [← hini]; omega, by rw [← hini, ← hpag]; omega⟩
    · next hx =>
      split
      · exact (h.bajo e hm).2.2.2
      · next hs =>
        rcases hU with (hU | hU) | hU | ⟨t, htj, ht⟩
        · exact absurd hU hx
        · exact absurd hU hs
        · exact (h.concesiones _ _ hU).2.2
        · exact (h.concesiones _ _ (h.antes e hm _ htj)).2.2
  · rw [if_neg hc] at hM ⊢
    obtain ⟨t, ht, -⟩ := hM
    exact (h.concesiones _ _ ht).2.2

/-! ### A grant -/

def pide (t p : ℕ) (k : Kernel) : Kernel := llamar (fun _ => 0) t ⟨SYS_MEM, p, 0, 0⟩ k

lemma pide_tarea {t p u : ℕ} : Tarea (pide t p k) u ↔ Tarea k u := (llamar_marco _ _ _ _).tarea u

lemma pide_paso {p : ℕ} (ht : Tarea k t) (h0 : p ≠ 0) (hp : p < PAG_MEM)
    (hlibre : ocupada k.mm p = false) :
    Paso b (k, g) .mem (pide t p k, { g with concesiones := g.concesiones ++ [(t, p)] }) ∧
      ∀ q, ocupada (pide t p k).mm q = (ocupada k.mm q || decide (q = p)) := by
  have hc : concedida p k.mm = some p := by
    unfold concedida
    simp only [if_neg h0, if_neg fun hx : p = 0 ∧ p = 0 => h0 hx.1]
    exact if_pos ((setMem_fst _ _).mpr hlibre)
  constructor
  · have := Paso.mem (b := b) (g := g) (r := ⟨SYS_MEM, p, 0, 0⟩) (fun _ => 0) ht rfl hp
    simp only [Historia.conceder, hc] at this
    exact this
  · intro q
    rw [pide, llamar_mem_mm _ _ _ rfl]
    simp only [hc]
    exact ocupada_setMem _ _ _

/-! ### `check_addr` and the processor -/

/-- `check_addr` gives the physical address of what the task may write, and 0 for the rest. -/
def Concuerda (k : Kernel) (t v : ℕ) : Prop :=
  (checkAddr v t k ≠ 0 ↔ UserWrite k.mem (k.tssOf t).cr3 v) ∧
    (UserWrite k.mem (k.tssOf t).cr3 v → checkAddr v t k = phys k.mem (k.tssOf t).cr3 v)

/-- On one address: where the table's entry is open, the directory's must be. -/
lemma concuerda_iff (h : Tables.Inv b (k, g)) (hv : b.Ventana) (hu : Tarea k u)
    (h32 : v < 2 ^ 32) : Concuerda k u v ↔
      (Muestra g u (v / 2 ^ 22) (v / 4096 % 1024) → Abre g u (v / 2 ^ 22)) := by
  have hpte := (entradas h hv hu h32).2.mod_eight
  unfold Concuerda
  rw [userWrite_abre h hv hu h32, checkAddr_eq]
  by_cases hM : Muestra g u (v / 2 ^ 22) (v / 4096 % 1024)
  · have hne : phys k.mem (k.tssOf u).cr3 v ≠ 0 := by
      rw [phys_pagina h hv hu h32]
      have := paginaDe_ne_zero h hM
      omega
    rw [if_pos (hpte.mpr hM)]
    simp only [hne, hM, ne_eq, not_false_eq_true, true_iff, and_true, true_implies, implies_true]
  · rw [if_neg fun hc => hM (hpte.mp hc)]
    exact iff_of_true ⟨iff_of_false (fun hc => hc rfl) fun hc => hM hc.2, fun hc => absurd hc.2 hM⟩
      fun hc => absurd hc hM

/-- **`check_addr` and the processor agree**, for every task and every address, just when every
region beyond the first with a page granted in it is open in the directory of every task. -/
theorem check_addr_concuerda (hv : b.Ventana) (h : Reach (Inicial b) (Paso b) (k, g)) :
    (∀ u, Tarea k u → ∀ v < 2 ^ 32, Concuerda k u v) ↔
      ∀ t p, (t, p) ∈ g.concesiones → 1024 ≤ p → ∀ u, Tarea k u → Abre g u (p / 1024) := by
  have hinv := tablas_en_todo_estado hv h
  constructor
  · intro hall t p htp hp u hu
    obtain ⟨-, hp20, -⟩ := hinv.concesiones t p htp
    have hc := hall u hu (4096 * p) (by omega)
    rw [concuerda_iff hinv hv hu (by omega), show 4096 * p / 2 ^ 22 = p / 1024 by omega,
      show 4096 * p / 4096 % 1024 = p % 1024 by omega] at hc
    refine hc ?_
    rw [Muestra, if_neg fun hx => by omega]
    exact ⟨t, by rwa [Nat.div_add_mod], fun h0 => by omega⟩
  · intro hall u hu v h32
    rw [concuerda_iff hinv hv hu h32]
    intro hM
    by_cases hr : v / 2 ^ 22 = 0
    · rw [hr] at hM ⊢
      rcases Nat.lt_or_ge u 3 with h3 | h3
      · rw [Muestra, if_neg fun hx => by omega] at hM
        obtain ⟨t, ht, h0⟩ := hM
        exact Or.inl ⟨t, _, ht, by omega, Or.inr ⟨h0 rfl, h3⟩⟩
      · exact Or.inr ⟨h3, Or.inl rfl⟩
    · rw [Muestra, if_neg fun hx => hr hx.2] at hM
      obtain ⟨t, ht, -⟩ := hM
      have := hall t _ ht (by omega) u hu
      rwa [show (1024 * (v / 2 ^ 22) + v / 4096 % 1024) / 1024 = v / 2 ^ 22 by omega] at this

/-- A task of the kernel is granted a page, and another of them sees it. -/
theorem check_addr_concuerda_nucleo : Concuerda (pide 0 5000 tres.arranque) 1 (4096 * 5000) := by
  have hL : Lleno tres.arranque.mm (tres.raiz + 1025) := arranque_lleno tres_ventana
  have hreg : Registro 3 tres.arranque := arranque_registro tres
  rw [tres_raiz] at hL
  obtain ⟨hp, -⟩ := pide_paso (b := tres) (g := ⟨[], [], false⟩) (p := 5000)
    (hreg.tarea_iff.mpr (by decide) : Tarea tres.arranque 0) (by decide) (by decide)
    (libre_of_lleno hL (by decide) (by decide))
  have h0 : Reach (Inicial tres) (Paso tres) (tres.arranque, ⟨[], [], false⟩) := .init rfl
  refine (check_addr_concuerda tres_ventana (h0.step hp)).mpr ?_ 1
    (pide_tarea.mpr (hreg.tarea_iff.mpr (by decide))) _ (by decide)
  rintro t p htp - u hu
  have hu3 : u < 3 := (hreg.tarea_iff.mp (pide_tarea.mp hu)).1
  obtain ⟨rfl, rfl⟩ := Prod.mk.inj (List.mem_singleton.mp htp)
  exact Or.inl ⟨0, 5000, List.mem_singleton.mpr rfl, rfl, Or.inr ⟨by decide, hu3⟩⟩

lemma pide_tres : Paso tres (nucleoTres 3, historiaTres 3) .mem
      (pide 3 5000 (nucleoTres 3), { historiaTres 3 with concesiones := [(3, 5000)] }) ∧
    ∀ q, ocupada (pide 3 5000 (nucleoTres 3)).mm q =
      (ocupada (nucleoTres 3).mm q || decide (q = 5000)) :=
  pide_paso (tres_tarea (by decide)) (by decide) (by decide)
    (libre_of_lleno (nucleoTres_spec le_rfl).2.2.1 (by decide) (by decide))

/-- A page granted to task 3: to `check_addr` it is task 4's as well. -/
theorem check_addr_ajena :
    Reach (Inicial tres) (Paso tres)
      (pide 3 5000 (nucleoTres 3), { historiaTres 3 with concesiones := [(3, 5000)] }) ∧
    Tarea (pide 3 5000 (nucleoTres 3)) 4 ∧
    ¬ Concuerda (pide 3 5000 (nucleoTres 3)) 4 (4096 * 5000) := by
  have hr := (cargada_spec (nucleoTres_spec le_rfl).1).1.step pide_tres.1
  have ht : Tarea (pide 3 5000 (nucleoTres 3)) 4 := pide_tarea.mpr (tres_tarea (by decide))
  refine ⟨hr, ht, ?_⟩
  rw [concuerda_iff (tablas_en_todo_estado tres_ventana hr) tres_ventana ht (by decide)]
  intro h
  have hM : Muestra { historiaTres 3 with concesiones := [(3, 5000)] } 4 4 904 := by
    rw [Muestra, if_neg (by decide)]
    exact ⟨3, List.mem_singleton.mpr rfl, fun h0 => absurd h0 (by decide)⟩
  rcases h hM with ⟨t, p, htp, -, h4 | h4⟩ | ⟨-, h0 | ⟨e, t, p, he, htp, -⟩⟩
  · obtain ⟨rfl, -⟩ := Prod.mk.inj (List.mem_singleton.mp htp)
    cases h4
  · omega
  · cases h0
  · cases he
    cases htp

/-! ### Isolation -/

/-- Page `p` belongs to task `t`: it has been granted to it, or it is a page of its module, its
directory, its table or its stack. -/
def Suya (g : Historia) (t p : ℕ) : Prop :=
  (t, p) ∈ g.concesiones ∨ 3 ≤ t ∧ ∃ e, g.cargas[t - 3]? = some e ∧
    (e.ini ≤ p ∧ p < e.ini + e.pag ∨ p = e.espacio.dir ∨ p = e.espacio.tabla ∨ p = e.espacio.pila)

def Accesible (k : Kernel) (t p : ℕ) : Prop :=
  ∃ v < 2 ^ 32, UserWrite k.mem (k.tssOf t).cr3 v ∧ phys k.mem (k.tssOf t).cr3 v / 4096 = p

def DeUsuario (k : Kernel) (g : Historia) (t : ℕ) : Prop :=
  Tarea k t ∧ 3 ≤ t ∧ ∃ e, g.cargas[t - 3]? = some e ∧ e.usuario = true

/-- No user task may write a page of another. -/
def Aislada (s : Kernel × Historia) : Prop :=
  ∀ t u, DeUsuario s.1 s.2 t → DeUsuario s.1 s.2 u → t ≠ u → ∀ p, Suya s.2 t p → ¬ Accesible s.1 u p

def De (g : Historia) (o : Dueno) (t : ℕ) : Prop :=
  match o with
  | .concesion j => ∃ p, g.concesiones[j]? = some (t, p)
  | .modulo i => 3 ≤ t ∧ ∃ e, g.cargas[t - 3]? = some e ∧ e.modulo = i
  | .dir c | .tab c | .pila c => t = 3 + c
  | _ => False

lemma De.inj (h : Orden b (k, g)) {o : Dueno} (ht : De g o t) (hu : De g o u) : t = u := by
  cases o with
  | concesion j =>
    obtain ⟨p, hp⟩ := ht
    obtain ⟨q, hq⟩ := hu
    rw [hp] at hq
    exact congrArg Prod.fst (Option.some.inj hq)
  | modulo i =>
    obtain ⟨h3, e, he, hi⟩ := ht
    obtain ⟨h3', e', he', hi'⟩ := hu
    have := h.unico _ _ e e' he he' (hi.trans hi'.symm)
    omega
  | dir c => exact Eq.trans ht (Eq.symm hu)
  | tab c => exact Eq.trans ht (Eq.symm hu)
  | pila c => exact Eq.trans ht (Eq.symm hu)
  | megabyte => exact absurd ht id
  | nucleo => exact absurd ht id
  | directorio => exact absurd ht id
  | tabla r => exact absurd ht id

lemma posee_concesion {p : ℕ} (h : (t, p) ∈ g.concesiones) :
    ∃ o, Posee b g o p ∧ De g o t := by
  obtain ⟨j, hj⟩ := List.mem_iff_getElem?.mp h
  exact ⟨.concesion j, ⟨t, hj⟩, ⟨p, hj⟩⟩

lemma posee_modulo (h : Orden b (k, g)) (h3 : 3 ≤ t) {e : Carga} (he : g.cargas[t - 3]? = some e)
    {p : ℕ} (hp : e.ini ≤ p ∧ p < e.ini + e.pag) : ∃ o, Posee b g o p ∧ De g o t := by
  obtain ⟨mod, hmod, hini, hpag, -⟩ := h.modulo e (List.mem_of_getElem? he)
  rw [hini, hpag] at hp
  exact ⟨.modulo e.modulo, ⟨mod, hmod, hp⟩, h3, e, he, rfl⟩

lemma Suya.posee (h : Orden b (k, g)) {p : ℕ} (hs : Suya g t p) :
    ∃ o, Posee b g o p ∧ De g o t := by
  rcases hs with hs | ⟨h3, e, he, hs | hs | hs | hs⟩
  · exact posee_concesion hs
  · exact posee_modulo h h3 he hs
  · exact ⟨.dir (t - 3), ⟨e, he, hs⟩, show t = 3 + (t - 3) by omega⟩
  · exact ⟨.tab (t - 3), ⟨e, he, hs⟩, show t = 3 + (t - 3) by omega⟩
  · exact ⟨.pila (t - 3), ⟨e, he, hs⟩, show t = 3 + (t - 3) by omega⟩

/-- What a loaded task may write is something of its own, or a granted page of a region in which
it has been granted one. -/
lemma accesible_de (h : Tables.Inv b (k, g)) (hv : b.Ventana) (hant : ∀ e ∈ g.cargas, e.antes = [])
    (hu : Tarea k u) (h3 : 3 ≤ u) {p : ℕ} (hac : Accesible k u p) :
    (∃ o, Posee b g o p ∧ De g o u) ∨
      1024 ≤ p ∧ (∃ t, (t, p) ∈ g.concesiones) ∧
        ∃ q, (u, q) ∈ g.concesiones ∧ q / 1024 = p / 1024 := by
  obtain ⟨v, h32, hw, hp⟩ := hac
  obtain ⟨hA, hM⟩ := (userWrite_abre h hv hu h32).mp hw
  rw [phys_pagina h hv hu h32, show (4096 * paginaDe g u (v / 2 ^ 22) (v / 4096 % 1024) +
    v % 4096) / 4096 = paginaDe g u (v / 2 ^ 22) (v / 4096 % 1024) by omega] at hp
  subst hp
  have hj : v / 4096 % 1024 < 1024 := by omega
  generalize v / 4096 % 1024 = j at *
  generalize v / 2 ^ 22 = r at *
  unfold paginaDe
  unfold Muestra at hM
  by_cases hr : r = 0
  · -- the first region: the module, the stack, and pages of its own
    rw [if_pos ⟨h3, hr⟩] at hM ⊢
    obtain ⟨e, he, hU⟩ := hM
    have hm := List.mem_of_getElem? he
    simp only [he, Option.map_some, Option.getD_some]
    left
    unfold destino
    split
    · exact posee_modulo h.toOrden h3 he (by omega)
    · next hx =>
      split
      · exact ⟨.pila (u - 3), ⟨e, he, rfl⟩, show u = 3 + (u - 3) by omega⟩
      · next hs =>
        rcases hU with (hU | hU) | hU | ⟨t, htj, -⟩
        · exact absurd hU hx
        · exact absurd hU hs
        · rw [show 3 + (u - 3) = u by omega] at hU
          exact posee_concesion hU
        · rw [hant e hm] at htj
          exact absurd htj List.not_mem_nil
  · rw [if_neg fun hx => hr hx.2] at hM ⊢
    obtain ⟨t, ht, -⟩ := hM
    refine Or.inr ⟨by omega, ⟨t, ht⟩, ?_⟩
    rcases hA with ⟨t', q, htq, hqr, rfl | hk⟩ | ⟨-, h0 | ⟨e, t', q, he, htq, -⟩⟩
    · exact ⟨q, htq, by omega⟩
    · omega
    · exact absurd h0 hr
    · rw [hant e (List.mem_of_getElem? he)] at htq
      exact absurd htq List.not_mem_nil

/-- A granted page outside the first region is open to whoever opens the region. -/
lemma accesible_concesion (h : Tables.Inv b (k, g)) (hv : b.Ventana) (hu : Tarea k u) {p q : ℕ}
    (htp : (t, p) ∈ g.concesiones) (huq : (u, q) ∈ g.concesiones) (hp : 1024 ≤ p)
    (hpq : p / 1024 = q / 1024) : Accesible k u p := by
  obtain ⟨-, hp20, -⟩ := h.concesiones t p htp
  have e1 : 4096 * p / 2 ^ 22 = p / 1024 := by omega
  have e2 : 4096 * p / 4096 % 1024 = p % 1024 := by omega
  refine ⟨4096 * p, by omega, (userWrite_abre h hv hu (by omega)).mpr ?_, ?_⟩
  · rw [e1, e2]
    refine ⟨Or.inl ⟨u, q, huq, hpq.symm, Or.inl rfl⟩, ?_⟩
    rw [Muestra, if_neg fun hx => by omega]
    exact ⟨t, by rwa [Nat.div_add_mod], fun h0 => by omega⟩
  · rw [phys_pagina h hv hu (by omega), e1, e2, paginaDe, if_neg fun hx => by omega]
    omega

lemma aislada_iff (h : Tables.Inv b (k, g)) (hv : b.Ventana)
    (hant : ∀ e ∈ g.cargas, e.antes = []) : Aislada (k, g) ↔
      ∀ t u, DeUsuario k g t → DeUsuario k g u → t ≠ u → ∀ p q, (t, p) ∈ g.concesiones →
        (u, q) ∈ g.concesiones → p / 1024 = q / 1024 → p < 1024 := by
  constructor
  · intro ha t u ht hu hne p q htp huq hpq
    by_contra hp
    exact ha t u ht hu hne p (Or.inl htp)
      (accesible_concesion h hv hu.1 htp huq (by omega) hpq)
  · intro hc t u ht hu hne p hs hac
    obtain ⟨L, hL⟩ := h.duenos.libro
    have huno := hL.repartida.uno
    obtain ⟨o, ho, hot⟩ := hs.posee h.toOrden
    rcases accesible_de h hv hant hu.1 hu.2.1 hac with ⟨o', ho', hou⟩ | ⟨hp, ⟨t', ht'⟩, q, huq, hq⟩
    · obtain rfl := huno o o' p ho ho'
      exact hne (hot.inj h.toOrden hou)
    · -- the page is a grant, so it is the grant to `t`
      obtain ⟨o', ho', hot'⟩ := posee_concesion (b := b) ht'
      obtain rfl := huno o o' p ho ho'
      obtain rfl := hot.inj h.toOrden hot'
      have := hc t u ht hu hne p q ht' huq hq.symm
      omega

lemma tras_cargas (h : Reach (Cargada b) (fun s e s' => Paso b s e s' ∧ e ≠ .carga) s) :
    Reach (Inicial b) (Paso b) s ∧ ∀ e ∈ s.2.cargas, e.antes = [] := by
  refine h.invariant
    (P := fun s => Reach (Inicial b) (Paso b) s ∧ ∀ e ∈ s.2.cargas, e.antes = []) ?_ ?_
  · exact fun s hs => ⟨(cargada_spec hs).1, (cargada_spec hs).2.2⟩
  · rintro s e s' ⟨hr, ha⟩ ⟨hs, hne⟩
    refine ⟨hr.step hs, ?_⟩
    cases hs with
    | carga => exact absurd rfl hne
    | video => exact ha
    | mem =>
      simp only [Historia.conceder]
      split <;> exact ha

/-- **Isolation.** After the loads, whatever the tasks ask for, no user task may write a page of
another just when no two have been granted pages in one region beyond the first. -/
theorem tareas_aisladas (hv : b.Ventana)
    (h : Reach (Cargada b) (fun s e s' => Paso b s e s' ∧ e ≠ .carga) (k, g)) :
    Aislada (k, g) ↔
      ∀ t u, DeUsuario k g t → DeUsuario k g u → t ≠ u → ∀ p q, (t, p) ∈ g.concesiones →
        (u, q) ∈ g.concesiones → p / 1024 = q / 1024 → p < 1024 := by
  obtain ⟨hr, hant⟩ := tras_cargas h
  exact aislada_iff (tablas_en_todo_estado hv hr) hv hant

def vecinas (p q : ℕ) : Kernel × Historia :=
  (pide 4 q (pide 3 p (nucleoTres 3)), { historiaTres 3 with concesiones := [(3, p), (4, q)] })

lemma vecinas_reach {p q : ℕ} (hp : 1406 ≤ p) (hq : 1406 ≤ q) (hp' : p < PAG_MEM)
    (hq' : q < PAG_MEM) (hne : q ≠ p) :
    Reach (Cargada tres) (fun s e s' => Paso tres s e s' ∧ e ≠ .carga) (vecinas p q) := by
  obtain ⟨hr, -, hL, -⟩ := nucleoTres_spec le_rfl
  obtain ⟨h3, hocc⟩ := pide_paso (b := tres) (g := historiaTres 3) (tres_tarea (by decide) :
    Tarea (nucleoTres 3) 3) (by omega) hp' (libre_of_lleno hL hp hp')
  have hlibre : ocupada (pide 3 p (nucleoTres 3)).mm q = false := by
    rw [hocc, libre_of_lleno hL hq hq', Bool.false_or, decide_eq_false_iff_not]
    exact hne
  obtain ⟨h4, -⟩ := pide_paso (b := tres)
    (g := { historiaTres 3 with concesiones := (historiaTres 3).concesiones ++ [(3, p)] })
    (pide_tarea.mpr (tres_tarea (by decide)) : Tarea (pide 3 p (nucleoTres 3)) 4) (by omega) hq'
    hlibre
  exact ((Reach.init hr).step ⟨h3, by simp⟩).step ⟨h4, by simp⟩

/-- Pages in different regions: the two tasks do not see each other's. -/
theorem tareas_aisladas_lejos : Aislada (vecinas 5000 6000) := by
  have hr := vecinas_reach (p := 5000) (q := 6000) (by decide) (by decide) (by decide) (by decide)
    (by decide)
  refine (tareas_aisladas tres_ventana hr).mpr ?_
  rintro t u - - hne p q htp huq hpq
  have ht : (t = 3 ∧ p = 5000) ∨ t = 4 ∧ p = 6000 := by simpa [vecinas] using htp
  have hu : (u = 3 ∧ q = 5000) ∨ u = 4 ∧ q = 6000 := by simpa [vecinas] using huq
  omega

/-- Pages in one region: task 4 may write the page of task 3. -/
theorem pagina_ajena :
    Reach (Cargada tres) (fun s e s' => Paso tres s e s' ∧ e ≠ .carga) (vecinas 5000 5001) ∧
    ¬ Aislada (vecinas 5000 5001) := by
  have hr := vecinas_reach (p := 5000) (q := 5001) (by decide) (by decide) (by decide) (by decide)
    (by decide)
  have hinv := tablas_en_todo_estado tres_ventana (tras_cargas hr).1
  have htar : ∀ t < 6, Tarea (vecinas 5000 5001).1 t := fun t ht =>
    pide_tarea.mpr (pide_tarea.mpr (tres_tarea ht))
  have h3 : (3, 5000) ∈ (vecinas 5000 5001).2.concesiones := by simp [vecinas]
  have h4 : (4, 5001) ∈ (vecinas 5000 5001).2.concesiones := by simp [vecinas]
  refine ⟨hr, fun ha => ?_⟩
  exact ha 3 4 ⟨htar 3 (by decide), by decide, cargaTres 0, rfl, rfl⟩
    ⟨htar 4 (by decide), by decide, cargaTres 1, rfl, rfl⟩ (by decide) 5000 (Or.inl h3)
    (accesible_concesion hinv tres_ventana (htar 4 (by decide)) h3 h4 (by decide) (by decide))

end Silicio.Walk
