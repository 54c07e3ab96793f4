import Silicio.Walk

/-!
What a task sees of memory while other tasks call and store.

A task finds the pages of its module at `V_USER`, and goes on finding them there as long as
nobody writes to a page of tables.
-/

namespace Silicio.View

open Silicio.Bitmap Silicio.Bytes Silicio.Defs Silicio.Mm Silicio.Mmu Silicio.Tasks Silicio.Registry
open Silicio.Runs Silicio.Syscall Silicio.Boot Silicio.Owners Silicio.Tables Silicio.Layout
open Silicio.Walk

variable {b : Maquina} {g : Historia} {k k' : Kernel} {t v : ℕ}

/-- **The module of a task is at `V_USER`**, and the task may write it. -/
theorem checkAddr_usuario (h : Tables.Inv b (k, g)) (hv : b.Ventana) {c : ℕ} {e : Carga}
    (he : g.cargas[c]? = some e) (hu : Tarea k (3 + c)) {j off : ℕ} (hj : j < e.pag)
    (hoff : off < 4096) :
    UserWrite k.mem (k.tssOf (3 + c)).cr3 (4096 * (V_USER + j) + off) ∧
      phys k.mem (k.tssOf (3 + c)).cr3 (4096 * (V_USER + j) + off) =
        4096 * (e.ini + j) + off ∧
      checkAddr (4096 * (V_USER + j) + off) (3 + c) k = 4096 * (e.ini + j) + off := by
  obtain ⟨-, -, -, -, hpag⟩ := h.modulo e (List.mem_of_getElem? he)
  simp only [MAX_PAG_DRIVER] at hpag
  have h32 : 4096 * (V_USER + j) + off < 2 ^ 32 := by simp only [V_USER]; omega
  have e1 : (4096 * (V_USER + j) + off) / 2 ^ 22 = 0 := by simp only [V_USER]; omega
  have e2 : (4096 * (V_USER + j) + off) / 4096 % 1024 = V_USER + j := by
    simp only [V_USER]
    omega
  have e3 : (4096 * (V_USER + j) + off) % 4096 = off := by simp only [V_USER]; omega
  have hM : Muestra g (3 + c) 0 (V_USER + j) := by
    rw [Muestra, if_pos ⟨by omega, rfl⟩, Nat.add_sub_cancel_left]
    exact ⟨e, he, Or.inl (Or.inl ⟨by omega, by omega⟩)⟩
  have hA : Abre g (3 + c) 0 := Or.inr ⟨by omega, Or.inl rfl⟩
  have hp : paginaDe g (3 + c) 0 (V_USER + j) = e.ini + j := by
    rw [paginaDe, if_pos ⟨by omega, rfl⟩, Nat.add_sub_cancel_left, he]
    simp only [Option.map_some, Option.getD_some, destino]
    rw [if_pos ⟨by omega, by omega⟩, Nat.add_sub_cancel_left]
  have hphys : phys k.mem (k.tssOf (3 + c)).cr3 (4096 * (V_USER + j) + off) =
      4096 * (e.ini + j) + off := by
    rw [phys_pagina h hv hu h32, e1, e2, e3, hp]
  have hw := (userWrite_abre h hv hu h32).mpr (by rw [e1, e2]; exact ⟨hA, hM⟩)
  refine ⟨hw, hphys, ?_⟩
  rw [checkAddr_eq, if_pos (userWrite_iff.mp hw).2, hphys]

/-! ### What calls and stores leave alone -/

/-- `k'` comes from `k` by calls and stores that touch no page of tables. -/
structure Vecino (b : Maquina) (g : Historia) (k k' : Kernel) : Prop where
  marco : Marco k k'
  mem : ∀ x < 2 ^ 32, DeTablas b g (x / 4096) → rd8 k'.mem x = rd8 k.mem x

lemma Vecino.trans {k₁ : Kernel} (h : Vecino b g k k₁) (h' : Vecino b g k₁ k') :
    Vecino b g k k' :=
  ⟨h.marco.trans h'.marco, fun x hx hd => (h'.mem x hx hd).trans (h.mem x hx hd)⟩

lemma vecino_entrar (t : ℕ) (r : Regs) : Vecino b g k (entrar t r k) :=
  ⟨entrar_marco t r k, fun _ _ _ => rfl⟩

lemma marco_cr3 (h : Marco k k') (t : ℕ) : (k'.tssOf t).cr3 = (k.tssOf t).cr3 := by
  obtain ⟨a, b, c, d, hq⟩ := h.tss (k.rTareas t).taskTss
  rw [Kernel.tssOf, h.taskTss, hq, Kernel.tssOf]

lemma word_congr {m m' : Mem} {p j : ℕ} (hp : p < 2 ^ 20) (hj : j < 1024)
    (h : ∀ x < 2 ^ 32, x / 4096 = p → rd8 m' x = rd8 m x) : word m' p j = word m p j :=
  rd32_congr fun c hc => h _ (by omega) (by omega)

/-- A walk looks at one directory and one table. -/
lemma camino_de (hk : Marco k k') (h : Tables.Inv b (k, g)) (hv : b.Ventana) (ht : Tarea k t)
    (h32 : v < 2 ^ 32) (hdir : ∀ x < 2 ^ 32, x / 4096 = raizDe b g t → rd8 k'.mem x = rd8 k.mem x)
    (htab : ∀ x < 2 ^ 32, x / 4096 = tablaDe b g t (v / 2 ^ 22) → rd8 k'.mem x = rd8 k.mem x) :
    pde k'.mem (k'.tssOf t).cr3 v = pde k.mem (k.tssOf t).cr3 v ∧
      pte k'.mem (k'.tssOf t).cr3 v = pte k.mem (k.tssOf t).cr3 v := by
  have hreg : Registro (3 + g.cargas.length) k := h.registro
  have hlt : t < 3 + g.cargas.length := (hreg.tarea_iff.mp ht).1
  have hcr : (k.tssOf t).cr3 = 4096 * raizDe b g t := by
    rw [hreg.tssOf ht]
    exact h.cr3 t ht
  obtain ⟨hd, htb, -, -, -⟩ := tablas_de hlt (raiz_lt hv)
    (fun e he => ⟨(h.bajo e he).1, (h.bajo e he).2.1⟩) (h.distintas hv)
    (show v / 2 ^ 22 < 1024 by omega)
  have hent := (entradas h hv ht h32).1
  rw [marco_cr3 hk]
  have h1 : pde k'.mem (k.tssOf t).cr3 v = pde k.mem (k.tssOf t).cr3 v := by
    rw [pde_eq hd (by omega), pde_eq hd (by omega)]
    exact word_congr hd (by omega) hdir
  refine ⟨h1, ?_⟩
  rw [pte_eq (h1 ▸ hent.pagina), pte_eq hent.pagina]
  exact word_congr htb (by omega) htab

/-- **No walk is changed** by what leaves the tables alone. -/
theorem Vecino.camino (hk : Vecino b g k k') (h : Tables.Inv b (k, g)) (hv : b.Ventana)
    (ht : Tarea k t) (h32 : v < 2 ^ 32) :
    pde k'.mem (k'.tssOf t).cr3 v = pde k.mem (k.tssOf t).cr3 v ∧
      pte k'.mem (k'.tssOf t).cr3 v = pte k.mem (k.tssOf t).cr3 v := by
  have hreg : Registro (3 + g.cargas.length) k := h.registro
  obtain ⟨-, -, -, hdir, htab⟩ := tablas_de (hreg.tarea_iff.mp ht).1 (raiz_lt hv)
    (fun e he => ⟨(h.bajo e he).1, (h.bajo e he).2.1⟩) (h.distintas hv)
    (show v / 2 ^ 22 < 1024 by omega)
  exact camino_de hk.marco h hv ht h32 (fun x hx hxp => hk.mem x hx (hxp ▸ hdir))
    fun x hx hxp => hk.mem x hx (hxp ▸ htab)

lemma Vecino.userWrite (hk : Vecino b g k k') (h : Tables.Inv b (k, g)) (hv : b.Ventana)
    (ht : Tarea k t) (h32 : v < 2 ^ 32) :
    UserWrite k'.mem (k'.tssOf t).cr3 v ↔ UserWrite k.mem (k.tssOf t).cr3 v := by
  obtain ⟨h1, h2⟩ := hk.camino h hv ht h32
  rw [UserWrite, UserWrite, h1, h2]

lemma Vecino.phys (hk : Vecino b g k k') (h : Tables.Inv b (k, g)) (hv : b.Ventana)
    (ht : Tarea k t) (h32 : v < 2 ^ 32) :
    Mmu.phys k'.mem (k'.tssOf t).cr3 v = Mmu.phys k.mem (k.tssOf t).cr3 v := by
  rw [Mmu.phys, Mmu.phys, (hk.camino h hv ht h32).2]

lemma checkAddr_pte (hpte : pte k'.mem (k'.tssOf t).cr3 v = pte k.mem (k.tssOf t).cr3 v) :
    Syscall.checkAddr v t k' = Syscall.checkAddr v t k := by
  rw [checkAddr_eq, checkAddr_eq, Mmu.phys, Mmu.phys, hpte]

lemma Vecino.checkAddr (hk : Vecino b g k k') (h : Tables.Inv b (k, g)) (hv : b.Ventana)
    (ht : Tarea k t) (h32 : v < 2 ^ 32) :
    Syscall.checkAddr v t k' = Syscall.checkAddr v t k :=
  checkAddr_pte (hk.camino h hv ht h32).2

/-! ### Three modules -/

lemma tres_deTablas {p : ℕ} (h : DeTablas tres (historiaTres 3) p) : 372 ≤ p := by
  rcases h with h | ⟨e, he, h⟩
  · rw [tres_raiz] at h
    exact h.1
  · obtain ⟨j, -, rfl⟩ := List.mem_map.mp he
    simp only [cargaTres] at h
    omega

lemma con_mem (mem : Mem) {x : ℕ} (h32 : x < 2 ^ 32) (hx : x / 4096 < 372) :
    rd8 (nucleoCon mem 3).mem x = rd8 mem x :=
  (con_inv mem).mapa.resto x h32 fun hd => absurd (tres_deTablas hd) (by omega)

/-- A task loaded with one of the three modules finds it at 0x300000, as long as nobody stores in
the tables. -/
lemma usuario_de {b : Maquina} {g : Historia} (hi : Tables.Inv b (k, g)) (hv : b.Ventana)
    (hk : Vecino b g k k') {c off : ℕ} (hg : g.cargas[c]? = some (cargaTres c))
    (ht : Tarea k (3 + c)) (hoff : off < 4096) :
    UserWrite k'.mem (k'.tssOf (3 + c)).cr3 (0x300000 + off) ∧
      phys k'.mem (k'.tssOf (3 + c)).cr3 (0x300000 + off) = 0x170000 + 4096 * c + off ∧
      checkAddr (0x300000 + off) (3 + c) k' = 0x170000 + 4096 * c + off := by
  have h32 : 0x300000 + off < 2 ^ 32 := by omega
  obtain ⟨h1, h2, h3⟩ := checkAddr_usuario hi hv hg ht
    (show 0 < (cargaTres c).pag from Nat.one_pos) hoff
  have e1 : 4096 * (V_USER + 0) + off = 0x300000 + off := by simp only [V_USER]
  have e2 : 4096 * ((cargaTres c).ini + 0) + off = 0x170000 + 4096 * c + off := by
    simp only [cargaTres]
    omega
  rw [e1] at h1 h2 h3
  rw [e2] at h2 h3
  rw [hk.userWrite hi hv ht h32, hk.phys hi hv ht h32, hk.checkAddr hi hv ht h32]
  exact ⟨h1, h2, h3⟩

lemma con_usuario {mem : Mem} (hk : Vecino (tresCon mem) (historiaTres 3) (nucleoCon mem 3) k')
    {c off : ℕ} (hc : c < 3) (hoff : off < 4096) :
    UserWrite k'.mem (k'.tssOf (3 + c)).cr3 (0x300000 + off) ∧
      phys k'.mem (k'.tssOf (3 + c)).cr3 (0x300000 + off) = 0x170000 + 4096 * c + off ∧
      checkAddr (0x300000 + off) (3 + c) k' = 0x170000 + 4096 * c + off :=
  usuario_de (con_inv mem) tres_ventana hk (historiaTres_get hc) (con_tarea mem (by omega)) hoff

lemma tres_inv : Tables.Inv tres (nucleoTres 3, historiaTres 3) := by
  rw [nucleoTres_eq]
  exact con_inv memTres

lemma tres_usuario (hk : Vecino tres (historiaTres 3) (nucleoTres 3) k') {c off : ℕ} (hc : c < 3)
    (hoff : off < 4096) :
    UserWrite k'.mem (k'.tssOf (3 + c)).cr3 (0x300000 + off) ∧
      phys k'.mem (k'.tssOf (3 + c)).cr3 (0x300000 + off) = 0x170000 + 4096 * c + off ∧
      checkAddr (0x300000 + off) (3 + c) k' = 0x170000 + 4096 * c + off := by
  rw [nucleoTres_eq, ← tresCon_memTres] at hk
  exact con_usuario hk hc hoff

lemma tres_word {a : ℕ} (h : a + 3 < 2 ^ 32) (ha : (a + 3) / 4096 < 372) :
    rd32 (nucleoTres 3).mem a = rd32 memTres a := by
  rw [nucleoTres_eq]
  exact rd32_congr fun c hc => con_mem memTres (by omega) (by omega)

end Silicio.View
