import Silicio.Effects

/-!
Steps that keep out of the tables of the kernel.

The model keeps the tables of the kernel beside the physical memory, and each map apart. The linker
puts them all in the image of the kernel: `r_drv` follows `mem_map`, and `t_indice` follows
`r_port`. So a step does what the model says as long as it asks for no page past the one map and for
no port past the others, and moves no byte in the image. The kernel itself runs with paging on: what
a call moves is to keep out of the tables of pages too.
-/

namespace Silicio.Contained

open Silicio.Bitmap Silicio.Bytes Silicio.Defs Silicio.Mm Silicio.Mmu Silicio.Registry
open Silicio.Runs Silicio.Syscall Silicio.Owners Silicio.Tables
open Silicio.Boot (Maquina Historia concedida)
open Silicio.View (Vecino marco_cr3 word_congr)

def Fuera (kernelFin x : ℕ) : Prop := x < KERNEL_INI ∨ kernelFin ≤ x

/-- Byte `x` is in the directory of a task, or in one of the tables it names. -/
def EnTablas (k : Kernel) (x : ℕ) : Prop :=
  ∃ t, Tarea k t ∧ (x / 4096 = (k.tssOf t).cr3 / 4096 ∨
    ∃ r < 1024, x / 4096 = rd32 k.mem (((k.tssOf t).cr3 &&& 0xfffff000) + 4 * r) / 4096)

/-- The entry of the directory on the way to page `p`, for the task `t_indice` names. -/
def dirDe (p : ℕ) (k : Kernel) : ℕ := ((k.tssOf k.tIndice).cr3 &&& 0xfffff000) + 4 * (p >>> 10)

def tabDe (p : ℕ) (k : Kernel) : ℕ := (rd32 k.mem (dirDe p k) &&& 0xfffff000) + 4 * (p &&& 0x3ff)

/-- The bytes a call with registers `r` moves or stores. -/
inductive Toca (r : Regs) (k : Kernel) : ℕ → Prop
  | campo {o j : ℕ} (hp : Pide r.eax) (hr : revisar r k = none)
      (ho : o = PARAM_CALL ∨ o = PARAM_COUNT ∧ r.eax ≠ SYS_SEEK) (hj : j < 4) :
      Toca r k (((k.rDrv r.ebx).sys + o + j) % 2 ^ 32)
  | origen {j : ℕ} (hw : r.eax = SYS_WRITE) (hr : revisar r k = none)
      (hj : j < cantidad (k.rDrv r.ebx) r.edx) :
      Toca r k ((checkAddr r.ecx k.tIndice k + j) % 2 ^ 32)
  | destino {j : ℕ} (hw : r.eax = SYS_WRITE) (hr : revisar r k = none)
      (hj : j < cantidad (k.rDrv r.ebx) r.edx) : Toca r k (((k.rDrv r.ebx).buf + j) % 2 ^ 32)
  | lee {a : ℕ × ℕ} (hret : r.eax = SYS_RET) (hr : revisarRet r.ebx k = none)
      (ha : a ∈ (respuesta (slotDe k.tIndice k.rDrv) k).2) : Toca r k a.1
  | copia {a : ℕ × ℕ} (hret : r.eax = SYS_RET) (hr : revisarRet r.ebx k = none)
      (ha : a ∈ (respuesta (slotDe k.tIndice k.rDrv) k).2) : Toca r k a.2
  | dir {p j : ℕ} (hm : r.eax = SYS_MEM) (hp : concedida r.ebx k.mm = some p) (hj : j < 4) :
      Toca r k ((dirDe p k + j) % 2 ^ 32)
  | tabla {p j : ℕ} (hm : r.eax = SYS_MEM) (hp : concedida r.ebx k.mm = some p) (hj : j < 4) :
      Toca r k ((tabDe p k + j) % 2 ^ 32)

/-- A call, once the task has trapped, that keeps out of the tables. That `SYS_MEM` stores in the
tables of pages is its business. -/
structure Contenida (kernelFin : ℕ) (r : Regs) (k : Kernel) : Prop where
  mapa : r.eax = SYS_MEM → r.ebx < PAG_MEM
  imagen : ∀ x, Toca r k x → Fuera kernelFin x
  tablas : r.eax ≠ SYS_MEM → ∀ x, Toca r k x → ¬ EnTablas k x

/-- A store of task `t` at the virtual address `v` that keeps out of them as well. -/
def Guarda (kernelFin t v : ℕ) (k : Kernel) : Prop :=
  UserWrite k.mem (k.tssOf t).cr3 v → Fuera kernelFin (phys k.mem (k.tssOf t).cr3 v) ∧
    ¬ EnTablas k (phys k.mem (k.tssOf t).cr3 v)

variable {k : Kernel} {r : Regs} {kernelFin t v x : ℕ}

lemma contenida_nada (hmem : r.eax ≠ SYS_MEM) (h : ∀ x, ¬ Toca r k x) : Contenida kernelFin r k :=
  ⟨fun hm => absurd hm hmem, fun x hx => absurd hx (h x), fun _ x hx => absurd hx (h x)⟩

/-- The calls that move nothing. -/
lemma contenida_de (hmem : r.eax ≠ SYS_MEM) (hret : r.eax ≠ SYS_RET) (hp : ¬ Pide r.eax) :
    Contenida kernelFin r k := by
  refine contenida_nada hmem fun x hx => ?_
  cases hx with
  | campo h => exact hp h
  | origen h | destino h => exact hp (Or.inr (Or.inl h))
  | lee h | copia h => exact hret h
  | dir h | tabla h => exact hmem h

lemma pide_ne (hp : Pide r.eax) : r.eax ≠ SYS_MEM ∧ r.eax ≠ SYS_RET := by
  rcases hp with h | h | h <;> rw [h] <;> decide

lemma contenida_rechazo (hp : Pide r.eax) {e : ℤ} (hr : revisar r k = some e) :
    Contenida kernelFin r k := by
  have hno := pide_ne hp
  refine contenida_nada hno.1 fun x hx => ?_
  cases hx with
  | campo _ h | origen _ h | destino _ h => rw [hr] at h; cases h
  | lee h | copia h => exact hno.2 h
  | dir h | tabla h => exact hno.1 h

/-! ### A page of the map -/

section
variable {b : Maquina} {g : Historia} (h : Tables.Inv b (k, g)) (hv : b.Ventana)
include h hv

lemma deTablas_fuera {p : ℕ} (hd : DeTablas b g p) : p < 256 ∨ b.kernelFin / 4096 < p := by
  by_contra hc
  have hnuc : Posee b g .nucleo p := by
    simp only [Posee, KERNEL_INI, PAG_LEN]
    omega
  obtain ⟨L, hL⟩ := h.duenos.libro
  have huno := hL.repartida.uno .nucleo
  rcases hd with hd | ⟨e, he, hd⟩
  · obtain ⟨o, ho, hor⟩ := posee_raiz hv hd
    obtain rfl := huno o p hnuc ho
    rcases hor with hor | ⟨r, hor⟩ <;> cases hor
  · obtain ⟨c, hc⟩ := List.mem_iff_getElem?.mp he
    rcases hd with hd | hd
    · cases huno (.dir c) p hnuc ⟨e, hc, hd⟩
    · cases huno (.tab c) p hnuc ⟨e, hc, hd⟩

lemma tablas_tarea {u r : ℕ} (hu : Tarea k u) (hr : r < 1024) :
    raizDe b g u < 2 ^ 20 ∧ tablaDe b g u r < 2 ^ 20 ∧ raizDe b g u ≠ tablaDe b g u r ∧
      DeTablas b g (raizDe b g u) ∧ DeTablas b g (tablaDe b g u r) :=
  tablas_de (h.registro.tarea_iff.mp hu).1 (raiz_lt hv)
    (fun e he => ⟨(h.bajo e he).1, (h.bajo e he).2.1⟩) (h.distintas hv) hr

lemma raiz_deTablas {u : ℕ} (hu : Tarea k u) : DeTablas b g (raizDe b g u) :=
  (tablas_tarea h hv hu (show 0 < 1024 by decide)).2.2.2.1

/-- **The tables of pages are where the ledger has them**, as long as nothing is stored in a
directory. -/
theorem enTablas_de {k' : Kernel} (hk : Marco k k')
    (hdir : ∀ u, Tarea k u → ∀ x < 2 ^ 32, x / 4096 = raizDe b g u → rd8 k'.mem x = rd8 k.mem x)
    (hx : EnTablas k' x) : DeTablas b g (x / 4096) := by
  obtain ⟨u, hu, hx⟩ := hx
  have hu' : Tarea k u := (hk.tarea u).mp hu
  have hlt : u < 3 + g.cargas.length := (h.registro.tarea_iff.mp hu').1
  have hcr : (k'.tssOf u).cr3 = 4096 * raizDe b g u := by
    rw [marco_cr3 hk, h.registro.tssOf hu', h.cr3 u hu']
  rcases hx with hx | ⟨r, hr, hx⟩
  · rw [hx, hcr, Nat.mul_div_cancel_left _ (by decide)]
    exact raiz_deTablas h hv hu'
  · obtain ⟨hraiz, -, -, -, hd⟩ := tablas_tarea h hv hu' hr
    have hpag : word k'.mem (raizDe b g u) r / 4096 = tablaDe b g u r := by
      rw [word_congr hraiz hr (hdir u hu')]
      exact (h.mapa.dirs u hlt r hr).pagina
    have hent : ((k'.tssOf u).cr3 &&& 0xfffff000) + 4 * r = 4096 * raizDe b g u + 4 * r := by
      rw [hcr, and_page_mask (by omega)]
      omega
    rw [hx, hent, show rd32 k'.mem (4096 * raizDe b g u + 4 * r) = word k'.mem (raizDe b g u) r from
      rfl, hpag]
    exact hd

lemma enTablas_vecino {k' : Kernel} (hk : Vecino b g k k') (hx : EnTablas k' x) :
    DeTablas b g (x / 4096) :=
  enTablas_de h hv hk.marco (fun _ hu y hy hp => hk.mem y hy (hp ▸ raiz_deTablas h hv hu)) hx

/-- The way to page `p` is through the directory of the task and one table. -/
lemma camino_pagina {p : ℕ} (ht : Tarea k t) (hp : p < 2 ^ 20) :
    dirDe p (entrar t r k) = 4096 * raizDe b g t + 4 * (p / 1024) ∧
      tabDe p (entrar t r k) = 4096 * tablaDe b g t (p / 1024) + 4 * (p % 1024) := by
  have hlt : t < 3 + g.cargas.length := (h.registro.tarea_iff.mp ht).1
  have hcr : ((entrar t r k).tssOf t).cr3 = 4096 * raizDe b g t := by
    rw [entrar_tssOf]
    exact (congrArg Tss.cr3 (h.registro.tssOf ht)).trans (h.cr3 t ht)
  obtain ⟨hd, -, -, -, -⟩ := tablas_tarea h hv ht (show p / 1024 < 1024 by omega)
  have hdir : dirDe p (entrar t r k) = 4096 * raizDe b g t + 4 * (p / 1024) := by
    rw [dirDe, entrar_tIndice, hcr, and_page_mask (by omega),
      show p >>> 10 = p / 1024 from Nat.shiftRight_eq_div_pow p 10]
    omega
  refine ⟨hdir, ?_⟩
  have hpag : rd32 k.mem (4096 * raizDe b g t + 4 * (p / 1024)) / 4096 = tablaDe b g t (p / 1024) :=
    (h.mapa.dirs t hlt (p / 1024) (by omega)).pagina
  rw [tabDe, hdir, and_page_mask (rd32_lt _ _), and_index_mask, entrar_mem, hpag, Nat.mul_comm]

/-- **So a page of the map is granted without a write in the image**: the tables are outside. -/
theorem contenida_mem (ht : Tarea k t) (hr : r.eax = SYS_MEM) (hp : r.ebx < PAG_MEM) :
    Contenida b.kernelFin r (entrar t r k) := by
  have hlt : t < 3 + g.cargas.length := (h.registro.tarea_iff.mp ht).1
  have hno : ¬ Pide r.eax ∧ r.eax ≠ SYS_RET := by rw [hr]; decide
  refine ⟨fun _ => hp, fun x hx => ?_, fun hno => absurd hr hno⟩
  have hfuera : ∀ {q o : ℕ}, o < 4096 → DeTablas b g q → q < 2 ^ 20 →
      Fuera b.kernelFin ((4096 * q + o) % 2 ^ 32) := fun {q o} ho hd hq => by
    have := deTablas_fuera h hv hd
    simp only [Fuera, KERNEL_INI]
    omega
  cases hx with
  | campo hp | origen hp | destino hp => exact absurd hp (by rw [hr]; decide)
  | lee hret | copia hret => exact absurd hret hno.2
  | @dir p j _ hc hj =>
    rw [entrar_mm] at hc
    obtain ⟨hp20, -⟩ := concedida_lt h.duenos hv hp hc
    obtain ⟨hd, -, -, hdir, -⟩ := tablas_tarea h hv ht (show p / 1024 < 1024 by omega)
    rw [(camino_pagina h hv ht hp20).1, Nat.add_assoc]
    exact hfuera (by omega) hdir hd
  | @tabla p j _ hc hj =>
    rw [entrar_mm] at hc
    obtain ⟨hp20, -⟩ := concedida_lt h.duenos hv hp hc
    obtain ⟨-, ht', -, -, htab⟩ := tablas_tarea h hv ht (show p / 1024 < 1024 by omega)
    rw [(camino_pagina h hv ht hp20).2, Nat.add_assoc]
    exact hfuera (by omega) htab ht'

end

end Silicio.Contained
