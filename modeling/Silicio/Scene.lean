import Silicio.Turns

/-!
Three tasks in a memory of choice.

The machine of `Layout` after `main`, whatever its modules hold: tasks 3, 4 and 5 have one page
each, at 0x300000 for the task and from 0x170000 on in memory, and a stack; they run in turn and
no slot has a driver yet. The runs that show what a rule is about start here.
-/

namespace Silicio.Scene

open Silicio.Bitmap Silicio.Bytes Silicio.Defs Silicio.Mmu Silicio.Tasks Silicio.Registry
open Silicio.Runs Silicio.Sched Silicio.Syscall Silicio.Boot Silicio.Owners Silicio.Tables
open Silicio.Layout Silicio.Walk Silicio.View Silicio.Effects Silicio.Contained
open Silicio.Driver hiding Evento Paso Inicial Inv Historia
open Silicio.Turns hiding Maquina Evento Paso Inicial Inv

variable {m : Mem} {k k' : Kernel} {t u : ℕ} {r : Regs}

/-- What has been loaded; the video pages are given up. -/
def historia : Historia := { historiaTres 3 with video := true }

/-- The scene: `main` has called `task_control`, and memory holds `m` where no tables are. -/
structure Escenario (m : Mem) (k : Kernel) : Prop where
  inicial : Turns.Inicial enlace (k, none)
  tablas : Tables.Inv (tresCon m) (k, historia)
  tarea : ∀ t, 3 ≤ t → t < 6 → Tarea k t
  corre : ∀ t, 3 ≤ t → t < 6 → estados k t = .running
  hueco : (k.rTareas 6).task = 0
  libre : ∀ i < MAX_DRIVERS, k.rDrv i = ranuraVacia
  indice : k.tIndice = 0

lemma nucleoCon_cargado (m : Mem) (n : ℕ) : Cargado enlace (nucleoCon m n) := by
  induction n with
  | zero => exact .init ⟨_, _, _, arranque_nucleo (tresCon m)⟩
  | succ n ih => exact ih.step (a := ()) (.exec _ _ _)

lemma escenario_de (hc : Cargado enlace k) (hi : Tables.Inv (tresCon m) (k, historiaTres 3))
    (hr : Registro 6 k) (hst : ∀ c < 3, (k.rTareas (3 + c)).status = .running) :
    Escenario m (soltarVideo k) where
  inicial := ⟨k, hc, rfl⟩
  tablas := hi.video rfl
  tarea t _ h6 := hr.tarea_iff.mpr ⟨h6, lt_trans h6 (by decide)⟩
  corre t h3 h6 := by
    have := hst (t - 3) (by omega)
    rwa [Nat.add_sub_cancel' h3] at this
  hueco := hr.libre 6 (by decide) (Or.inl le_rfl)
  libre := by
    obtain ⟨n, -, -, -, h⟩ := cargado_spec hc
    exact h
  indice := rfl

lemma escenario (m : Mem) : Escenario m (soltarVideo (nucleoCon m 3)) :=
  escenario_de (nucleoCon_cargado m 3) (con_inv m) (con_registro m)
    (nucleoCon_spec m le_rfl).2.2.2

lemma vecino_rfl : Vecino (tresCon m) historia k k := ⟨Marco.rfl', fun _ _ _ => rfl⟩

section
variable (h : Escenario m k)
include h

/-! ### Memory -/

lemma Escenario.mem {x : ℕ} (h32 : x < 2 ^ 32) (hx : x / 4096 < 372) : rd8 k.mem x = rd8 m x :=
  h.tablas.mapa.resto x h32 fun hd => absurd (tres_deTablas hd) (by omega)

lemma Escenario.word {a : ℕ} (ha : a + 3 < 2 ^ 32) (hx : (a + 3) / 4096 < 372) :
    rd32 k.mem a = rd32 m a := rd32_congr fun c hc => h.mem (by omega) (by omega)

/-- Each task finds its module at 0x300000, as long as nobody stores in the tables. -/
lemma Escenario.usuario (hk : Vecino (tresCon m) historia k k') {c off : ℕ} (hc : c < 3)
    (hoff : off < 4096) :
    UserWrite k'.mem (k'.tssOf (3 + c)).cr3 (0x300000 + off) ∧
      phys k'.mem (k'.tssOf (3 + c)).cr3 (0x300000 + off) = 0x170000 + 4096 * c + off ∧
      checkAddr (0x300000 + off) (3 + c) k' = 0x170000 + 4096 * c + off :=
  usuario_de h.tablas tres_ventana hk (historiaTres_get hc) (h.tarea (3 + c) (by omega) (by omega))
    hoff

lemma Escenario.propia {c : ℕ} (hc : c < 3) : Accesible k (3 + c) (368 + c) := by
  obtain ⟨h1, h2, -⟩ := h.usuario (vecino_rfl (k := k)) hc (show 0 < 4096 by decide)
  exact ⟨0x300000 + 0, by decide, h1, by rw [h2]; omega⟩

lemma Escenario.ajena {c d : ℕ} (hc : c < 3) (hd : d < 3) (hne : c ≠ d) :
    ¬ Accesible k (3 + c) (368 + d) := by
  have hv : (tresCon m).Ventana := tres_ventana
  have hant : ∀ e ∈ historia.cargas, e.antes = [] := fun e he => by
    obtain ⟨i, -, rfl⟩ := List.mem_map.mp he
    rfl
  have hmod : Posee (tresCon m) historia (.modulo d) (368 + d) := by
    refine ⟨moduloTres d, ?_, moduloTres_pagina.mpr rfl⟩
    exact List.getElem?_map.trans (by rw [List.getElem?_range hd]; rfl)
  intro hac
  rcases accesible_de h.tablas hv hant (h.tarea (3 + c) (by omega) (by omega)) (by omega) hac with
    ⟨o, ho, hde⟩ | ⟨h1024, -⟩
  · obtain ⟨L, hL⟩ := h.tablas.duenos.libro
    obtain rfl : o = .modulo d := hL.repartida.uno _ _ _ ho hmod
    obtain ⟨-, e, he, hm⟩ := hde
    rw [Nat.add_sub_cancel_left] at he
    obtain rfl := Option.some.inj ((historiaTres_get hc).symm.trans he)
    exact hne hm
  · omega

end

lemma vecino_mem {k₁ : Kernel} {m' : Mem} (hk : Vecino (tresCon m) historia k k₁)
    (hm : ∀ x, 0x174000 ≤ x → x < 2 ^ 32 → rd8 m' x = rd8 k₁.mem x) :
    Vecino (tresCon m) historia k { k₁ with mem := m' } := by
  refine ⟨hk.marco.trans (marco_resto _ _ _ _), fun x hx hd => ?_⟩
  have : 372 ≤ x / 4096 := tres_deTablas hd
  exact (hm x (by omega) hx).trans (hk.mem x hx hd)

/-! ### Turns -/

abbrev KERNEL_FIN : ℕ := 0x16cb61

def turno (u : ℕ) (s : Turns.Maquina) : Turns.Maquina := ({ s.1 with tIndice := u }, some u)

@[simp] lemma turno_mem (u : ℕ) (s : Turns.Maquina) : (turno u s).1.mem = s.1.mem := rfl

def llama (t : ℕ) (r : Regs) (s : Turns.Maquina) : Turns.Maquina :=
  (llamar (fun _ => 0) t r s.1, none)

lemma vecino_turno (h : Vecino (tresCon m) historia k k') (u : ℕ) :
    Vecino (tresCon m) historia k { k' with tIndice := u } :=
  ⟨h.marco.trans (marco_resto _ _ _ _), h.mem⟩

lemma paso_siguiente {s : Turns.Maquina} (hi : s.1.tIndice = t) (hu : u = t + 1)
    (hmax : u < MAX_TASK) (ht : Tarea s.1 u) (hr : estados s.1 u = .running) :
    Contenido KERNEL_FIN s (.turno u) (turno u s) := by
  subst hi hu
  exact .turno (decide_siguiente (siguiente_tarea hmax ht.2) (Or.inl hr))

/-- After the last task, or at the start, the next to run is the first of the modules'. -/
lemma paso_primera {l : Link} {s : Turns.Maquina} (hr : Reach (Turns.Inicial l) Turns.Paso s)
    (hi : s.1.tIndice = 0 ∨ (s.1.rTareas (s.1.tIndice + 1)).task = 0) (h3 : Tarea s.1 3)
    (he : estados s.1 3 = .running) : Contenido KERNEL_FIN s (.turno 3) (turno 3 s) := by
  obtain ⟨n, hn⟩ := run_inv hr
  exact .turno (hn.pasa h3 (Or.inl he) hi rfl)

lemma paso_llama {s : Turns.Maquina} (hs : s.2 = some t)
    (hc : Contenida KERNEL_FIN r (entrar t r s.1)) :
    Contenido KERNEL_FIN s (.llamada t r) (llama t r s) := by
  obtain ⟨k, o⟩ := s
  obtain rfl : o = some t := hs
  exact .llamada _ hc

lemma contenida_reg (h : r.eax = SYS_REG) : Contenida KERNEL_FIN r k :=
  contenida_de (by rw [h]; decide) (by rw [h]; decide) (by rw [h]; decide)

/-! ### A driver -/

lemma Escenario.paso_tres (h : Escenario m k) : Contenido KERNEL_FIN (k, none) (.turno 3)
    (turno 3 (k, none)) := by
  have h0 : Reach (Turns.Inicial enlace) Turns.Paso (k, none) := .init h.inicial
  exact paso_primera h0 (Or.inl h.indice) (h.tarea 3 (by decide) (by decide))
    (h.corre 3 (by decide) (by decide))

lemma Escenario.primera (h : Escenario m k) :
    Reach (Turns.Inicial enlace) (Contenido KERNEL_FIN) (turno 3 (k, none)) :=
  (Reach.init h.inicial).step h.paso_tres

/-- What `sys_reg` reads when task 3 registers, with the `sys_param` at offset `o` of its module,
the name at `a` and a buffer of `n` bytes at `b`. -/
structure Registra (m : Mem) (o a b n : ℕ) : Prop where
  param : o < 4096
  arch : rd32 m (0x170000 + o + PARAM_ARCH) = 0x300000 + a ∧ a < 4096
  buf : rd32 m (0x170000 + o + PARAM_BUF) = 0x300000 + b
  size : rd32 m (0x170000 + o + PARAM_SIZE) = n
  cabe : 0 < n ∧ b + n ≤ 4096

section
variable {o a b n : ℕ} (h : Escenario m k) (hm : Registra m o a b n)
include h hm

lemma Escenario.direcciones (r : Regs) : let k₁ := entrar 3 r (turno 3 (k, none)).1
    checkAddr (0x300000 + o) 3 k₁ = 0x170000 + o ∧
      checkAddr (0x300000 + a) 3 k₁ = 0x170000 + a ∧
      checkAddr (0x300000 + b) 3 k₁ = 0x170000 + b ∧
      checkAddr (0x300000 + (b + n - 1)) 3 k₁ = 0x170000 + (b + n - 1) := by
  intro k₁
  have hk : Vecino (tresCon m) historia k k₁ :=
    (vecino_turno vecino_rfl 3).trans (vecino_entrar 3 r)
  have hc := hm.cabe
  have hve : ∀ off < 4096, checkAddr (0x300000 + off) 3 k₁ = 0x170000 + off := fun off hoff =>
    (h.usuario hk (c := 0) (by decide) hoff).2.2
  exact ⟨hve o hm.param, hve a hm.arch.2, hve b (by omega), hve _ (by omega)⟩

lemma Escenario.registra (hr : r.ebx = 0x300000 + o) :
    revisarReg r.ebx (entrar 3 r (turno 3 (k, none)).1) = .inr 3 := by
  obtain ⟨hsys, harch, hbuf, hlast⟩ := h.direcciones hm r
  have hp := hm.param
  have hw : ∀ off, off + 4 ≤ 32 → rd32 k.mem (0x170000 + o + off) = rd32 m (0x170000 + o + off) :=
    fun off hoff => h.word (by omega) (by omega)
  have hlibre : ∀ j, j < MAX_DRIVERS → (k.rDrv j).idDrv = 0 := fun j hj =>
    congrArg Drv.idDrv (h.libre j hj)
  have hmem : (entrar 3 r (turno 3 (k, none)).1).mem = k.mem := rfl
  have hc := hm.cabe
  rw [hr]
  refine revisarReg_ok (fun j _ hj => ?_) ⟨le_rfl, by decide⟩ (hlibre 3 (by decide))
    (fun j h3 hj => by omega) hsys (by omega) ?_ ?_ ?_ ?_
  · rw [show (entrar 3 r (turno 3 (k, none)).1).rDrv = k.rDrv from rfl, hlibre j hj]
    exact (by decide : 0 ≠ 3)
  · rw [hmem, hw _ (by decide), hm.arch.1, entrar_tIndice, harch]
    omega
  · rw [hmem, hw _ (by decide), hm.buf, entrar_tIndice, hbuf]
    omega
  · rw [hmem, hw _ (by decide), hm.size]
    omega
  · rw [hmem, hw _ (by decide), hw _ (by decide), hm.buf, hm.size, entrar_tIndice,
      show (0x300000 + b + n + 2 ^ 32 - 1) % 2 ^ 32 = 0x300000 + (b + n - 1) by omega, hlast]
    omega

/-- Task 3 is the driver of slot 3, and task 4 has the processor. -/
def conductor (r : Regs) (k : Kernel) : Turns.Maquina := turno 4 (llama 3 r (turno 3 (k, none)))

lemma Escenario.registrado (heax : r.eax = SYS_REG) (hr : r.ebx = 0x300000 + o) :
    let s := llama 3 r (turno 3 (k, none))
    s.1.mem = k.mem ∧ (∀ j < MAX_DRIVERS, j ≠ 3 → s.1.rDrv j = ranuraVacia) ∧
      (∃ arch, s.1.rDrv 3 = { ranuraVacia with
        arch := arch, idDrv := 3, buf := 0x170000 + b, size := n, sys := 0x170000 + o }) ∧
      estados s.1 = Function.update (estados k) 3 .waiting ∧
      Vecino (tresCon m) historia k s.1 := by
  have hrev := h.registra hm hr
  obtain ⟨hsys, -, hbuf, -⟩ := h.direcciones hm r
  have hp := hm.param
  have hw : ∀ off, off + 4 ≤ 32 → rd32 k.mem (0x170000 + o + off) = rd32 m (0x170000 + o + off) :=
    fun off hoff => h.word (by omega) (by omega)
  obtain ⟨hmem, hotros, arch, hslot⟩ := llamar_registro (fun _ => 0) heax hrev
  have hmem' : (turno 3 (k, none)).1.mem = k.mem := rfl
  rw [hmem', hr, hsys, hw _ (by decide), hw _ (by decide), hm.buf, hm.size, hbuf] at hslot
  refine ⟨hmem, fun j hj hne => (hotros j hne).trans (h.libre j hj), ⟨arch, ?_⟩, ?_, ?_⟩
  · refine hslot.trans ?_
    rw [show (turno 3 (k, none)).1.rDrv = k.rDrv from rfl, h.libre 3 (by decide)]
    rfl
  · refine (congrArg estados (llamar_eq ..)).trans ?_
    rw [despachar_reg _ heax]
    unfold guardar sysReg
    rw [hrev]
    exact estados_updStatus _ _ _
  · exact (vecino_turno vecino_rfl 3).trans ⟨llamar_marco _ _ _ _,
      fun x _ _ => congrArg (fun m' => rd8 m' x) hmem⟩

lemma Escenario.paso_cuatro (heax : r.eax = SYS_REG) (hr : r.ebx = 0x300000 + o) :
    Contenido KERNEL_FIN (llama 3 r (turno 3 (k, none))) (.turno 4) (conductor r k) := by
  obtain ⟨-, -, -, hst, hv⟩ := h.registrado hm heax hr
  refine paso_siguiente (t := 3) (despachar_tIndice _ _ _) rfl (by decide) ?_ ?_
  · exact (hv.marco.tarea 4).mpr (h.tarea 4 (by decide) (by decide))
  · refine (congrFun hst 4).trans ?_
    rw [Function.update_of_ne (by decide)]
    exact h.corre 4 (by decide) (by decide)

lemma Escenario.conduce (heax : r.eax = SYS_REG) (hr : r.ebx = 0x300000 + o) :
    let s := conductor r k
    Reach (Turns.Inicial enlace) (Contenido KERNEL_FIN) s ∧ s.1.mem = k.mem ∧
      (∀ j < MAX_DRIVERS, j ≠ 3 → s.1.rDrv j = ranuraVacia) ∧
      (∃ arch, s.1.rDrv 3 = { ranuraVacia with
        arch := arch, idDrv := 3, buf := 0x170000 + b, size := n, sys := 0x170000 + o }) ∧
      estados s.1 = Function.update (estados k) 3 .waiting ∧
      Vecino (tresCon m) historia k s.1 := by
  obtain ⟨hmem, hotros, hslot, hst, hv⟩ := h.registrado hm heax hr
  have hpaso : Reach (Turns.Inicial enlace) (Contenido KERNEL_FIN)
      (llama 3 r (turno 3 (k, none))) := h.primera.step (paso_llama rfl (contenida_reg heax))
  exact ⟨hpaso.step (h.paso_cuatro hm heax hr), hmem, hotros, hslot, hst, vecino_turno hv 4⟩

lemma Escenario.acepta (heax : r.eax = SYS_REG) (hr : r.ebx = 0x300000 + o) {q : Regs} {e : ℕ}
    (hp : q.eax = SYS_READ ∨ q.eax = SYS_WRITE) (hi : q.ebx = 3) (he : q.ecx = 0x300000 + e)
    (hl : 0 < q.edx ∧ e + q.edx ≤ 4096) :
    Acepta 4 q (conductor r k).1 3 ∧
      checkAddr q.ecx 4 (entrar 4 q (conductor r k).1) = 0x171000 + e := by
  obtain ⟨-, -, -, ⟨arch, hslot⟩, hst, hv⟩ := h.conduce hm heax hr
  have hk := hv.trans (vecino_entrar 4 q)
  have hve : ∀ off < 4096, checkAddr (0x300000 + off) 4 (entrar 4 q (conductor r k).1) =
      0x171000 + off := fun off hoff => (h.usuario hk (c := 1) (by decide) hoff).2.2
  have hd : revisarDrv 3 (entrar 4 q (conductor r k).1) = none := by
    have hid : ((conductor r k).1.rDrv 3).idDrv = 3 := congrArg Drv.idDrv hslot
    have hw : estados (conductor r k).1 3 = .waiting := by
      refine (congrFun hst 3).trans ?_
      rw [Function.update_self]
    unfold revisarDrv
    rw [entrar_rDrv, entrar_rTareas, hid, if_neg (by decide), if_neg (by decide), if_neg]
    exact fun hc => hc hw
  have hbuf : revisarBuf q.ecx q.edx (entrar 4 q (conductor r k).1) = none := by
    refine Reply.revisarBuf_ok ?_ (by omega) (by omega) ?_
    · rw [entrar_tIndice, he, hve e (by omega)]
      omega
    · rw [entrar_tIndice, he, show (0x300000 + e + q.edx + 2 ^ 32 - 1) % 2 ^ 32 =
        0x300000 + (e + q.edx - 1) by omega, hve _ (by omega)]
      omega
  have hno : q.eax ≠ SYS_SEEK := by
    rcases hp with hp | hp <;> · rw [hp]; decide
  refine ⟨⟨hp.imp_right Or.inl, ?_, hi⟩, by rw [he, hve e (by omega)]⟩
  unfold revisar
  rw [hi, hd]
  simp only
  rw [if_neg hno, hbuf]

end

end Silicio.Scene
