import Silicio.Syscall

/-!
Boots: what the loader and the machine decide, the state `main` leaves before it loads modules,
and what happens to memory from there on.

`main` sets `mem_off` to the page after the last module, maps the memory, sets up the tables
and paging and loads the kernel's own three tasks; then it loads modules with `exec` and
`execd`, `task_control` gives up two pages of video memory, and tasks ask for pages with
`sys_mem`. Beside the state a run keeps the loads and the grants made so far.
-/

namespace Silicio.Boot

open Silicio.Loop Silicio.Bitmap Silicio.Bytes Silicio.Defs Silicio.Mm Silicio.Mmu Silicio.Paging
open Silicio.Tasks Silicio.Registry Silicio.Runs Silicio.Syscall

structure Modulo where
  ini : ℕ
  fin : ℕ
  name : ℕ → Byte

def Modulo.Pagina (m : Modulo) (p : ℕ) : Prop :=
  m.ini / PAG_LEN ≤ p ∧ p < m.ini / PAG_LEN + cantPaginas m.ini m.fin

/-- The map after `set_mem_off` and `ini_mm`. -/
def mmInicial (kernelFin memOff ram : ℕ) : Mm :=
  iniMm kernelFin ram (setMemOff ⟨fun _ => 0, 0, 0⟩ memOff)

section
variable {kernelFin memOff ram : ℕ}

lemma mmInicial_memOff : (mmInicial kernelFin memOff ram).memOff = memOff := iniMm_memOff _ _ _

lemma mmInicial_memMax : (mmInicial kernelFin memOff ram).memMax = ram := iniMm_memMax _ _ _

lemma mmInicial_inicio (hoff : 266 ≤ memOff) (hlim : memOff ≤ PAG_MEM) :
    inicio (mmInicial kernelFin memOff ram) = (memOff - 10) / 8 := by
  simp only [PAG_MEM] at hlim
  rw [inicio_of_le (by rw [mmInicial_memOff]; omega) (by rw [mmInicial_memOff]; omega),
    mmInicial_memOff]

lemma mmInicial_ocupada (hfin : KERNEL_INI ≤ kernelFin) {p : ℕ} (hp : p < PAG_MEM) :
    ocupada (mmInicial kernelFin memOff ram) p =
      decide (p < 252 ∨ 256 ≤ p ∧ p < primera kernelFin memOff) := iniMm_ocupada hfin hp

lemma mmInicial_lleno (hfin : KERNEL_INI ≤ kernelFin) (hoff : 266 ≤ memOff)
    (hlim : memOff ≤ PAG_MEM) :
    Lleno (mmInicial kernelFin memOff ram) (primera kernelFin memOff) := by
  simp only [PAG_MEM] at hlim
  exact iniMm_lleno hfin (by simp only [setMemOff]; omega) (by simp only [setMemOff]; omega)

lemma reservar_inicial (hfin : KERNEL_INI ≤ kernelFin) (hoff : 266 ≤ memOff)
    (hlim : memOff ≤ PAG_MEM) (hram : ram ≤ PAG_MEM) {n : ℕ}
    (hn : primera kernelFin memOff + n ≤ 8 * (ram / 8)) :
    reservar n (mmInicial kernelFin memOff ram) = (List.range' (primera kernelFin memOff) n,
      setMems (primera kernelFin memOff) n (mmInicial kernelFin memOff ram)) :=
  (Lleno.reservar (mmInicial_lleno hfin hoff hlim) (by rwa [mmInicial_memMax])
    (by rwa [mmInicial_memMax])).1

/-- When their window starts past its end the searches after `ini_mm` hand out one page each
time. -/
lemma reservar_hueco (hfin : KERNEL_INI ≤ kernelFin) (hoff : 266 ≤ memOff)
    (hlim : memOff ≤ PAG_MEM) (hw : ram / 8 < (memOff - 10) / 8) (n : ℕ) :
    (reservar n (mmInicial kernelFin memOff ram)).1 =
      List.replicate n (8 * ((memOff - 10) / 8) + 8) := by
  have hx : primera kernelFin memOff = max memOff (kernelFin / 4096 + 1) := rfl
  have hi := @mmInicial_inicio kernelFin memOff ram hoff hlim
  simp only [PAG_MEM] at hlim
  rw [reservar_fuera (by rw [hi, mmInicial_memMax]; exact hw), hi, Nat.mod_eq_of_lt (by omega)]
  intro p hlo hhi
  rw [hi] at hlo hhi
  rw [mmInicial_ocupada hfin (by simp only [PAG_MEM]; omega), decide_eq_true_eq]
  omega

end

/-- A boot: the kernel image, the modules after it, and the memory `testmem` finds. The
searches of `ini_pag` find pages. -/
structure Maquina where
  enlace : Link
  mem : Mem
  kernelFin : ℕ
  memOff : ℕ
  ram : ℕ
  modulos : List Modulo
  /-- Entry point, stack and name of the kernel's own tasks. -/
  propias : ℕ → ℕ × ℕ × (ℕ → Byte)
  hfin : KERNEL_INI ≤ kernelFin
  hoff : 266 ≤ memOff
  hlim : memOff ≤ PAG_MEM
  hram : ram ≤ PAG_MEM
  alineado : ∀ m ∈ modulos, m.ini % PAG_LEN = 0
  lugar : ∀ m ∈ modulos, ∀ p, m.Pagina p → kernelFin / PAG_LEN < p ∧ p < memOff
  disjuntos : ∀ (i j : ℕ) (m n : Modulo), modulos[i]? = some m → modulos[j]? = some n →
    ∀ p, m.Pagina p → n.Pagina p → i = j
  busca : 0 ∉ (reservar (1 + CAN_TAB_PAG) (mmInicial kernelFin memOff ram)).1

/-- The window of the search does not start past its end. -/
def Maquina.Ventana (b : Maquina) : Prop := (b.memOff - 10) / 8 ≤ b.ram / 8

/-- The page of the kernel's directory when the search finds the first page above all. -/
def Maquina.raiz (b : Maquina) : ℕ := primera b.kernelFin b.memOff

/-- The pages of the kernel's directory and tables, in the order they are searched for. -/
def Maquina.paginas (b : Maquina) : List ℕ :=
  (reservar (1 + CAN_TAB_PAG) (mmInicial b.kernelFin b.memOff b.ram)).1

def Maquina.tablas (b : Maquina) : Kernel :=
  iniTss (iniLdt b.enlace { Kernel.cargado b.mem with mm := mmInicial b.kernelFin b.memOff b.ram })

def Maquina.propia (b : Maquina) (i : ℕ) (k : Kernel) : Kernel :=
  (execs b.enlace (b.propias i).1 (b.propias i).2.1 (b.propias i).2.2 k).2

def Maquina.arranque (b : Maquina) : Kernel :=
  b.propia 2 (b.propia 1 (b.propia 0 (iniPag b.tablas)))

/-! ### Runs -/

/-- A load: the module and its pages, the pages taken for the task, whether `exec` or `execd`
did it, and the grants made before. Load `c` makes task `3 + c`. -/
structure Carga where
  modulo : ℕ
  ini : ℕ
  pag : ℕ
  espacio : Espacio
  usuario : Bool
  antes : List (ℕ × ℕ)

/-- The loads and the grants made so far, a grant being the task and the page, and whether the
video pages have been given up. -/
structure Historia where
  cargas : List Carga
  concesiones : List (ℕ × ℕ)
  video : Bool

def Maquina.cargar (b : Maquina) (usuario : Bool) (m : Modulo) (k : Kernel) : Kernel :=
  if usuario then (exec b.enlace m.ini m.fin m.name k).2
  else (execd b.enlace m.ini m.fin m.name k).2

def Historia.cargar (g : Historia) (usuario : Bool) (i : ℕ) (m : Modulo) (k : Kernel) : Historia :=
  if Admite m.ini m.fin k then
    { g with cargas := g.cargas ++ [⟨i, m.ini / PAG_LEN, cantPaginas m.ini m.fin,
        Tasks.espacio m.ini m.fin k, usuario, g.concesiones⟩] }
  else g

/-- The first lines of `task_control`. -/
def soltarVideo (k : Kernel) : Kernel :=
  { k with mm := (unsetMem (unsetMem k.mm 0xb8).2 0xb9).2, tIndice := 0 }

/-- The page a call of `sys_mem` grants. -/
def concedida (ebx : ℕ) (mm : Mm) : Option ℕ :=
  let pedido := if ebx = 0 then buscarMem mm else ebx
  if ebx = 0 ∧ pedido = 0 then none
  else if (setMem mm pedido).1 = PAG_OK then some pedido else none

def Historia.conceder (g : Historia) (t ebx : ℕ) (mm : Mm) : Historia :=
  match concedida ebx mm with
  | some p => { g with concesiones := g.concesiones ++ [(t, p)] }
  | none => g

inductive Evento
  | carga
  | video
  | mem

/-- One step: a module not yet loaded is loaded, the video pages are given up, or a task calls
`sys_mem`. -/
inductive Paso (b : Maquina) : Kernel × Historia → Evento → Kernel × Historia → Prop
  | carga {k : Kernel} {g : Historia} {i : ℕ} {m : Modulo} (usuario : Bool)
      (hm : b.modulos[i]? = some m) (hi : ∀ e ∈ g.cargas, e.modulo ≠ i)
      (h0 : Admite m.ini m.fin k →
        0 ∉ (reservar 3 (setMems (m.ini / PAG_LEN) (cantPaginas m.ini m.fin) k.mm)).1) :
      Paso b (k, g) .carga (b.cargar usuario m k, g.cargar usuario i m k)
  | video {k : Kernel} {g : Historia} (hv : g.video = false) :
      Paso b (k, g) .video (soltarVideo k, { g with video := true })
  | mem {k : Kernel} {g : Historia} {t : ℕ} {r : Regs} (basura : ℕ → ℕ) (ht : Tarea k t)
      (hr : r.eax = SYS_MEM) (hp : r.ebx < PAG_MEM) :
      Paso b (k, g) .mem (llamar basura t r k, g.conceder t r.ebx k.mm)

def Inicial (b : Maquina) (s : Kernel × Historia) : Prop := s = (b.arranque, ⟨[], [], false⟩)

lemma cargar_eq (b : Maquina) (usuario : Bool) (m : Modulo) (k : Kernel) : b.cargar usuario m k =
    (Tasks.cargar (if usuario then USER_CS else KERNEL_CS) (if usuario then USER_DS else KERNEL_DS)
      b.enlace m.ini m.fin m.name k).2 := by
  cases usuario <;> rfl

/-! ### A call of `sys_mem` -/

section
variable (basura : ℕ → ℕ) (t : ℕ) (k : Kernel) {r : Regs}

lemma sysMem_concedida (ebx : ℕ) : (sysMem ebx k).2 =
    match concedida ebx k.mm with
    | some p => { k with mem := conceder p k, mm := (setMem k.mm p).2 }
    | none => k := by
  unfold sysMem concedida
  simp only
  generalize (if ebx = 0 then buscarMem k.mm else ebx) = pedido
  split_ifs <;> rfl

lemma llamar_mem (h : r.eax = SYS_MEM) :
    llamar basura t r k = guardar (sysMem r.ebx (entrar t r k)) := by
  rw [llamar_eq]
  unfold despachar
  simp [h]

lemma llamar_mem_mm (h : r.eax = SYS_MEM) : (llamar basura t r k).mm =
    match concedida r.ebx k.mm with
    | some p => (setMem k.mm p).2
    | none => k.mm := by
  rw [llamar_mem basura t k h, guardar, updTss_mm, sysMem_concedida, entrar_mm]
  split <;> rfl

lemma llamar_mem_mem (h : r.eax = SYS_MEM) : (llamar basura t r k).mem =
    match concedida r.ebx k.mm with
    | some p => conceder p (entrar t r k)
    | none => k.mem := by
  rw [llamar_mem basura t k h, guardar, updTss_mem, sysMem_concedida, entrar_mm]
  split <;> rfl

end

/-! ### The state before the modules -/

section
variable (b : Maquina)

lemma tablas_limpio : Limpio (iniLdt b.enlace { Kernel.cargado b.mem with
    mm := mmInicial b.kernelFin b.memOff b.ram }) b.tablas := iniTss_limpio _

lemma tablas_mm : b.tablas.mm = mmInicial b.kernelFin b.memOff b.ram := (tablas_limpio b).mm

lemma tablas_mem : b.tablas.mem = b.mem := (tablas_limpio b).mem

lemma tablas_inicio : Inicio b.enlace b.tablas := ⟨_, rfl, rfl⟩

lemma tablas_registro : Registro 0 b.tablas := (tablas_inicio b).registro

@[simp] lemma propia_mem (i : ℕ) (k : Kernel) : (b.propia i k).mem = k.mem := rfl
@[simp] lemma propia_mm (i : ℕ) (k : Kernel) : (b.propia i k).mm = k.mm := rfl
@[simp] lemma propia_gDir (i : ℕ) (k : Kernel) : (b.propia i k).gDir = k.gDir := rfl
@[simp] lemma propia_gTab (i : ℕ) (k : Kernel) : (b.propia i k).gTab = k.gTab := rfl
@[simp] lemma propia_rDrv (i : ℕ) (k : Kernel) : (b.propia i k).rDrv = k.rDrv := rfl

lemma propia_registro (i : ℕ) {n : ℕ} {k : Kernel} (h : Registro n k) :
    Registro (n + 1) (b.propia i k) := execs_registro _ _ _ _ h

lemma propia_cr3 (i : ℕ) {n : ℕ} {k : Kernel} (h : Registro n k) (hn : n < MAX_TASK - 1) (j : ℕ) :
    ((b.propia i k).tss (some j)).cr3 = if j = n then k.gDir else (k.tss (some j)).cr3 := by
  have htl := h.tssLibre
  rw [if_pos hn] at htl
  unfold Maquina.propia execs
  simp only [setTss_fst, htl, Function.update_apply, Option.some.injEq]
  split
  · rfl
  · next hne =>
    rw [setTss_snd, htl, if_neg fun hc => hne (Option.some.inj hc.1)]

lemma iniPag_registro {n : ℕ} {k : Kernel} (h : Registro n k) : Registro n (iniPag k) :=
  h.congr (fun _ => rfl) rfl (fun _ => rfl) fun _ => rfl

lemma arranque_registro : Registro 3 b.arranque :=
  propia_registro b _ (propia_registro b _ (propia_registro b _
    (iniPag_registro (tablas_registro b))))

lemma arranque_arranque : Arranque b.enlace b.arranque := by
  have h : Arranque b.enlace b.tablas := .init (tablas_inicio b)
  exact (((h.step (a := ()) .iniPag).step (a := ()) (.execs _ _ _)).step (a := ())
    (.execs _ _ _)).step (a := ()) (.execs _ _ _)

lemma propias_cr3 {k : Kernel} (h : Registro 0 k) {t : ℕ} (ht : t < 3) :
    ((b.propia 2 (b.propia 1 (b.propia 0 k))).tss (some t)).cr3 = k.gDir := by
  have h1 := propia_registro b 0 h
  have h2 := propia_registro b 1 h1
  rw [propia_cr3 b 2 h2 (by decide), propia_cr3 b 1 h1 (by decide), propia_cr3 b 0 h (by decide)]
  simp only [propia_gDir]
  split_ifs <;> first | rfl | omega

lemma arranque_cr3 {t : ℕ} (ht : t < 3) :
    (b.arranque.tss (some t)).cr3 = (iniPag b.tablas).gDir :=
  propias_cr3 b (iniPag_registro (tablas_registro b)) ht

lemma arranque_mm : b.arranque.mm =
    (reservar (1 + CAN_TAB_PAG) (mmInicial b.kernelFin b.memOff b.ram)).2 := by
  unfold Maquina.arranque
  rw [propia_mm, propia_mm, propia_mm, iniPag_mm, tablas_mm]

lemma raiz_cabe (hv : b.Ventana) : b.raiz + (1 + CAN_TAB_PAG) ≤ 8 * (b.ram / 8) := by
  have hn : 1 + CAN_TAB_PAG = 1024 + 1 := rfl
  have h0 := b.busca
  rw [hn] at h0 ⊢
  have := (mmInicial_lleno b.hfin b.hoff b.hlim).cabe
    (by rw [mmInicial_inicio b.hoff b.hlim, mmInicial_memMax]; exact hv)
    (by rw [mmInicial_memMax]; exact b.hram) h0
  rwa [mmInicial_memMax] at this

lemma paginas_eq (hv : b.Ventana) : b.paginas = List.range' b.raiz (1 + CAN_TAB_PAG) :=
  congrArg Prod.fst (reservar_inicial b.hfin b.hoff b.hlim b.hram (raiz_cabe b hv))

lemma arranque_mm_eq (hv : b.Ventana) : b.arranque.mm =
    setMems b.raiz (1 + CAN_TAB_PAG) (mmInicial b.kernelFin b.memOff b.ram) := by
  rw [arranque_mm]
  exact congrArg Prod.snd (reservar_inicial b.hfin b.hoff b.hlim b.hram (raiz_cabe b hv))

end

end Silicio.Boot
