import Silicio.Layout
import Silicio.Exec

/-!
The address space `exec` builds.

The new task's first table is a copy of the kernel's first with the module put in at `V_USER`
and the stack at `V_STACK`; its directory is a copy of the kernel's with that table put in. The
two pages are new, so the copies are exact, the kernel's own tables stay, and whatever is not
the module or the stack is seen as the kernel sees it, and closed.
-/

namespace Silicio.Space

open Silicio.Loop Silicio.Bitmap Silicio.Bytes Silicio.Defs Silicio.Mm Silicio.Mmu Silicio.Paging
open Silicio.Tasks Silicio.Registry Silicio.Runs Silicio.Boot Silicio.Owners Silicio.Tables
open Silicio.Exec Silicio.Layout

/-! ### Runs -/

def Halla (start fin : ℕ) (k : Kernel) : Prop :=
  Admite start fin k →
    0 ∉ (reservar 3 (setMems (start / PAG_LEN) (cantPaginas start fin) k.mm)).1

/-- One call of `execs`, `exec` or `execd`, with a module that lies in memory. -/
inductive Carga (l : Link) (k : Kernel) : Kernel → Prop
  | execs (start pila : ℕ) (name : ℕ → Byte) : Carga l k (execs l start pila name k).2
  | exec (start fin : ℕ) (name : ℕ → Byte) (hle : start ≤ fin) (h32 : fin < 2 ^ 32)
      (h0 : Halla start fin k) : Carga l k (exec l start fin name k).2
  | execd (start fin : ℕ) (name : ℕ → Byte) (hle : start ≤ fin) (h32 : fin < 2 ^ 32)
      (h0 : Halla start fin k) : Carga l k (execd l start fin name k).2

/-- What `ini_mm`, `ini_pag` and any number of loads leave; the modules may be others than those
the machine was booted with. -/
def Cargado (b : Maquina) : Kernel → Prop :=
  Reach (fun k => k = iniPag b.tablas) fun k (_ : Unit) k' => Carga b.enlace k k'

variable {b : Maquina} {k k' : Kernel} {start fin : ℕ}

/-! ### The kernel's tables -/

/-- The kernel's directory and tables are where `ini_pag` put them, map every page to itself and
are closed, and their pages are taken. -/
structure Nucleo (b : Maquina) (k : Kernel) : Prop where
  gDir : k.gDir = 4096 * b.raiz
  gTab : k.gTab = 4096 * (b.raiz + 1)
  dir : ∀ r < 1024, word k.mem b.raiz r = 4096 * (b.raiz + 1 + r) + 1
  tab : ∀ r < 1024, ∀ j < 1024, word k.mem (b.raiz + 1 + r) j = 4096 * (1024 * r + j) + 1
  ocupadas : ∀ p, b.raiz ≤ p → p ≤ b.raiz + 1024 → ocupada k.mm p = true

/-- What stands in every state: the bounds of the search, the pages below its start taken, and the
kernel's tables, if the search has a window. -/
structure Inv (b : Maquina) (k : Kernel) : Prop where
  memOff : k.mm.memOff = b.memOff
  memMax : k.mm.memMax = b.ram
  bajas : ∀ p, 256 ≤ p → p < b.memOff → ocupada k.mm p = true
  nucleo : b.Ventana → Nucleo b k

lemma memOff_le (b : Maquina) : 266 ≤ b.memOff ∧ b.memOff ≤ 2 ^ 20 := by
  have hlim := b.hlim
  simp only [PAG_MEM] at hlim
  exact ⟨b.hoff, by omega⟩

lemma Inv.inicio (h : Inv b k) : inicio k.mm = (b.memOff - 10) / 8 := by
  obtain ⟨h1, h2⟩ := memOff_le b
  rw [inicio_of_le (by rw [h.memOff]; omega) (by rw [h.memOff]; omega), h.memOff]

lemma inicial_inv (b : Maquina) : Inv b (iniPag b.tablas) := by
  obtain ⟨h1, h2⟩ := memOff_le b
  have hmm : (iniPag b.tablas).mm =
      (reservar (1 + CAN_TAB_PAG) (mmInicial b.kernelFin b.memOff b.ram)).2 := by
    rw [iniPag_mm, tablas_mm]
  refine ⟨?_, ?_, fun p h256 hlt => ?_, fun hv => ?_⟩
  · rw [hmm, reservar_memOff, mmInicial_memOff]
  · rw [hmm, reservar_memMax, mmInicial_memMax]
  · have hle : b.memOff ≤ primera b.kernelFin b.memOff := le_max_left _ _
    rw [hmm, reservar_ocupada, mmInicial_ocupada b.hfin (by simp only [PAG_MEM]; omega),
      decide_eq_true_eq]
    exact Or.inl (Or.inr ⟨h256, by omega⟩)
  · have hL : Lleno b.tablas.mm b.raiz := by
      rw [tablas_mm]
      exact mmInicial_lleno b.hfin b.hoff b.hlim
    have hM : b.tablas.mm.memMax = b.ram := by
      rw [tablas_mm]
      exact mmInicial_memMax
    have hc := raiz_cabe b hv
    obtain ⟨h1, h2, h3, h4, h5, -⟩ := iniPag_spec hL
      (by rw [hM]; simp only [CAN_TAB_PAG] at hc ⊢; omega) (by rw [hM]; exact b.hram)
    refine ⟨h1, h2, h4, fun r hr j hj => ?_, fun p hlo hhi => ?_⟩
    · rw [h5 r hr j hj, Nat.mul_comm r]
    · rw [h3, setMems_ocupada, Bool.or_eq_true, decide_eq_true_eq]
      exact Or.inr ⟨hlo, by simp only [CAN_TAB_PAG]; omega⟩

/-! ### A load -/

/-- The pages a load takes, when its searches do not fail: new, different, below 4 GB. -/
lemma Inv.paginas (h : Inv b k) (hv : b.Ventana)
    (h0 : 0 ∉ (reservar 3 (setMems (start / PAG_LEN) (cantPaginas start fin) k.mm)).1) :
    let e := espacio start fin k
    (e.dir ≠ e.tabla ∧ e.dir ≠ e.pila ∧ e.tabla ≠ e.pila) ∧
      ∀ p, p = e.dir ∨ p = e.tabla ∨ p = e.pila → ocupada k.mm p = false ∧ p < 2 ^ 20 := by
  intro e
  have hw : Mm.inicio k.mm ≤ k.mm.memMax / 8 := by
    rw [h.inicio, h.memMax]
    exact hv
  have hram := b.hram
  have hM := h.memMax
  simp only [PAG_MEM] at hram
  obtain ⟨hne, hall⟩ := espacio_libre (m := ⟨start, fin, fun _ => 0⟩) hw (by omega) h0
  refine ⟨hne, fun p hp => ?_⟩
  obtain ⟨hl, hlt⟩ := hall p hp
  rw [setMems_ocupada, Bool.or_eq_false_iff] at hl
  exact ⟨hl.1, by omega⟩

lemma rd8_carga (cs ds : ℕ) (l : Link) (name : ℕ → Byte) (ha : Admite start fin k)
    (hd : (espacio start fin k).dir < 2 ^ 20) (ht : (espacio start fin k).tabla < 2 ^ 20) {x : ℕ}
    (hx : x < 2 ^ 32) (hxd : x / 4096 ≠ (espacio start fin k).dir)
    (hxt : x / 4096 ≠ (espacio start fin k).tabla) :
    rd8 (cargar cs ds l start fin name k).2.mem x = rd8 k.mem x := by
  rw [cargar_mem _ _ _ _ ha]
  exact rd8_cargar _ _ _ hd ht ha.2 hx hxd hxt

lemma word_congr {m m' : Mem} {p j : ℕ} (hp : p < 2 ^ 20) (hj : j < 1024)
    (h : ∀ x < 2 ^ 32, x / 4096 = p → rd8 m' x = rd8 m x) : word m' p j = word m p j :=
  rd32_congr fun c hc => h _ (by omega) (by omega)

lemma Nucleo.mem_congr (h : Nucleo b k) (hv : b.Ventana) {m : Mem}
    (hm : ∀ x < 2 ^ 32, b.raiz ≤ x / 4096 → x / 4096 ≤ b.raiz + 1024 → rd8 m x = rd8 k.mem x) :
    (∀ r < 1024, word m b.raiz r = 4096 * (b.raiz + 1 + r) + 1) ∧
      ∀ r < 1024, ∀ j < 1024, word m (b.raiz + 1 + r) j = 4096 * (1024 * r + j) + 1 := by
  have hr := raiz_lt hv
  refine ⟨fun r hr' => ?_, fun r hr' j hj => ?_⟩
  · rw [word_congr (by omega) hr' fun x hx hp => hm x hx (by omega) (by omega), h.dir r hr']
  · rw [word_congr (by omega) hj fun x hx hp => hm x hx (by omega) (by omega), h.tab r hr' j hj]

lemma Nucleo.lejos (h : Nucleo b k) {p : ℕ} (hp : ocupada k.mm p = false) :
    ¬ (b.raiz ≤ p ∧ p ≤ b.raiz + 1024) := by
  rintro ⟨hlo, hhi⟩
  rw [h.ocupadas p hlo hhi] at hp
  cases hp

lemma Nucleo.identidad (h : Nucleo b k) (hv : b.Ventana) {v : ℕ} (h32 : v < 2 ^ 32) :
    phys k.mem k.gDir v = v := by
  have hr := raiz_lt hv
  have hpde : pde k.mem k.gDir v = 4096 * (b.raiz + 1 + v / 2 ^ 22) + 1 := by
    rw [pde_eq (d := b.raiz) (by omega) (by rw [h.gDir]; omega), h.dir _ (by omega)]
  have hpte := pte_eq (t := b.raiz + 1 + v / 2 ^ 22) (by rw [hpde]; omega)
  rw [h.tab _ (by omega) _ (by omega)] at hpte
  rw [phys_eq, hpte]
  omega

lemma Inv.cargar (h : Inv b k) (cs ds : ℕ) (name : ℕ → Byte) (h0 : Halla start fin k) :
    Inv b (cargar cs ds b.enlace start fin name k).2 := by
  by_cases ha : Admite start fin k
  swap
  · rwa [cargar_rechazo _ _ _ _ ha]
  have hocc : ∀ p, ocupada k.mm p = true →
      ocupada (Tasks.cargar cs ds b.enlace start fin name k).2.mm p = true := by
    intro p hp
    rw [cargar_mm _ _ _ _ ha, reservar_ocupada, setMems_ocupada, hp]
    exact Or.inl rfl
  refine ⟨?_, ?_, fun p h1 h2 => hocc p (h.bajas p h1 h2), fun hv => ?_⟩
  · rw [cargar_mm _ _ _ _ ha, reservar_memOff, setMems_memOff, h.memOff]
  · rw [cargar_mm _ _ _ _ ha, reservar_memMax, setMems_memMax, h.memMax]
  · have hn := h.nucleo hv
    obtain ⟨-, hfree⟩ := h.paginas hv (h0 ha)
    obtain ⟨hdl, hd⟩ := hfree _ (Or.inl rfl)
    obtain ⟨htl, ht⟩ := hfree _ (Or.inr (Or.inl rfl))
    obtain ⟨hdir, htab⟩ := hn.mem_congr hv fun x hx hlo hhi =>
      rd8_carga cs ds b.enlace name ha hd ht hx (fun he => hn.lejos hdl (he ▸ ⟨hlo, hhi⟩))
        fun he => hn.lejos htl (he ▸ ⟨hlo, hhi⟩)
    exact ⟨(cargar_gDir _ _ _ _).trans hn.gDir, (cargar_gTab _ _ _ _).trans hn.gTab, hdir, htab,
      fun p hlo hhi => hocc p (hn.ocupadas p hlo hhi)⟩

/-- **The step lemma.** -/
lemma Inv.carga (h : Inv b k) (hc : Carga b.enlace k k') : Inv b k' := by
  cases hc with
  | execs start pila name =>
    exact ⟨h.memOff, h.memMax, h.bajas, fun hv =>
      ⟨(h.nucleo hv).gDir, (h.nucleo hv).gTab, (h.nucleo hv).dir, (h.nucleo hv).tab,
        (h.nucleo hv).ocupadas⟩⟩
  | exec start fin name _ _ h0 => exact h.cargar _ _ name h0
  | execd start fin name _ _ h0 => exact h.cargar _ _ name h0

lemma cargado_inv (h : Cargado b k) : Inv b k := by
  refine h.invariant (fun k hk => ?_) fun k _ k' hi hc => hi.carga hc
  rw [hk]
  exact inicial_inv b

/-! ### The new address space -/

def DeCodigo (start fin v : ℕ) : Prop :=
  V_USER ≤ v / 4096 ∧ v / 4096 < V_USER + cantPaginas start fin

def DePila (v : ℕ) : Prop := v / 4096 = V_STACK

/-- What task `t` of `k'` sees, `k` being the state before it was loaded: the module, and a stack on
a page that was free, both open; the rest as the kernel sees it, and closed. It starts in the one
and with its stack pointer in the other, and the kernel's directory and tables are what they
were. -/
structure Mapeada (start fin : ℕ) (k k' : Kernel) (t : ℕ) : Prop where
  codigo : ∀ v, DeCodigo start fin v → UserWrite k'.mem (k'.tssOf t).cr3 v ∧
    phys k'.mem (k'.tssOf t).cr3 v = 4096 * (start / 4096 + (v / 4096 - V_USER)) + v % 4096
  pila : ∀ v, DePila v → UserWrite k'.mem (k'.tssOf t).cr3 v ∧
    phys k'.mem (k'.tssOf t).cr3 v = 4096 * (k'.tssOf t).pagStack + v % 4096
  nueva : ocupada k.mm (k'.tssOf t).pagStack = false ∧ ocupada k'.mm (k'.tssOf t).pagStack = true
  resto : ∀ v < 2 ^ 32, ¬ DeCodigo start fin v → ¬ DePila v →
    phys k'.mem (k'.tssOf t).cr3 v = phys k.mem k.gDir v ∧
      (Supervisor (pde k'.mem (k'.tssOf t).cr3 v) ∨ Supervisor (pte k'.mem (k'.tssOf t).cr3 v))
  eip : 0 < cantPaginas start fin → DeCodigo start fin (k'.tssOf t).eip
  esp : DePila (k'.tssOf t).esp
  nucleo : k'.gDir = k.gDir ∧ k'.gTab = k.gTab ∧ ∀ x < 2 ^ 32,
    (x / 4096 = k.gDir / 4096 ∨ ∃ r < 1024, x / 4096 = word k.mem (k.gDir / 4096) r / 4096) →
      rd8 k'.mem x = rd8 k.mem x

/-- Three free pages that a search can return make a window, and are enough for a load whose
module is already marked. -/
lemma Inv.tres (h : Inv b k) (hP : 3 ≤ (candidatas k.mm).card)
    (hmod : ∀ c < cantPaginas start fin, ocupada k.mm (start / PAG_LEN + c) = true) :
    b.Ventana ∧ 0 ∉ (reservar 3 (setMems (start / PAG_LEN) (cantPaginas start fin) k.mm)).1 := by
  obtain ⟨h1, h2⟩ := memOff_le b
  have hram := b.hram
  have hM := h.memMax
  simp only [PAG_MEM] at hram
  have hi := h.inicio
  have hset : candidatas (setMems (start / PAG_LEN) (cantPaginas start fin) k.mm) =
      candidatas k.mm := by
    ext p
    unfold candidatas
    simp only [Mm.inicio, setMems_memOff, setMems_memMax, Finset.mem_filter, setMems_ocupada,
      Bool.or_eq_false_iff, decide_eq_false_iff_not]
    refine and_congr_right fun _ => and_iff_left_of_imp fun hp hc => ?_
    have := hmod (p - start / PAG_LEN) (by omega)
    rw [Nat.add_sub_cancel' hc.1, hp] at this
    cases this
  have hv : b.Ventana := by
    by_contra hv
    unfold Maquina.Ventana at hv
    have hvacia : candidatas k.mm = ∅ := by
      refine Finset.eq_empty_of_forall_notMem fun p hp => ?_
      have hl := libre_of_candidata hp
      unfold candidatas at hp
      rw [if_neg (by rw [hi, hM]; omega), Finset.mem_filter, Finset.mem_Ico] at hp
      rw [h.bajas p (by omega) (by omega)] at hl
      cases hl
    rw [hvacia, Finset.card_empty] at hP
    omega
  refine ⟨hv, fun h0 => ?_⟩
  have hres := (@reservar_iff 3 (setMems (start / PAG_LEN) (cantPaginas start fin) k.mm)
    (by rw [setMems_memMax]; omega)).mpr ⟨by rw [hset]; exact hP, fun _ => ?_⟩
  · exact (hres.2 0 h0).1 rfl
  · rw [hset]
    intro hc
    unfold candidatas at hc
    rw [if_pos (by rw [hi, hM]; exact hv), Finset.mem_filter, Finset.mem_Ico] at hc
    omega

/-- The words of memory after a load: those of `Tables`, for a machine with this load alone. -/
lemma words_nuevas (hn : Nucleo b k) (hv : b.Ventana) (cs ds : ℕ) (l : Link) (name : ℕ → Byte)
    (ha : Admite start fin k) (hmod : 0 < cantPaginas start fin →
      start / PAG_LEN + cantPaginas start fin ≤ 2 ^ 20)
    (hne : (espacio start fin k).dir ≠ (espacio start fin k).tabla)
    (hfree : ∀ p, p = (espacio start fin k).dir ∨ p = (espacio start fin k).tabla ∨
      p = (espacio start fin k).pila → ocupada k.mm p = false ∧ p < 2 ^ 20) :
    let m' := (cargar cs ds l start fin name k).2.mem
    (∀ p < 2 ^ 20, p ≠ (espacio start fin k).dir → p ≠ (espacio start fin k).tabla → ∀ j < 1024,
      word m' p j = word k.mem p j) ∧
    (∀ r < 1024, word m' (espacio start fin k).dir r =
      if r = 0 then 4096 * (espacio start fin k).tabla + 7 else word k.mem b.raiz r) ∧
    (∀ j < 1024, Especial (cantPaginas start fin) j → word m' (espacio start fin k).tabla j =
      4096 * destino (start / PAG_LEN) (cantPaginas start fin) (espacio start fin k).pila j + 7) ∧
    ∀ j < 1024, ¬ Especial (cantPaginas start fin) j →
      word m' (espacio start fin k).tabla j = word k.mem (b.raiz + 1) j := by
  intro m'
  set e : Boot.Carga := ⟨0, start / PAG_LEN, cantPaginas start fin, espacio start fin k, true, []⟩
    with he
  have hD : Distintas b ⟨[] ++ [e], [], false⟩ := by
    have hdir := (hfree _ (Or.inl rfl)).1
    have htab := (hfree _ (Or.inr (Or.inl rfl))).1
    have hce : ∀ x ∈ [] ++ [e], x = e := fun x hx => List.mem_singleton.mp hx
    have hcero : ∀ (c : ℕ) (x : Boot.Carga), ([] ++ [e])[c]? = some x → c = 0 := by
      intro c x hx
      have := (List.getElem?_eq_some_iff.mp hx).1
      simp only [List.nil_append, List.length_singleton] at this
      omega
    refine ⟨fun x hx hc => ?_, fun x hx hc => ?_, fun x hx y hy => ?_, ?_, ?_⟩
    · rw [hce x hx] at hc
      exact hn.lejos hdir hc
    · rw [hce x hx] at hc
      exact hn.lejos htab hc
    · rw [hce x hx, hce y hy]
      exact hne
    all_goals
      intro c c' x x' hx hx' _
      rw [hcero c x hx, hcero c' x' hx']
  have hm : m' = directorioUsuario (4096 * b.raiz) e.espacio.dir e.espacio.tabla
      (tablaUsuario (4096 * (b.raiz + 1)) e.espacio.tabla e.pag e.espacio.pila
        (fun c => e.ini + c) k.mem) := by
    rw [← hn.gDir, ← hn.gTab]
    exact cargar_mem cs ds l name ha
  exact words_carga (g := ⟨[], [], false⟩) (raiz_lt hv) hD (hfree _ (Or.inl rfl)).2
    (hfree _ (Or.inr (Or.inl rfl))).2 (hfree _ (Or.inr (Or.inr rfl))).2 ha.2 hmod hm

/-- The task in slot `t` of `k'`: its directory and its table, of a load made in `k`, and the
registers it starts with. -/
structure Nueva (b : Maquina) (start fin : ℕ) (k k' : Kernel) (t : ℕ) : Prop where
  dirLibre : ocupada k.mm (espacio start fin k).dir = false
  tablaLibre : ocupada k.mm (espacio start fin k).tabla = false
  bajo : (espacio start fin k).dir < 2 ^ 20
  cr3 : (k'.tssOf t).cr3 = 4096 * (espacio start fin k).dir
  dir : ∀ r < 1024, word k'.mem (espacio start fin k).dir r =
    if r = 0 then 4096 * (espacio start fin k).tabla + 7 else 4096 * (b.raiz + 1 + r) + 1
  abierta : ∀ j < 1024, Especial (cantPaginas start fin) j →
    word k'.mem (espacio start fin k).tabla j =
      4096 * destino (start / PAG_LEN) (cantPaginas start fin) (k'.tssOf t).pagStack j + 7
  cerrada : ∀ j < 1024, ¬ Especial (cantPaginas start fin) j →
    word k'.mem (espacio start fin k).tabla j = 4096 * j + 1
  comunes : ∀ r < 1024, ∀ j < 1024, word k'.mem (b.raiz + 1 + r) j = 4096 * (1024 * r + j) + 1
  eip : (k'.tssOf t).eip = V_USER * 4096
  esp : (k'.tssOf t).esp = V_STACK * 4096 + 0xfff
  pila : (k'.tssOf t).pagStack = (espacio start fin k).pila

section
variable {t v : ℕ} (h : Nueva b start fin k k' t)
include h

lemma Nueva.primera (hlt : v < 2 ^ 22) :
    pde k'.mem (k'.tssOf t).cr3 v = 4096 * (espacio start fin k).tabla + 7 ∧
      pte k'.mem (k'.tssOf t).cr3 v = word k'.mem (espacio start fin k).tabla (v / 4096) := by
  have hd := h.bajo
  have hpde : pde k'.mem (k'.tssOf t).cr3 v = 4096 * (espacio start fin k).tabla + 7 := by
    rw [pde_eq hd (by rw [h.cr3]; omega), h.dir _ (by omega), if_pos (by omega)]
  have hpte := pte_eq (t := (espacio start fin k).tabla) (by rw [hpde]; omega)
  rw [show v / 4096 % 1024 = v / 4096 by omega] at hpte
  exact ⟨hpde, hpte⟩

lemma Nueva.otra (hge : 2 ^ 22 ≤ v) (h32 : v < 2 ^ 32) :
    pde k'.mem (k'.tssOf t).cr3 v % 8 = 1 ∧
      pte k'.mem (k'.tssOf t).cr3 v = v / 4096 * 4096 + 1 := by
  have hd := h.bajo
  have hpde : pde k'.mem (k'.tssOf t).cr3 v = 4096 * (b.raiz + 1 + v / 2 ^ 22) + 1 := by
    rw [pde_eq hd (by rw [h.cr3]; omega), h.dir _ (by omega), if_neg (by omega)]
  have hpte := pte_eq (t := b.raiz + 1 + v / 2 ^ 22) (by rw [hpde]; omega)
  rw [h.comunes _ (by omega) _ (by omega)] at hpte
  exact ⟨by omega, by omega⟩

lemma Nueva.abre (hlt : v < 2 ^ 22) (hE : Especial (cantPaginas start fin) (v / 4096)) :
    UserWrite k'.mem (k'.tssOf t).cr3 v ∧ phys k'.mem (k'.tssOf t).cr3 v =
      4096 * destino (start / PAG_LEN) (cantPaginas start fin) (k'.tssOf t).pagStack (v / 4096) +
        v % 4096 := by
  obtain ⟨hpde, hpte⟩ := h.primera hlt
  rw [h.abierta _ (by omega) hE] at hpte
  rw [userWrite_iff, phys_eq, hpde, hpte]
  omega

lemma Nueva.cierra (h32 : v < 2 ^ 32) (hE : ¬ Especial (cantPaginas start fin) (v / 4096)) :
    phys k'.mem (k'.tssOf t).cr3 v = v ∧ (Supervisor (pde k'.mem (k'.tssOf t).cr3 v) ∨
      Supervisor (pte k'.mem (k'.tssOf t).cr3 v)) := by
  rcases Nat.lt_or_ge v (2 ^ 22) with hlt | hge
  · obtain ⟨-, hpte⟩ := h.primera hlt
    rw [h.cerrada _ (by omega) hE] at hpte
    rw [phys_eq, hpte]
    exact ⟨by omega, Or.inr (and_four_eq_zero (by omega))⟩
  · obtain ⟨hpde, hpte⟩ := h.otra hge h32
    rw [phys_eq, hpte]
    exact ⟨by omega, Or.inl (and_four_eq_zero (by omega))⟩

end

/-- **One load** makes such a task. -/
lemma Inv.nueva (h : Inv b k) (hle : start ≤ fin) (h32 : fin < 2 ^ 32) (ha : Admite start fin k)
    (htss : ∃ j < MAX_TASK - 1, (k.tss (some j)).cs = 0) (hv : b.Ventana)
    (h0 : 0 ∉ (reservar 3 (setMems (start / PAG_LEN) (cantPaginas start fin) k.mm)).1)
    (l : Link) (name : ℕ → Byte) :
    Nueva b start fin k (exec l start fin name k).2 (tareaLibre k.rTareas) := by
  have hn := h.nucleo hv
  have hr := raiz_lt hv
  obtain ⟨⟨hdt, -, -⟩, hfree⟩ := h.paginas hv h0
  obtain ⟨hdl, hd⟩ := hfree _ (Or.inl rfl)
  obtain ⟨htl, ht⟩ := hfree _ (Or.inr (Or.inl rfl))
  have hcant : 0 < cantPaginas start fin → start / PAG_LEN + cantPaginas start fin ≤ 2 ^ 20 := by
    simp only [cantPaginas, PAG_LEN]
    intro _
    split_ifs <;> omega
  obtain ⟨hw, hwd, hwt, hwt'⟩ := words_nuevas hn hv USER_CS USER_DS l name ha hcant hdt hfree
  obtain ⟨j, hj⟩ := exists_tssLibre.mpr htss
  obtain ⟨heip, hesp⟩ := cargar_arranca USER_CS USER_DS l name ha hj
  obtain ⟨-, hcr3, -, -, -, -, hpila⟩ := cargar_tss USER_CS USER_DS l name ha hj
  rw [← cargar_tssOf USER_CS USER_DS l name ha hj] at heip hesp hcr3 hpila
  rw [Nat.mod_eq_of_lt (by omega)] at hcr3
  refine ⟨hdl, htl, hd, hcr3, fun r hr' => ?_, fun j hj hE => ?_, fun j hj hE => ?_,
    fun r hr' j hj => ?_, heip, hesp, hpila⟩
  · exact (hwd r hr').trans (by rw [hn.dir r hr'])
  · refine (hwt j hj hE).trans ?_
    rw [← hpila]
    rfl
  · refine (hwt' j hj hE).trans ?_
    have := hn.tab 0 (by omega) j hj
    rwa [Nat.add_zero, Nat.mul_zero, Nat.zero_add] at this
  · refine (hw _ (by omega) (fun he => hn.lejos hdl ?_) (fun he => hn.lejos htl ?_) j hj).trans
      (hn.tab r hr' j hj)
    · omega
    · omega

lemma Inv.mapeada (h : Inv b k) (hle : start ≤ fin) (h32 : fin < 2 ^ 32)
    (ha : Admite start fin k) (htss : ∃ j < MAX_TASK - 1, (k.tss (some j)).cs = 0)
    (hP : 3 ≤ (candidatas k.mm).card)
    (hmod : ∀ c < cantPaginas start fin, ocupada k.mm (start / PAG_LEN + c) = true)
    (l : Link) (name : ℕ → Byte) :
    Mapeada start fin k (exec l start fin name k).2 (tareaLibre k.rTareas) := by
  obtain ⟨hv, h0⟩ := h.tres hP hmod
  have hn := h.nucleo hv
  have hnueva := h.nueva hle h32 ha htss hv h0 l name
  obtain ⟨-, hfree⟩ := h.paginas hv h0
  have hP14 := ha.2
  simp only [MAX_PAG_DRIVER] at hP14
  refine ⟨fun v hc => ?_, fun v hs => ?_, ⟨?_, ?_⟩, fun v hv32 hc hs => ?_, fun hpos => ?_, ?_, ?_⟩
  · obtain ⟨h1, h2⟩ := hc
    simp only [V_USER] at h1 h2 ⊢
    obtain ⟨hu, hph⟩ := hnueva.abre (v := v) (by omega) (Or.inl ⟨h1, h2⟩)
    rw [destino, if_pos ⟨h1, h2⟩] at hph
    exact ⟨hu, hph⟩
  · have hs' : v / 4096 = 0x3ff := hs
    obtain ⟨hu, hph⟩ := hnueva.abre (v := v) (by omega) (Or.inr hs)
    rw [destino, if_neg (by simp only [V_USER]; omega), if_pos hs'] at hph
    exact ⟨hu, hph⟩
  · rw [hnueva.pila]
    exact (hfree _ (Or.inr (Or.inr rfl))).1
  · rw [hnueva.pila, exec, cargar_mm _ _ _ _ ha, reservar_ocupada, reservar_espacio]
    exact Or.inr (by simp)
  · rw [hn.identidad hv hv32]
    exact hnueva.cierra hv32 fun hE => hE.elim hc hs
  · rw [hnueva.eip]
    simp only [DeCodigo, V_USER]
    omega
  · rw [hnueva.esp]
    rfl
  · refine ⟨cargar_gDir _ _ _ _, cargar_gTab _ _ _ _, fun x hx hxp => ?_⟩
    rw [hn.gDir, Nat.mul_div_cancel_left _ (by decide)] at hxp
    have hrango : b.raiz ≤ x / 4096 ∧ x / 4096 ≤ b.raiz + 1024 := by
      rcases hxp with hxp | ⟨r, hr', hxp⟩
      · omega
      · rw [hn.dir r hr'] at hxp
        omega
    exact rd8_carga _ _ l name ha hnueva.bajo (hfree _ (Or.inr (Or.inl rfl))).2 hx
      (fun he => hn.lejos hnueva.dirLibre (he ▸ hrango))
      fun he => hn.lejos hnueva.tablaLibre (he ▸ hrango)

lemma tareaLibre_ne_zero {r : ℕ → Run} (h0 : (r 0).task ≠ 0) (h : ∃ t < MAX_TASK, (r t).task = 0) :
    tareaLibre r ≠ 0 := by
  obtain ⟨t, ht, hlibre⟩ := h
  have hlt : scan (fun t => (r t).task == 0) MAX_TASK 0 < 0 + MAX_TASK :=
    scan_lt_iff.mpr ⟨t, Nat.zero_le t, by omega, by simpa using hlibre⟩
  have hat := at_scan hlt
  unfold tareaLibre
  simp only
  rw [if_pos (by omega)]
  intro hc
  rw [hc] at hat
  exact h0 (by simpa using hat)

/-- **The address space `exec` builds**, in every state that loads can leave, for every module that
lies in memory. -/
theorem exec_mapea (h : Cargado b k) (hle : start ≤ fin) (h32 : fin < 2 ^ 32)
    (hpag : cantPaginas start fin ≤ MAX_PAG_DRIVER)
    (hcero : (k.rTareas 0).task ≠ 0) (hlugar : ∃ t < MAX_TASK, (k.rTareas t).task = 0)
    (htss : ∃ j < MAX_TASK - 1, (k.tss (some j)).cs = 0) (hP : 3 ≤ (candidatas k.mm).card)
    (hmod : ∀ c < cantPaginas start fin, ocupada k.mm (start / PAG_LEN + c) = true)
    (name : ℕ → Byte) :
    Mapeada start fin k (exec b.enlace start fin name k).2 (exec b.enlace start fin name k).1 := by
  have ha : Admite start fin k := ⟨tareaLibre_ne_zero hcero hlugar, hpag⟩
  have hfst : (exec b.enlace start fin name k).1 = tareaLibre k.rTareas := cargar_fst _ _ _ _ _ _ _
  rw [hfst]
  exact (cargado_inv h).mapeada hle h32 ha htss hP hmod b.enlace name

/-- After the kernel's own tasks, the first of three modules. -/
theorem exec_mapea_tres : Mapeada 0x170000 0x171000 tres.arranque
    (exec tres.enlace 0x170000 0x171000 (fun _ => 0) tres.arranque).2
    (exec tres.enlace 0x170000 0x171000 (fun _ => 0) tres.arranque).1 := by
  have hreg : Registro 3 tres.arranque := arranque_registro tres
  have hL : Lleno tres.arranque.mm 1397 := arranque_lleno tres_ventana
  have hcant : cantPaginas 0x170000 0x171000 = 1 := by decide
  have hcargado : Cargado tres tres.arranque := by
    have h0 : Cargado tres (iniPag tres.tablas) := .init rfl
    have h1 : Cargado tres (tres.propia 0 (iniPag tres.tablas)) :=
      h0.step (a := ()) (Carga.execs _ _ _)
    have h2 : Cargado tres (tres.propia 1 (tres.propia 0 (iniPag tres.tablas))) :=
      h1.step (a := ()) (Carga.execs _ _ _)
    exact h2.step (a := ()) (Carga.execs _ _ _)
  have hinv := cargado_inv hcargado
  have hcand : {1397, 1398, 1399} ⊆ candidatas tres.arranque.mm := by
    intro p hp
    simp only [Finset.mem_insert, Finset.mem_singleton] at hp
    have hlibre := hL.lleno p (by simp only [PAG_MEM]; omega)
    have hi : Mm.inicio tres.arranque.mm = 45 := hinv.inicio
    have hM : tres.arranque.mm.memMax = 8192 := hinv.memMax
    unfold candidatas
    rw [if_pos (by rw [hi, hM]; decide), Finset.mem_filter, Finset.mem_Ico, hi, hM]
    rw [hi] at hlibre
    refine ⟨by omega, ?_⟩
    have := mt (hlibre (by omega)).mp (by omega)
    simpa using this
  refine exec_mapea hcargado (by decide) (by decide) (by rw [hcant]; decide) ?_ ?_ ?_ ?_ ?_ _
  · exact (hreg.tarea_iff.mpr (by decide) : Tarea tres.arranque 0).2
  · exact ⟨3, by decide, hreg.libre 3 (by decide) (Or.inl le_rfl)⟩
  · refine ⟨3, by decide, ?_⟩
    by_contra hne
    exact absurd ((hreg.tss 3 (by decide)).mp hne) (by decide)
  · exact le_trans (by decide) (Finset.card_le_card hcand)
  · intro c hc
    refine hinv.bajas _ ?_ ?_
    · simp only [PAG_LEN]
      omega
    · have : tres.memOff = 372 := rfl
      simp only [PAG_LEN]
      omega

end Silicio.Space
