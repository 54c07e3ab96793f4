import Silicio.Tables

/-!
Where the pages lie while modules are loaded one after the other.

Before anything is given back the map is full up to some page, and each load takes the next
three. On a machine of given size and modules this says where everything is.
-/

namespace Silicio.Layout

open Silicio.Bitmap Silicio.Bytes Silicio.Defs Silicio.Mm Silicio.Paging Silicio.Tasks
open Silicio.Registry Silicio.Runs Silicio.Boot Silicio.Owners Silicio.Tables

variable {b : Maquina} {g : Historia} {k : Kernel} {s : Kernel × Historia} {x i : ℕ} {mod : Modulo}

def Cargada (b : Maquina) : Kernel × Historia → Prop :=
  Reach (Inicial b) fun s e s' => Paso b s e s' ∧ e = .carga

lemma cargada_spec (h : Cargada b s) : Reach (Inicial b) (Paso b) s ∧ s.2.concesiones = [] ∧
    ∀ e ∈ s.2.cargas, e.antes = [] := by
  refine ⟨h.mono fun _ _ _ hs => hs.1, ?_⟩
  refine h.invariant (P := fun s => s.2.concesiones = [] ∧ ∀ e ∈ s.2.cargas, e.antes = []) ?_ ?_
  · rintro s rfl
    exact ⟨rfl, by simp⟩
  · rintro s e s' ⟨hc, ha⟩ ⟨hs, rfl⟩
    cases hs with
    | carga usuario hm hi h0 =>
      simp only [Historia.cargar]
      split
      · refine ⟨hc, fun e he => ?_⟩
        rcases List.mem_append.mp he with he | he
        · exact ha e he
        · obtain rfl := List.mem_singleton.mp he
          exact hc
      · exact ⟨hc, ha⟩

lemma lleno_setMems {mm : Mm} {a n : ℕ} (h : Lleno mm x) (ha : a + n ≤ x) :
    Lleno (setMems a n mm) x := by
  have hi := inicio_setMems a n mm
  refine ⟨by rw [hi]; exact h.desde, fun p hp hdp => ?_⟩
  rw [hi] at hdp
  rw [setMems_ocupada, Bool.or_eq_true, h.lleno p hp hdp, decide_eq_true_eq]
  omega

lemma libre_of_lleno {mm : Mm} {p : ℕ} (h : Lleno mm x) (hx : x ≤ p) (hp : p < PAG_MEM) :
    ocupada mm p = false := by
  have hd := h.desde
  by_contra hc
  have := (h.lleno p hp (by omega)).mp (by simpa using hc)
  omega

lemma arranque_lleno (hv : b.Ventana) : Lleno b.arranque.mm (b.raiz + 1025) := by
  have h := (Lleno.reservar (mmInicial_lleno b.hfin b.hoff b.hlim)
    (by rw [mmInicial_memMax]; exact raiz_cabe b hv) (by rw [mmInicial_memMax]; exact b.hram)).2
  rw [arranque_mm_eq b hv]
  exact h

/-- **One more load on a full map**: it takes the next three pages. -/
theorem carga_lleno (h : Tables.Inv b (k, g)) (hL : Lleno k.mm x) (hx : b.raiz ≤ x)
    (hfit : x + 3 ≤ 8 * (b.ram / 8)) (hm : b.modulos[i]? = some mod)
    (hi : ∀ e ∈ g.cargas, e.modulo ≠ i) (hpag : cantPaginas mod.ini mod.fin ≤ MAX_PAG_DRIVER)
    (hpos : 0 < cantPaginas mod.ini mod.fin) :
    Paso b (k, g) .carga (b.cargar true mod k,
      { g with cargas := g.cargas ++ [⟨i, mod.ini / PAG_LEN, cantPaginas mod.ini mod.fin,
          ⟨x, x + 1, x + 2⟩, true, g.concesiones⟩] }) ∧
      Lleno (b.cargar true mod k).mm (x + 3) := by
  have hreg : Registro (3 + g.cargas.length) k := h.registro
  have ha : Admite mod.ini mod.fin k := hreg.admite (by omega) hpag
  have hM : k.mm.memMax = b.ram := h.duenos.memMax
  have hlug := (b.lugar mod (List.mem_of_getElem? hm)
    (mod.ini / PAG_LEN + (cantPaginas mod.ini mod.fin - 1))
    ⟨Nat.le_add_right _ _, Nat.add_lt_add_left (by omega) _⟩).2
  have hraiz : b.memOff ≤ b.raiz := le_max_left _ _
  have hbajo : mod.ini / PAG_LEN + cantPaginas mod.ini mod.fin ≤ x := by
    simp only [PAG_LEN] at hlug ⊢
    omega
  obtain ⟨hres, hL'⟩ := Lleno.reservar (n := 3) (lleno_setMems hL hbajo)
    (by rw [setMems_memMax, hM]; exact hfit) (by rw [setMems_memMax, hM]; exact b.hram)
  have hesp : espacio mod.ini mod.fin k = ⟨x, x + 1, x + 2⟩ := by
    have h1 := reservar_espacio mod.ini mod.fin k
    rw [hres] at h1
    have h2 : [x, x + 1, x + 2] = [(espacio mod.ini mod.fin k).dir,
        (espacio mod.ini mod.fin k).tabla, (espacio mod.ini mod.fin k).pila] := h1
    simp only [List.cons.injEq, and_true] at h2
    obtain ⟨h3, h4, h5⟩ := h2
    rw [h5, h4, h3]
  have hg : g.cargar true i mod k = { g with cargas := g.cargas ++ [⟨i, mod.ini / PAG_LEN,
      cantPaginas mod.ini mod.fin, ⟨x, x + 1, x + 2⟩, true, g.concesiones⟩] } := by
    unfold Historia.cargar
    rw [if_pos ha, hesp]
  refine ⟨?_, ?_⟩
  · rw [← hg]
    refine Paso.carga true hm hi fun _ => ?_
    rw [hres]
    have := b.hfin
    have hk : b.raiz = max b.memOff (b.kernelFin / 4096 + 1) := rfl
    simp only [List.mem_range'_1]
    omega
  · rw [cargar_admite true ha, hres]
    exact hL'

lemma carga_status (h : Tables.Inv b (k, g)) (usuario : Bool) (ha : Admite mod.ini mod.fin k)
    (hn : 3 + g.cargas.length < PARES) (t : ℕ) :
    ((b.cargar usuario mod k).rTareas t).status =
      if t = 3 + g.cargas.length then .running else (k.rTareas t).status := by
  have hreg : Registro (3 + g.cargas.length) k := h.registro
  rw [cargar_eq, cargar_rTareas _ _ _ _ ha, hreg.tareaLibre, min_eq_left hn.le,
    Function.update_apply]
  split <;> rfl

/-! ### Three modules -/

/-- What the loader leaves of three modules of one page, from 0x170000 on: at the start of the
first a `sys_param` for a buffer of 16 bytes, with addresses as the task will see them. -/
def memTres : Mem := fun x =>
  if x = 0x170001 then 0x08 else if x = 0x170002 then 0x30
  else if x = 0x170008 then 0x10
  else if x = 0x17001d then 0x04 else if x = 0x17001e then 0x30
  else 0

def moduloTres (i : ℕ) : Modulo := ⟨0x170000 + 4096 * i, 0x171000 + 4096 * i, fun _ => 0⟩

lemma moduloTres_cant (i : ℕ) : cantPaginas (moduloTres i).ini (moduloTres i).fin = 1 := by
  have h : ((moduloTres i).fin + 2 ^ 32 - (moduloTres i).ini) % 2 ^ 32 = 4096 := by
    simp only [moduloTres]
    omega
  rw [cantPaginas, h]
  rfl

lemma moduloTres_pagina {i p : ℕ} : (moduloTres i).Pagina p ↔ p = 368 + i := by
  rw [Modulo.Pagina, moduloTres_cant]
  simp only [moduloTres, PAG_LEN]
  omega

lemma mem_modulosTres {m : Modulo} (h : m ∈ (List.range 3).map moduloTres) :
    ∃ i < 3, m = moduloTres i := by
  obtain ⟨i, hi, rfl⟩ := List.mem_map.mp h
  exact ⟨i, List.mem_range.mp hi, rfl⟩

lemma modulosTres_get {i : ℕ} {m : Modulo} (h : ((List.range 3).map moduloTres)[i]? = some m) :
    m = moduloTres i := by
  rw [List.getElem?_map, Option.map_eq_some_iff] at h
  obtain ⟨j, hj, rfl⟩ := h
  rw [List.getElem?_range (by
    by_contra hc
    rw [List.getElem?_eq_none (by simpa using hc)] at hj
    cases hj)] at hj
  rw [Option.some.inj hj]

/-- In 32 MB, above those modules, the tables of the kernel are found. -/
lemma reservar_tres_modulos :
    0 ∉ (reservar (1 + CAN_TAB_PAG) (mmInicial 0x16cb61 372 8192)).1 := by
  rw [reservar_inicial ini_le_fin (by decide) (by decide) (by decide) (by decide)]
  simp only [List.mem_range'_1, primera, PAG_LEN]
  omega

/-- A machine of 32 MB with those modules. -/
def tres : Maquina where
  enlace := enlace
  mem := memTres
  kernelFin := 0x16cb61
  memOff := 372
  ram := 8192
  modulos := (List.range 3).map moduloTres
  propias _ := (0, 0, fun _ => 0)
  hfin := ini_le_fin
  hoff := by decide
  hlim := by decide
  hram := by decide
  alineado m hm := by
    obtain ⟨i, -, rfl⟩ := mem_modulosTres hm
    simp only [moduloTres, PAG_LEN]
    omega
  lugar m hm p hp := by
    obtain ⟨i, hi, rfl⟩ := mem_modulosTres hm
    obtain rfl := moduloTres_pagina.mp hp
    simp only [PAG_LEN]
    omega
  disjuntos i j m n hi hj p hp hq := by
    obtain rfl := modulosTres_get hi
    obtain rfl := modulosTres_get hj
    have h1 := moduloTres_pagina.mp hp
    have h2 := moduloTres_pagina.mp hq
    omega
  busca := reservar_tres_modulos

lemma tres_ventana : tres.Ventana := by
  unfold Maquina.Ventana
  decide

lemma tres_raiz : tres.raiz = 372 := by decide

def cargaTres (i : ℕ) : Carga :=
  ⟨i, 368 + i, 1, ⟨1397 + 3 * i, 1397 + 3 * i + 1, 1397 + 3 * i + 2⟩, true, []⟩

def historiaTres (n : ℕ) : Historia := ⟨(List.range n).map cargaTres, [], false⟩

def nucleoTres : ℕ → Kernel
  | 0 => tres.arranque
  | n + 1 => tres.cargar true (moduloTres n) (nucleoTres n)

lemma historiaTres_length (n : ℕ) : (historiaTres n).cargas.length = n := by simp [historiaTres]

lemma historiaTres_succ (n : ℕ) : historiaTres (n + 1) =
    { historiaTres n with cargas := (historiaTres n).cargas ++ [cargaTres n] } := by
  simp [historiaTres, List.range_succ]

lemma historiaTres_get {c : ℕ} (hc : c < 3) :
    (historiaTres 3).cargas[c]? = some (cargaTres c) := by
  simp only [historiaTres]
  rw [List.getElem?_map, List.getElem?_range hc, Option.map_some]

/-- The machine `tres` with something else in memory. -/
def tresCon (mem : Mem) : Maquina := { tres with mem := mem }

def nucleoCon (mem : Mem) : ℕ → Kernel
  | 0 => (tresCon mem).arranque
  | n + 1 => (tresCon mem).cargar true (moduloTres n) (nucleoCon mem n)

lemma tresCon_memTres : tresCon memTres = tres := rfl

lemma nucleoTres_eq (n : ℕ) : nucleoTres n = nucleoCon memTres n := by
  induction n with
  | zero => rfl
  | succ n ih =>
    rw [nucleoTres, nucleoCon, ih]
    rfl

lemma registro_largo {n : ℕ} (h : Tables.Inv b (k, g)) (hn : g.cargas.length = n) :
    Registro (3 + n) k := by
  have hr := h.registro
  rwa [hn] at hr

section
variable (mem : Mem)

lemma tresCon_raiz : (tresCon mem).raiz = 372 := tres_raiz

/-- What the loads leave: each takes the next pages, and its task runs. -/
lemma nucleoCon_spec {n : ℕ} (hn : n ≤ 3) :
    Cargada (tresCon mem) (nucleoCon mem n, historiaTres n) ∧
    Arranque enlace (nucleoCon mem n) ∧ Lleno (nucleoCon mem n).mm (1397 + 3 * n) ∧
    ∀ c < n, ((nucleoCon mem n).rTareas (3 + c)).status = .running := by
  induction n with
  | zero =>
    have hL := arranque_lleno (b := tresCon mem) tres_ventana
    rw [tresCon_raiz] at hL
    exact ⟨.init rfl, arranque_arranque (tresCon mem), hL,
      fun c hc => absurd hc (Nat.not_lt_zero c)⟩
  | succ n ih =>
    obtain ⟨hr, hl, hL, hst⟩ := ih (by omega)
    have hinv := tablas_en_todo_estado (b := tresCon mem) tres_ventana (cargada_spec hr).1
    have hm : (tresCon mem).modulos[n]? = some (moduloTres n) := by
      simp only [tresCon, tres]
      rw [List.getElem?_map, List.getElem?_range (by omega), Option.map_some]
    have hnew : ∀ e ∈ (historiaTres n).cargas, e.modulo ≠ n := by
      intro e he
      obtain ⟨j, hj, rfl⟩ := List.mem_map.mp he
      exact Nat.ne_of_lt (List.mem_range.mp hj)
    have hpag : cantPaginas (moduloTres n).ini (moduloTres n).fin ≤ MAX_PAG_DRIVER := by
      rw [moduloTres_cant]
      decide
    obtain ⟨hp, hL'⟩ := carga_lleno hinv hL (by rw [tresCon_raiz]; omega)
      (show 1397 + 3 * n + 3 ≤ 8 * (8192 / 8) by omega) hm hnew hpag
      (by rw [moduloTres_cant]; decide)
    have hini : (moduloTres n).ini / PAG_LEN = 368 + n := by
      simp only [moduloTres, PAG_LEN]
      omega
    rw [moduloTres_cant, hini] at hp
    refine ⟨hr.step ⟨?_, rfl⟩, hl.step (a := ()) (.exec _ _ _), hL', fun c hc => ?_⟩
    · rw [historiaTres_succ]
      exact hp
    · have hreg : Registro (3 + (historiaTres n).cargas.length) (nucleoCon mem n) :=
        hinv.registro
      have ha : Admite (moduloTres n).ini (moduloTres n).fin (nucleoCon mem n) :=
        hreg.admite (by omega) hpag
      have hn98 : 3 + n < PARES := lt_of_lt_of_le (show 3 + n < 6 by omega) (by decide)
      rw [nucleoCon, carga_status hinv true ha (by rwa [historiaTres_length]),
        historiaTres_length]
      split
      · rfl
      · exact hst c (by omega)

lemma con_inv : Tables.Inv (tresCon mem) (nucleoCon mem 3, historiaTres 3) :=
  tablas_en_todo_estado tres_ventana (cargada_spec (nucleoCon_spec mem le_rfl).1).1

lemma con_registro : Registro 6 (nucleoCon mem 3) :=
  registro_largo (con_inv mem) (historiaTres_length 3)

lemma con_tarea {t : ℕ} (ht : t < 6) : Tarea (nucleoCon mem 3) t :=
  (con_registro mem).tarea_iff.mpr ⟨ht, lt_trans ht (by decide)⟩

end

lemma nucleoTres_spec {n : ℕ} (hn : n ≤ 3) : Cargada tres (nucleoTres n, historiaTres n) ∧
    Arranque enlace (nucleoTres n) ∧ Lleno (nucleoTres n).mm (1397 + 3 * n) ∧
    ∀ c < n, ((nucleoTres n).rTareas (3 + c)).status = .running := by
  rw [nucleoTres_eq, ← tresCon_memTres]
  exact nucleoCon_spec memTres hn

lemma tres_tarea {t : ℕ} (ht : t < 6) : Tarea (nucleoTres 3) t := by
  rw [nucleoTres_eq]
  exact con_tarea memTres ht

end Silicio.Layout
