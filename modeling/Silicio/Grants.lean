import Silicio.Buffers
import Silicio.Turns

/-!
What `sys_mem` gives for a page, and what it touches to give it.

A grant writes no address anywhere: it sets the user bits of the two entries on the way to the
page, whatever they point at. It is the page asked for that is reached because all entries
outside those `exec` redirects still hold their identity mapping, and those are never granted.
The number itself is the caller's, and nothing compares it with the size of the map.
-/

namespace Silicio.Grants

open Silicio.Loop Silicio.Bitmap Silicio.Bytes Silicio.Defs Silicio.Mm Silicio.Mmu Silicio.Paging
open Silicio.Tasks Silicio.Registry Silicio.Runs Silicio.Syscall Silicio.Boot Silicio.Owners
open Silicio.Tables Silicio.Walk Silicio.Buffers Silicio.Ports

variable {b : Maquina} {g : Historia} {k : Kernel} {s : Kernel × Historia} {t p : ℕ} {r : Regs}

/-! ### A page granted -/

/-- For task `t` page `p` is page `p`, to be read and written. -/
def Propia (k : Kernel) (t p : ℕ) : Prop :=
  ∀ o < 4096, UserWrite k.mem (k.tssOf t).cr3 (4096 * p + o) ∧
    phys k.mem (k.tssOf t).cr3 (4096 * p + o) = 4096 * p + o

/-- What a call of `sys_mem` owes to task `t`: a number that is not negative is the page asked
for, or the one the search finds; the page was free, it alone is marked, and the task has it. A
negative one leaves the map and memory as they were. -/
structure Cumple (basura : ℕ → ℕ) (t : ℕ) (r : Regs) (k : Kernel) : Prop where
  pagina : ∀ p : ℕ, (sysMem r.ebx (entrar t r k)).1 = p →
    (p = if r.ebx = 0 then buscarMem k.mm else r.ebx) ∧ ocupada k.mm p = false ∧
    (∀ q, ocupada (llamar basura t r k).mm q = (ocupada k.mm q || decide (q = p))) ∧
    Propia (llamar basura t r k) t p
  error : (sysMem r.ebx (entrar t r k)).1 < 0 →
    (llamar basura t r k).mm = k.mm ∧ (llamar basura t r k).mem = k.mem

lemma sysMem_fst (ebx : ℕ) : match concedida ebx k.mm with
    | some p => (sysMem ebx k).1 = entero p
    | none => (sysMem ebx k).1 < 0 := by
  unfold sysMem concedida
  simp only
  generalize (if ebx = 0 then buscarMem k.mm else ebx) = pedido
  split_ifs <;> simp

lemma entero_eq {x y : ℕ} (hx : x < 2 ^ 20) : entero x = y ↔ x = y := by
  rw [entero, if_pos (by omega)]
  exact Nat.cast_inj

lemma concedida_pedida {ebx : ℕ} {mm : Mm} (h : concedida ebx mm = some p) :
    p = if ebx = 0 then buscarMem mm else ebx := by
  unfold concedida at h
  simp only at h
  split_ifs at h with _ _ _ h0 <;> simp_all

lemma propia_nueva (h : Tables.Inv b (k, g)) (hf : Fuera b (k, g)) (hv : b.Ventana)
    (ht : Tarea k t) (hp : (t, p) ∈ g.concesiones) : Propia k t p := by
  obtain ⟨-, hp20, hp0⟩ := h.concesiones t p hp
  have hlejos := concedida_lejos h hf hv hp
  have hlt : t < 3 + g.cargas.length := (h.registro.tarea_iff.mp ht).1
  intro o ho
  have e1 : (4096 * p + o) / 2 ^ 22 = p / 1024 := by omega
  have e2 : (4096 * p + o) / 4096 % 1024 = p % 1024 := by omega
  rw [userWrite_abre h hv ht (by omega), phys_pagina h hv ht (by omega), e1, e2]
  refine ⟨⟨Or.inl ⟨t, p, hp, rfl, Or.inl rfl⟩, ?_⟩, ?_⟩
  · unfold Muestra
    split
    · next hc =>
      obtain ⟨c, e, rfl, he⟩ := (lt_tres_or hlt).resolve_left (by omega)
      refine ⟨e, by rwa [Nat.add_sub_cancel_left], Or.inr (Or.inl ?_)⟩
      rw [Nat.add_sub_cancel_left, show p % 1024 = p by omega]
      exact hp
    · next hc => exact ⟨t, by rwa [Nat.div_add_mod], fun h0 => by omega⟩
  · -- `exec` redirects entries among pages that nobody is granted
    have hpag : paginaDe g t (p / 1024) (p % 1024) = p := by
      unfold paginaDe
      split
      · next hc =>
        obtain ⟨c, e, rfl, he⟩ := (lt_tres_or hlt).resolve_left (by omega)
        obtain ⟨-, -, -, -, hpag⟩ := h.modulo e (List.mem_of_getElem? he)
        rw [Nat.add_sub_cancel_left, he, show p % 1024 = p by omega]
        simp only [MAX_PAG_DRIVER] at hpag
        simp only [Option.map_some, Option.getD_some, destino, V_USER, V_STACK]
        rw [if_neg (by omega), if_neg (by omega)]
      · exact Nat.div_add_mod p 1024
    rw [hpag]
    omega

/-- One call, in a state whose tables are in order before it and after it. -/
lemma cumple (hv : b.Ventana) (basura : ℕ → ℕ) (ht : Tarea k t) (hr : r.eax = SYS_MEM)
    (hp : r.ebx < PAG_MEM) (h : Tables.Inv b (k, g)) (hf : Fuera b (k, g)) :
    Cumple basura t r k := by
  have hpaso : Boot.Paso b (k, g) .mem (llamar basura t r k, g.conceder t r.ebx k.mm) :=
    .mem basura ht hr hp
  have h' := h.paso hv hpaso
  have hf' := hf.paso hpaso
  have ht' : Tarea (llamar basura t r k) t := ((llamar_marco basura t r k).tarea t).mpr ht
  have hfst := sysMem_fst (k := entrar t r k) r.ebx
  have hmm := llamar_mem_mm basura t k hr
  have hmem := llamar_mem_mem basura t k hr
  rw [entrar_mm] at hfst
  unfold Historia.conceder at h' hf'
  cases hc : concedida r.ebx k.mm with
  | none =>
    rw [hc] at hfst hmm hmem
    exact ⟨fun p he => by simp only at hfst; omega, fun _ => ⟨hmm, hmem⟩⟩
  | some q =>
    rw [hc] at hfst hmm hmem h' hf'
    simp only at hfst
    obtain ⟨hq20, -⟩ := concedida_lt h.duenos hv hp hc
    refine ⟨fun p he => ?_, fun hneg => ?_⟩
    · obtain rfl := (entero_eq hq20).mp (hfst.symm.trans he)
      refine ⟨concedida_pedida hc, (concedida_libre hc).1, fun x => ?_, ?_⟩
      · rw [hmm, ocupada_setMem]
      · exact propia_nueva h' hf' hv ht' (mem_concat.mpr (Or.inr rfl))
    · rw [hfst, entero, if_pos (by omega)] at hneg
      omega

/-- **What a grant gives**, to every task in every state of every run of a boot whose searches do
not begin past the end of memory, the grants before it being of pages in the map as well. -/
theorem sys_mem_concede (hv : b.Ventana) (h : Reach (Boot.Inicial b) (Boot.Paso b) s)
    (basura : ℕ → ℕ) (ht : Tarea s.1 t) (hr : r.eax = SYS_MEM) (hp : r.ebx < PAG_MEM) :
    Cumple basura t r s.1 := by
  exact cumple hv basura ht hr hp (tablas_en_todo_estado hv h) (run_fuera hv h)

/-- The first of three modules asks for page 5000. -/
theorem sys_mem_concede_tres :
    Cumple (fun _ => 0) 3 ⟨SYS_MEM, 5000, 0, 0⟩ (Layout.nucleoTres 3) := by
  have hr := (Layout.cargada_spec (Layout.nucleoTres_spec le_rfl).1).1
  have ht : Tarea (Layout.nucleoTres 3) 3 := Layout.tres_tarea (by decide)
  exact sys_mem_concede Layout.tres_ventana hr (fun _ => 0) ht rfl (by decide)

/-- Where the page leads after a grant: to whatever the table that was there says. -/
lemma phys_concedida (basura : ℕ → ℕ) {d q : ℕ} (hcr3 : (k.tssOf t).cr3 = 4096 * d)
    (hd : d < 2 ^ 20) (hq : word k.mem d (p / 1024) / 4096 = q) (hne : d ≠ q) (hp : p < 2 ^ 20)
    (hr : r.eax = SYS_MEM) (hc : concedida r.ebx k.mm = some p) :
    phys (llamar basura t r k).mem ((llamar basura t r k).tssOf t).cr3 (4096 * p) =
      4096 * (word k.mem q (p % 1024) / 4096) := by
  have hM := llamar_marco basura t r k
  have hcr3' : ((llamar basura t r k).tssOf t).cr3 = 4096 * d := by
    obtain ⟨_, _, _, _, he⟩ := hM.tss (k.rTareas t).taskTss
    rw [Kernel.tssOf, hM.taskTss, he]
    exact hcr3
  have hq20 : q < 2 ^ 20 := by
    have := word_lt k.mem d (p / 1024)
    omega
  have hmem := llamar_mem_mem basura t k hr
  rw [hc] at hmem
  have hword := fun x hx j hj => word_conceder (x := x) (j := j) hd hq20 hp hne
    (hmem.trans (conceder_eq hcr3 hd hq)) hx hj
  have e1 : 4096 * p / 2 ^ 22 = p / 1024 := by omega
  have e2 : 4096 * p / 4096 % 1024 = p % 1024 := by omega
  have hpde : pde (llamar basura t r k).mem ((llamar basura t r k).tssOf t).cr3 (4096 * p) =
      word k.mem d (p / 1024) ||| 7 := by
    rw [pde_eq hd (by rw [hcr3']; omega), e1, hword d hd _ (by omega),
      if_pos (Or.inl ⟨rfl, rfl⟩)]
  have hpte := pte_eq (t := q) (by rw [hpde, or_seven]; omega)
  rw [e2, hword q hq20 _ (by omega), if_pos (Or.inr ⟨rfl, rfl⟩), or_seven] at hpte
  rw [phys_eq, hpte]
  omega

/-- On the machine of 15 MB below a hole the directory sends page 252 to a table on page 0, where
the loader left nothing: the grant of page 252 opens page 0. -/
theorem concede_otra : Reach (Boot.Inicial huecoCon) (Boot.Paso huecoCon)
      (huecoCon.arranque, ⟨[], [], false⟩) ∧ Tarea huecoCon.arranque 0 ∧
    ¬ Cumple (fun _ => 0) 0 ⟨SYS_MEM, 252, 0, 0⟩ huecoCon.arranque := by
  have hreg := arranque_registro huecoCon
  have ht : Tarea huecoCon.arranque 0 := hreg.tarea_iff.mpr (by decide)
  refine ⟨.init rfl, ht, fun h => ?_⟩
  -- page 252 is free
  have hlibre : ocupada huecoCon.arranque.mm 252 = false := by
    rw [arranque_mm, Bool.eq_false_iff, ne_eq, reservar_ocupada,
      mmInicial_ocupada huecoCon.hfin (by decide), reservar_hueco (by decide) (by decide)
        (by decide) (by decide)]
    rintro (hc | hc)
    · exact absurd hc (by decide)
    · exact absurd (List.eq_of_mem_replicate hc) (by decide)
  have hc : concedida 252 huecoCon.arranque.mm = some 252 := by
    unfold concedida
    simp only [OfNat.ofNat_ne_zero, false_and, if_false]
    exact if_pos ((setMem_fst _ _).mpr hlibre)
  -- so it is granted, but the entry leads to page 0
  have hfst := sysMem_fst (k := entrar 0 ⟨SYS_MEM, 252, 0, 0⟩ huecoCon.arranque) 252
  rw [entrar_mm, hc] at hfst
  obtain ⟨-, -, -, hpropia⟩ := h.pagina 252 hfst
  obtain ⟨-, hphys⟩ := hpropia 0 (by decide)
  obtain ⟨hdir, hraiz, htabla⟩ := hueco_directorio
  have hmem : huecoCon.arranque.mem = (iniPag huecoCon.tablas).mem :=
    (propia_mem huecoCon 2 _).trans ((propia_mem huecoCon 1 _).trans (propia_mem huecoCon 0 _))
  have hcr3 : (huecoCon.arranque.tssOf 0).cr3 = 4096 * 4096 := by
    rw [hreg.tssOf ht, arranque_cr3 huecoCon (by decide), hdir]
  have hq : word huecoCon.arranque.mem 4096 (252 / 1024) / 4096 = 0 := by
    rw [hmem, hraiz _ (by decide)]
  have hw : word huecoCon.arranque.mem 0 (252 % 1024) = 0 := by
    rw [hmem, htabla _ (by decide)]
    decide
  rw [Nat.add_zero, phys_concedida _ hcr3 (by decide) hq (by decide) (by decide) rfl hc, hw]
    at hphys
  exact absurd hphys (by decide)

/-! ### What a call touches -/

/-- What `sys_mem` reads or writes: a byte of the map, an entry of the caller's directory, an
entry of the table that one selects. -/
inductive Acceso
  | mapa (i : ℕ)
  | dir (i : ℕ)
  | tabla (i : ℕ)
  deriving DecidableEq

def Acceso.Dentro : Acceso → Prop
  | .mapa i => i < MAP_LEN
  | .dir i => i < DIR_PAG_LEN
  | .tabla i => i < TAB_PAG_LEN

/-- The bytes `buscar_mem` looks at: those up to the one it stops at, and that one unless it is
the end. -/
def leeBuscar (mm : Mm) : List Acceso :=
  let fin := mm.memMax / 8
  let i := scan (fun i => mm.memMap i != 0xff#8) (fin - inicio mm) (inicio mm)
  (List.range' (inicio mm) (i - inicio mm)).map .mapa ++ if i = fin then [] else [.mapa i]

def accesos (ebx : ℕ) (mm : Mm) : List Acceso :=
  let pedido := if ebx = 0 then buscarMem mm else ebx
  (if ebx = 0 then leeBuscar mm else []) ++
    if ebx = 0 ∧ pedido = 0 then []
    else .mapa (pedido / 8) ::
      if (setMem mm pedido).1 = PAG_OK then [.dir (pedido >>> 10), .tabla (pedido &&& 0x3ff)] else []

lemma mem_leeBuscar {mm : Mm} {a : Acceso} : a ∈ leeBuscar mm ↔
    ∃ i, a = .mapa i ∧ inicio mm ≤ i ∧
      i ≤ scan (fun i => mm.memMap i != 0xff#8) (mm.memMax / 8 - inicio mm) (inicio mm) ∧
      i ≠ mm.memMax / 8 := by
  have hle := scan_le (p := fun i => mm.memMap i != 0xff#8) (mm.memMax / 8 - inicio mm) (inicio mm)
  have hge := le_scan (p := fun i => mm.memMap i != 0xff#8) (mm.memMax / 8 - inicio mm) (inicio mm)
  unfold leeBuscar
  simp only [List.mem_append, List.mem_map, List.mem_range'_1]
  generalize scan (fun i => mm.memMap i != 0xff#8) (mm.memMax / 8 - inicio mm) (inicio mm) = x
    at hle hge ⊢
  constructor
  · rintro (⟨i, hi, rfl⟩ | h)
    · exact ⟨i, rfl, by omega⟩
    · split at h
      · cases h
      · obtain rfl := List.mem_singleton.mp h
        exact ⟨x, rfl, by omega⟩
  · rintro ⟨i, rfl, h1, h2, h3⟩
    rcases eq_or_ne i x with rfl | hne
    · rw [if_neg h3]
      exact Or.inr List.mem_cons_self
    · exact Or.inl ⟨i, by omega, rfl⟩

lemma buscarMem_lee {mm mm' : Mm} (hoff : mm'.memOff = mm.memOff) (hmax : mm'.memMax = mm.memMax)
    (h : ∀ i, .mapa i ∈ leeBuscar mm → mm'.memMap i = mm.memMap i) :
    buscarMem mm' = buscarMem mm := by
  have hini : inicio mm' = inicio mm := by rw [inicio, hoff, inicio]
  have hlee : ∀ j, inicio mm ≤ j → j ≠ mm.memMax / 8 →
      j ≤ scan (fun i => mm.memMap i != 0xff#8) (mm.memMax / 8 - inicio mm) (inicio mm) →
      mm'.memMap j = mm.memMap j :=
    fun j h1 h2 h3 => h j (mem_leeBuscar.mpr ⟨j, rfl, h1, h3, h2⟩)
  have hscan : scan (fun i => mm'.memMap i != 0xff#8) (mm.memMax / 8 - inicio mm) (inicio mm) =
      scan (fun i => mm.memMap i != 0xff#8) (mm.memMax / 8 - inicio mm) (inicio mm) := by
    refine scan_congr_hasta fun j h1 h2 hno => ?_
    rw [hlee j h1 (by omega)]
    by_contra hc
    have hlt : scan (fun i => mm.memMap i != 0xff#8) (mm.memMax / 8 - inicio mm) (inicio mm) < j := by
      omega
    have := hno _ (le_scan _ _) hlt
    rw [at_scan (p := fun i => mm.memMap i != 0xff#8) (by omega)] at this
    cases this
  unfold buscarMem
  simp only
  rw [hini, hmax, hscan]
  split
  · rfl
  · next hne => rw [hlee _ (le_scan _ _) hne le_rfl]

lemma ocupada_congr {m m' : Mm} (h : m'.memMap (p / 8) = m.memMap (p / 8)) :
    ocupada m' p = ocupada m p := by
  rw [ocupada, bit, h, ocupada, bit]

lemma accesos_concedida {ebx : ℕ} {mm : Mm} (h : concedida ebx mm = some p) :
    .mapa (p / 8) ∈ accesos ebx mm ∧ .dir (p >>> 10) ∈ accesos ebx mm ∧
      .tabla (p &&& 0x3ff) ∈ accesos ebx mm := by
  unfold concedida at h
  unfold accesos
  simp only at h ⊢
  generalize (if ebx = 0 then buscarMem mm else ebx) = pedido at h ⊢
  split_ifs at h with h0 hok
  obtain rfl := Option.some.inj h
  rw [if_neg h0, if_pos hok]
  simp

lemma accesos_mapa {ebx : ℕ} (mm : Mm) (h : ebx ≠ 0) : .mapa (ebx / 8) ∈ accesos ebx mm := by
  unfold accesos
  simp only [h, if_false, false_and]
  exact List.mem_append_right _ List.mem_cons_self

lemma concedida_lee {ebx : ℕ} {mm mm' : Mm} (hoff : mm'.memOff = mm.memOff)
    (hmax : mm'.memMax = mm.memMax)
    (h : ∀ i, .mapa i ∈ accesos ebx mm → mm'.memMap i = mm.memMap i) :
    concedida ebx mm' = concedida ebx mm := by
  have hpedido : (if ebx = 0 then buscarMem mm' else ebx) =
      if ebx = 0 then buscarMem mm else ebx := by
    by_cases h0 : ebx = 0
    · rw [if_pos h0, if_pos h0]
      refine buscarMem_lee hoff hmax fun i hi => h i ?_
      unfold accesos
      simp only [if_pos h0, List.mem_append]
      exact Or.inl hi
    · rw [if_neg h0, if_neg h0]
  unfold accesos at h
  unfold concedida
  simp only [hpedido] at h ⊢
  generalize (if ebx = 0 then buscarMem mm else ebx) = pedido at h ⊢
  by_cases h0 : ebx = 0 ∧ pedido = 0
  · rw [if_pos h0, if_pos h0]
  · rw [if_neg h0, if_neg h0]
    rw [if_neg h0] at h
    have hocc : ocupada mm' pedido = ocupada mm pedido :=
      ocupada_congr (h _ (List.mem_append_right _ List.mem_cons_self))
    have hiff : (setMem mm' pedido).1 = PAG_OK ↔ (setMem mm pedido).1 = PAG_OK := by
      rw [setMem_fst, setMem_fst, hocc]
    simp only [hiff]

lemma sysMem_escribe_mapa {ebx i : ℕ} (h : (sysMem ebx k).2.mm.memMap i ≠ k.mm.memMap i) :
    .mapa i ∈ accesos ebx k.mm := by
  rw [sysMem_concedida] at h
  cases hc : concedida ebx k.mm with
  | none =>
    rw [hc] at h
    exact absurd rfl h
  | some p =>
    rw [hc] at h
    simp only [setMem_eq, (concedida_libre hc).1, Bool.false_eq_true, if_false, mark] at h
    obtain rfl : i = p / 8 := by
      by_contra hne
      exact h (Function.update_of_ne hne _ _)
    exact (accesos_concedida hc).1

lemma sysMem_escribe_mem {ebx x : ℕ} (h : rd8 (sysMem ebx k).2.mem x ≠ rd8 k.mem x) :
    let dir := (k.tssOf k.tIndice).cr3 &&& 0xfffff000
    ∃ i j, .dir i ∈ accesos ebx k.mm ∧ .tabla j ∈ accesos ebx k.mm ∧
      ∃ c < 4, (x % 2 ^ 32 = (dir + 4 * i + c) % 2 ^ 32 ∨
        x % 2 ^ 32 = ((rd32 k.mem (dir + 4 * i) &&& 0xfffff000) + 4 * j + c) % 2 ^ 32) := by
  intro dir
  rw [sysMem_concedida] at h
  cases hc : concedida ebx k.mm with
  | none =>
    rw [hc] at h
    exact absurd rfl h
  | some p =>
    rw [hc] at h
    obtain ⟨-, hdir, htabla⟩ := accesos_concedida hc
    refine ⟨_, _, hdir, htabla, ?_⟩
    by_contra hno
    simp only [not_exists, not_and, not_or] at hno
    refine h ?_
    unfold conceder
    simp only
    split
    · rw [rd8_wr32_of_ne fun c hc' => (hno c hc').2, rd8_wr32_of_ne fun c hc' => (hno c hc').1]
    · rfl

/-- What any number must meet with: no access past a table, and an error for one past the map. -/
structure Tolera (ebx : ℕ) (k : Kernel) : Prop where
  dentro : ∀ a ∈ accesos ebx k.mm, a.Dentro
  error : PAG_MEM ≤ ebx →
    (sysMem ebx k).1 < 0 ∧ (sysMem ebx k).2.mm = k.mm ∧ (sysMem ebx k).2.mem = k.mem

def Acotado (mm : Mm) : Prop := mm.memOff ≤ PAG_MEM ∧ mm.memMax ≤ PAG_MEM

lemma dentro_pedida {pedido : ℕ} (h : pedido < PAG_MEM) : (Acceso.mapa (pedido / 8)).Dentro ∧
    (Acceso.dir (pedido >>> 10)).Dentro ∧ (Acceso.tabla (pedido &&& 0x3ff)).Dentro := by
  simp only [PAG_MEM] at h
  simp only [Acceso.Dentro, MAP_LEN, PAG_MEM, SEC_MEM, DIR_PAG_LEN, TAB_PAG_LEN,
    Nat.shiftRight_eq_div_pow, and_index_mask]
  omega

lemma buscar_dentro {mm : Mm} (h : Acotado mm) (h10 : 10 ≤ mm.memOff) :
    (∀ a ∈ leeBuscar mm, a.Dentro) ∧ buscarMem mm < PAG_MEM := by
  obtain ⟨hoff, hmax⟩ := h
  simp only [PAG_MEM] at hoff hmax
  have hini := inicio_of_le h10 (by omega)
  have hle := scan_le (p := fun i => mm.memMap i != 0xff#8) (mm.memMax / 8 - inicio mm) (inicio mm)
  constructor
  · intro a ha
    obtain ⟨i, rfl, h1, h2, h3⟩ := mem_leeBuscar.mp ha
    simp only [Acceso.Dentro, MAP_LEN, PAG_MEM, SEC_MEM]
    omega
  · simp only [PAG_MEM]
    rcases Nat.lt_or_ge (mm.memMax / 8) (inicio mm) with hw | hw
    · obtain ⟨s, hs8, hb, -, -⟩ := buscarMem_fuera_spec hw
      omega
    · rcases buscarMem_spec hw (by omega) with hs | ⟨h0, -⟩
      · have := hs.1.2.1
        omega
      · omega

lemma buscar_fuera {mm : Mm} (h : Acotado mm) (h10 : mm.memOff < 10) :
    ∃ a ∈ leeBuscar mm, ¬ a.Dentro := by
  obtain ⟨-, hmax⟩ := h
  simp only [PAG_MEM] at hmax
  have hini : inicio mm = (mm.memOff + 2 ^ 32 - 10) / 8 := by
    rw [inicio, Nat.mod_eq_of_lt (by omega)]
  refine ⟨.mapa (inicio mm), mem_leeBuscar.mpr ⟨_, rfl, le_rfl, le_scan _ _, by omega⟩, ?_⟩
  simp only [Acceso.Dentro, MAP_LEN, PAG_MEM, SEC_MEM]
  omega

/-- **Which numbers are tolerated**, in one state. -/
lemma tolera_iff {ebx : ℕ} (h : Acotado k.mm) :
    Tolera ebx k ↔ ebx < PAG_MEM ∧ (ebx = 0 → 10 ≤ k.mm.memOff) := by
  constructor
  · intro hT
    constructor
    · by_contra hge
      have h0 : ebx ≠ 0 := by
        simp only [PAG_MEM] at hge
        omega
      have := hT.dentro _ (accesos_mapa k.mm h0)
      simp only [Acceso.Dentro, MAP_LEN, PAG_MEM, SEC_MEM] at this hge
      omega
    · rintro rfl
      by_contra h10
      obtain ⟨a, ha, hno⟩ := buscar_fuera h (by omega)
      refine hno (hT.dentro a ?_)
      unfold accesos
      exact List.mem_append_left _ ha
  · rintro ⟨hlt, h10⟩
    refine ⟨fun a ha => ?_, fun hge => by omega⟩
    have hpedido : (if ebx = 0 then buscarMem k.mm else ebx) < PAG_MEM := by
      split
      · next h0 => exact (buscar_dentro h (h10 h0)).2
      · exact hlt
    obtain ⟨h1, h2, h3⟩ := dentro_pedida hpedido
    unfold accesos at ha
    simp only [List.mem_append] at ha
    rcases ha with ha | ha
    · split at ha
      · next h0 => exact (buscar_dentro h (h10 h0)).1 a ha
      · cases ha
    · generalize (if ebx = 0 then buscarMem k.mm else ebx) = pedido at ha h1 h2 h3
      split at ha
      · cases ha
      rcases List.mem_cons.mp ha with rfl | ha
      · exact h1
      split at ha
      · rcases List.mem_pair.mp ha with rfl | rfl
        · exact h2
        · exact h3
      · cases ha

/-! ### Runs -/

/-- `main` after the modules are loaded, and `task_control` before the first task. -/
def Encendida (l : Link) (s : Turns.Maquina) : Prop :=
  ∃ kernelFin memOff ram k, memOff ≤ PAG_MEM ∧ ram ≤ PAG_MEM ∧
    Reach (fun k => ∃ mem propias,
      k = Turns.nucleo l mem (mmInicial kernelFin memOff ram) propias)
      (fun k (_ : Unit) k' => Turns.Carga l k k') k ∧ s = (soltarVideo k, none)

def Prudente (s : Turns.Maquina) (e : Turns.Evento) (s' : Turns.Maquina) : Prop :=
  Turns.Paso s e s' ∧ ∀ t r, e = .llamada t r → r.eax = SYS_MEM → r.ebx < PAG_MEM

def limites (k : Kernel) : ℕ × ℕ := (k.mm.memOff, k.mm.memMax)

lemma acotado_congr {k' : Kernel} (h : limites k' = limites k) : Acotado k'.mm ↔ Acotado k.mm := by
  obtain ⟨hoff, hmax⟩ := Prod.mk.inj h
  rw [Acotado, hoff, hmax, Acotado]

lemma setMem_limites (mm : Mm) (p : ℕ) (m : Mem) :
    limites { k with mem := m, mm := (setMem mm p).2 } = limites { k with mm := mm } := by
  rw [limites, setMem_memOff, setMem_memMax, limites]

lemma sysMem_limites (ebx : ℕ) : limites (sysMem ebx k).2 = limites k := by
  rw [sysMem_concedida]
  split
  · exact setMem_limites _ _ _
  · rfl

lemma llamar_limites (basura : ℕ → ℕ) (t : ℕ) (r : Regs) (k : Kernel) :
    limites (llamar basura t r k) = limites k := by
  have hent : limites (entrar t r k) = limites k := rfl
  rw [llamar_eq, ← hent]
  generalize entrar t r k = k
  by_cases hp : Pide r.eax
  · rw [despachar_pide basura hp]
    exact pedido_deja (f := limites) hp fun _ _ _ _ => rfl
  · simp only [Pide, not_or] at hp
    unfold despachar
    rw [if_neg hp.1, if_neg hp.2.1, if_neg hp.2.2]
    split_ifs
    · rw [guardar, sysOpen_snd]
      rfl
    · unfold guardar sysReg
      split <;> rfl
    · unfold sysRet
      split <;> rfl
    · rfl
    · exact sysMem_limites r.ebx
    · rfl

lemma carga_limites {l : Link} {k' : Kernel} (hc : Turns.Carga l k k') : limites k' = limites k := by
  have h : ∀ cs ds start fin name, limites (cargar cs ds l start fin name k).2 = limites k := by
    intro cs ds start fin name
    by_cases ha : Admite start fin k
    · rw [limites, cargar_mm _ _ _ _ ha, reservar_memOff, reservar_memMax, setMems_memOff,
        setMems_memMax, limites]
    · rw [cargar_rechazo _ _ _ _ ha]
  cases hc with
  | exec start fin name => exact h _ _ _ _ _
  | execd start fin name => exact h _ _ _ _ _

lemma execs_limites (l : Link) (start pila : ℕ) (name : ℕ → Byte) (k : Kernel) :
    limites (execs l start pila name k).2 = limites k := rfl

lemma iniPag_limites (k : Kernel) : limites (iniPag k) = limites k := by
  rw [limites, iniPag_mm, reservar_memOff, reservar_memMax, limites]

lemma nucleo_limites (l : Link) (mem : Mem) (mm : Mm) (propias : ℕ → ℕ × ℕ × (ℕ → Byte)) :
    limites (Turns.nucleo l mem mm propias) = (mm.memOff, mm.memMax) := by
  have hm : (iniTss (iniLdt l { Kernel.cargado mem with mm := mm })).mm = mm :=
    (iniTss_limpio _).mm
  unfold Turns.nucleo
  simp only
  rw [execs_limites, execs_limites, execs_limites, iniPag_limites, limites, hm]

lemma paso_limites {s s' : Turns.Maquina} {e : Turns.Evento} (hs : Turns.Paso s e s') :
    limites s'.1 = limites s.1 := by
  cases hs with
  | turno => rfl
  | llamada basura => exact llamar_limites _ _ _ _
  | setPort =>
    rw [setPort_eq]
    split <;> rfl
  | unsetPort =>
    rw [unsetPort_eq]
    rfl
  | escritura =>
    unfold escribir
    split <;> rfl

lemma encendida_acotado {l : Link} {s : Turns.Maquina} (h : Encendida l s) : Acotado s.1.mm := by
  obtain ⟨kernelFin, memOff, ram, k, hoff, hram, hk, rfl⟩ := h
  have hlim : Acotado k.mm := by
    refine hk.invariant (P := fun k => Acotado k.mm) ?_ fun k _ k' hk hc =>
      (acotado_congr (carga_limites hc)).mpr hk
    rintro k ⟨mem, propias, rfl⟩
    obtain ⟨h1, h2⟩ := Prod.mk.inj
      (nucleo_limites l mem (mmInicial kernelFin memOff ram) propias)
    rw [Acotado, h1, h2, mmInicial_memOff, mmInicial_memMax]
    exact ⟨hoff, hram⟩
  refine (acotado_congr (k := k) ?_).mpr hlim
  simp only [limites, soltarVideo, unsetMem_memOff, unsetMem_memMax]

/-- **Which numbers are tolerated**: in every state of every run in which no page past the map is
asked for, by every task, those below the end of the map; and 0 only when the search begins at a
page. Ports past their map and bytes moved into the image are taken to change no table. -/
theorem sys_mem_tolera {l : Link} {s : Turns.Maquina} (h : Reach (Encendida l) Prudente s)
    (t ebx : ℕ) : Tolera ebx { s.1 with tIndice := t } ↔
      ebx < PAG_MEM ∧ (ebx = 0 → 10 ≤ s.1.mm.memOff) := by
  have hs : Acotado s.1.mm :=
    h.invariant (P := fun s => Acotado s.1.mm) (fun s hs => encendida_acotado hs)
      fun s e s' hi hs => (acotado_congr (paso_limites hs.1)).mpr hi
  exact tolera_iff hs

lemma tres_encendida : Encendida enlace (soltarVideo (Layout.nucleoTres 3), none) := by
  refine ⟨Layout.tres.kernelFin, Layout.tres.memOff, Layout.tres.ram, _, by decide, by decide, ?_,
    rfl⟩
  have h : ∀ n, Reach (fun k => ∃ mem propias, k = Turns.nucleo enlace mem (mmInicial
      Layout.tres.kernelFin Layout.tres.memOff Layout.tres.ram) propias)
      (fun k (_ : Unit) k' => Turns.Carga enlace k k') (Layout.nucleoTres n) := by
    intro n
    induction n with
    | zero => exact .init ⟨_, _, Turns.arranque_nucleo Layout.tres⟩
    | succ n ih => exact ih.step (a := ()) (.exec _ _ _)
  exact h 3

lemma tarea_video (h : Tarea k t) : Tarea (soltarVideo k) t := h

/-- Page 5000 is tolerated. -/
theorem sys_mem_tolera_tres :
    Tolera 5000 { (soltarVideo (Layout.nucleoTres 3)) with tIndice := 3 } :=
  (sys_mem_tolera (.init tres_encendida) 3 5000).mpr ⟨by decide, fun h => by cases h⟩

/-- For the page after the last the byte after the map is looked at. -/
theorem sys_mem_no_tolera :
    Reach (Encendida enlace) Prudente (soltarVideo (Layout.nucleoTres 3), none) ∧
    Tarea (soltarVideo (Layout.nucleoTres 3)) 3 ∧
    .mapa MAP_LEN ∈ accesos PAG_MEM (soltarVideo (Layout.nucleoTres 3)).mm ∧
    ¬ Tolera PAG_MEM { (soltarVideo (Layout.nucleoTres 3)) with tIndice := 3 } := by
  have hno : ∀ k : Kernel, .mapa MAP_LEN ∈ accesos PAG_MEM k.mm ∧ ¬ Tolera PAG_MEM k := by
    intro k
    have hin : .mapa MAP_LEN ∈ accesos PAG_MEM k.mm := accesos_mapa k.mm (by decide)
    exact ⟨hin, fun h => Nat.lt_irrefl MAP_LEN (h.dentro _ hin)⟩
  exact ⟨.init tres_encendida, tarea_video (Layout.tres_tarea (by decide)), (hno _).1, (hno _).2⟩

end Silicio.Grants
