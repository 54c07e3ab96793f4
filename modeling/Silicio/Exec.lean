import Silicio.Registry

/-!
`exec` against what a caller may expect of it: a task that can run, or nothing done at all.

Five of the six things `exec` takes come from allocators whose failure it does not look at, and
it returns the number of the slot whatever happens after the slot is found. So the two outcomes
are met only when there is no slot, or when there is enough of everything. `set_tss`, one of the
five, fails where its search stops at the last entry, be that entry free or not.
-/

namespace Silicio.Exec

open Silicio.Bitmap Silicio.Defs Silicio.Mm Silicio.Tasks Silicio.Registry

variable {l : Link} {start fin : ℕ} {k : Kernel}

def DelModulo (start fin p : ℕ) : Prop :=
  start / PAG_LEN ≤ p ∧ p < start / PAG_LEN + cantPaginas start fin

/-- Slot `id` of `k'` holds a task that can run, made of things that were free in `k`. -/
structure Completa (l : Link) (start fin : ℕ) (k : Kernel) (id : ℕ) (k' : Kernel) : Prop where
  lugar : (k.rTareas id).task = 0
  activa : (k'.rTareas id).status = .running
  tss : ∃ j < MAX_TASK, (k'.rTareas id).taskTss = some j ∧ (k.tss (some j)).cs = 0 ∧
    (k'.tss (some j)).cs ≠ 0
  puerta : ∃ i, 4 ≤ i ∧ i + 1 < MAX_GDT ∧ (k'.rTareas id).task = 8 * (i + 1) ∧
    (k.gdt i).acceso = 0 ∧ (k.gdt (i + 1)).acceso = 0 ∧
    k'.gdt i = descTss (l.dirTss (k'.rTareas id).taskTss) ∧
    k'.gdt (i + 1) = descPuerta (i * 8) (k.gdt (i + 1))
  directorio : (k'.tssOf id).cr3 = 4096 * (k'.tssOf id).pagVirtual 0 % 2 ^ 32
  distintas : [(k'.tssOf id).pagVirtual 0, (k'.tssOf id).pagVirtual 1, (k'.tssOf id).pagStack].Nodup
  libres : ∀ p ∈ [(k'.tssOf id).pagVirtual 0, (k'.tssOf id).pagVirtual 1, (k'.tssOf id).pagStack],
    p ≠ 0 ∧ ocupada k.mm p = false ∧ ¬ DelModulo start fin p ∧ ocupada k'.mm p = true
  modulo : ∀ c < cantPaginas start fin, (k'.tssOf id).pagMem c = start / PAG_LEN + c ∧
    ocupada k'.mm (start / PAG_LEN + c) = true

/-- The two outcomes a caller may expect. -/
def Limpia (l : Link) (start fin : ℕ) (k : Kernel) (r : ℕ × Kernel) : Prop :=
  (r.1 ≠ 0 ∧ Completa l start fin k r.1 r.2) ∨ (r.1 = 0 ∧ r.2 = k)

/-- There is enough of everything but slots: the module is not too large, a TSS `set_tss` can
return, a pair of GDT entries where the search stops, and three pages beside the module's. -/
structure Cabe (start fin : ℕ) (k : Kernel) : Prop where
  modulo : cantPaginas start fin ≤ MAX_PAG_DRIVER
  tss : ∃ j < MAX_TASK - 1, (k.tss (some j)).cs = 0
  gdt : descLibre k.gdt + 1 < MAX_GDT ∧ (k.gdt (descLibre k.gdt + 1)).acceso = 0
  paginas : 3 ≤ (candidatas (setMems (start / PAG_LEN) (cantPaginas start fin) k.mm)).card
  cero : 0 ∉ candidatas (setMems (start / PAG_LEN) (cantPaginas start fin) k.mm)

/-! ### One resource at a time -/

lemma exists_tssLibre {n : Ptr → Tss} :
    (∃ j, tssLibre n = some j) ↔ ∃ j < MAX_TASK - 1, (n (some j)).cs = 0 := by
  constructor
  · rintro ⟨j, hj⟩
    obtain ⟨hlt, h0, -⟩ := tssLibre_eq_some.mp hj
    exact ⟨j, hlt, h0⟩
  · rintro ⟨j, hlt, h0⟩
    cases h : tssLibre n with
    | none => exact absurd h0 (tssLibre_eq_none.mp h j hlt)
    | some i => exact ⟨i, rfl⟩

/-- The gate `set_desc_tss` returns is one of a free pair just when the search stops at one. -/
lemma exists_puerta {m : ℕ} {d : ℕ → Gdtp} :
    (∃ i, 4 ≤ i ∧ i + 1 < MAX_GDT ∧ 8 * (setDescTss m d).1 = 8 * (i + 1) ∧
      (d i).acceso = 0 ∧ (d (i + 1)).acceso = 0 ∧ (setDescTss m d).2 i = descTss m ∧
      (setDescTss m d).2 (i + 1) = descPuerta (i * 8) (d (i + 1))) ↔
      descLibre d + 1 < MAX_GDT ∧ (d (descLibre d + 1)).acceso = 0 := by
  obtain ⟨h4, hle⟩ := descLibre_bounds d
  rcases eq_or_ne (descLibre d) MAX_GDT with hfull | hlibre
  · rw [setDescTss_lleno hfull, hfull]
    constructor
    · rintro ⟨i, -, -, h, -⟩
      omega
    · rintro ⟨h, -⟩
      omega
  · rw [setDescTss_libre hlibre]
    constructor
    · rintro ⟨i, -, hlt, hi, -, hf, -⟩
      obtain rfl : i = descLibre d := by omega
      exact ⟨hlt, hf⟩
    · rintro ⟨hlt, hf⟩
      refine ⟨descLibre d, h4, hlt, rfl, acceso_descLibre hlibre, hf, ?_, ?_⟩
      · simp only [Function.update_of_ne (show descLibre d ≠ descLibre d + 1 by omega),
          Function.update_self]
      · simp only [Function.update_self]

lemma libre_setMems {a n : ℕ} {mm : Mm} {p : ℕ} :
    ocupada (setMems a n mm) p = false ↔ ocupada mm p = false ∧ ¬ (a ≤ p ∧ p < a + n) := by
  rw [setMems_ocupada, Bool.or_eq_false_iff, decide_eq_false_iff_not]

/-! ### The whole call -/

/-- The three pages of a load are new and different just when there are three to find. -/
lemma espacio_libre_iff (hmax : k.mm.memMax < 2 ^ 32) :
    ([(espacio start fin k).dir, (espacio start fin k).tabla, (espacio start fin k).pila].Nodup ∧
      ∀ p ∈ [(espacio start fin k).dir, (espacio start fin k).tabla, (espacio start fin k).pila],
        p ≠ 0 ∧ ocupada k.mm p = false ∧ ¬ DelModulo start fin p) ↔
      3 ≤ (candidatas (setMems (start / PAG_LEN) (cantPaginas start fin) k.mm)).card ∧
        0 ∉ candidatas (setMems (start / PAG_LEN) (cantPaginas start fin) k.mm) := by
  have hpag := @reservar_iff 3 (setMems (start / PAG_LEN) (cantPaginas start fin) k.mm)
    (by rwa [setMems_memMax])
  rw [reservar_espacio] at hpag
  constructor
  · rintro ⟨hd, hl⟩
    obtain ⟨h3, h0⟩ := hpag.mp ⟨hd, fun p hp =>
      ⟨(hl p hp).1, libre_setMems.mpr (hl p hp).2⟩⟩
    exact ⟨h3, h0 (by decide)⟩
  · rintro ⟨h3, h0⟩
    obtain ⟨hd, hl⟩ := hpag.mpr ⟨h3, fun _ => h0⟩
    exact ⟨hd, fun p hp => ⟨(hl p hp).1, libre_setMems.mp (hl p hp).2⟩⟩

section
variable (cs ds : ℕ) (l : Link) (name : ℕ → Byte)

lemma cargar_lugar (h : Admite start fin k) :
    let r := (cargar cs ds l start fin name k).2.rTareas (tareaLibre k.rTareas)
    r.task = 8 * (setDescTss (l.dirTss (tssLibre k.tss)) k.gdt).1 ∧
      r.taskTss = tssLibre k.tss ∧ r.status = .running := by
  simp only [cargar_rTareas cs ds l name h, Function.update_self, and_self]

lemma cargar_tssOf (h : Admite start fin k) {j : ℕ} (hj : tssLibre k.tss = some j) :
    (cargar cs ds l start fin name k).2.tssOf (tareaLibre k.rTareas) =
      (cargar cs ds l start fin name k).2.tss (some j) := by
  rw [Kernel.tssOf, (cargar_lugar cs ds l name h).2.1, hj]

lemma Completa.cabe (hmax : k.mm.memMax < 2 ^ 32) (h : Admite start fin k)
    (hc : Completa l start fin k (tareaLibre k.rTareas) (cargar cs ds l start fin name k).2) :
    Cabe start fin k := by
  obtain ⟨htask, htt, -⟩ := cargar_lugar cs ds l name h
  have hpuerta := hc.puerta
  rw [htask, htt, cargar_gdt _ _ _ _ h] at hpuerta
  obtain ⟨j, -, htss, -⟩ := hc.tss
  rw [htt] at htss
  obtain ⟨-, -, -, -, hdir, htabla, hpila⟩ := cargar_tss cs ds l name h htss
  have hd := hc.distintas
  have hl := hc.libres
  rw [cargar_tssOf cs ds l name h htss, hdir, htabla, hpila] at hd hl
  obtain ⟨h3, h0⟩ := (espacio_libre_iff hmax).mp ⟨hd, fun p hp =>
    ⟨(hl p hp).1, (hl p hp).2.1, (hl p hp).2.2.1⟩⟩
  exact ⟨h.2, exists_tssLibre.mp ⟨j, htss⟩, exists_puerta.mp hpuerta, h3, h0⟩

lemma Cabe.completa (hcs : cs ≠ 0) (hmax : k.mm.memMax < 2 ^ 32) (h : Admite start fin k)
    (hc : Cabe start fin k) :
    Completa l start fin k (tareaLibre k.rTareas) (cargar cs ds l start fin name k).2 := by
  obtain ⟨htask, htt, hrun⟩ := cargar_lugar cs ds l name h
  obtain ⟨j, htss⟩ := exists_tssLibre.mpr hc.tss
  obtain ⟨hj, hcs0, -⟩ := tssLibre_eq_some.mp htss
  obtain ⟨hcs', hcr3, -, hmod, hdir, htabla, hpila⟩ := cargar_tss cs ds l name h htss
  have hof := cargar_tssOf cs ds l name h htss
  obtain ⟨hnd, hfree⟩ := (espacio_libre_iff hmax).mpr ⟨hc.paginas, hc.cero⟩
  have hocc : ∀ p, ocupada (cargar cs ds l start fin name k).2.mm p = true ↔
      ocupada (setMems (start / PAG_LEN) (cantPaginas start fin) k.mm) p = true ∨
        p ∈ [(espacio start fin k).dir, (espacio start fin k).tabla,
          (espacio start fin k).pila] := by
    intro p
    rw [cargar_mm _ _ _ _ h, reservar_ocupada, reservar_espacio]
  refine ⟨task_tareaLibre h.1, hrun, ⟨j, by omega, htt.trans htss, hcs0, ?_⟩, ?_, ?_, ?_, ?_, ?_⟩
  · rw [hcs']
    exact hcs
  · rw [htask, htt, cargar_gdt _ _ _ _ h]
    exact exists_puerta.mpr hc.gdt
  · rw [hof, hcr3, hdir]
  · rw [hof, hdir, htabla, hpila]
    exact hnd
  · rw [hof, hdir, htabla, hpila]
    intro p hp
    obtain ⟨h0, hf1, hf2⟩ := hfree p hp
    exact ⟨h0, hf1, hf2, (hocc p).mpr (Or.inr hp)⟩
  · intro c hcp
    rw [hof, hmod, notarPaginas_apply, if_pos hcp, hocc, setMems_ocupada, Bool.or_eq_true,
      decide_eq_true_eq]
    exact ⟨rfl, Or.inl (Or.inr ⟨by omega, by omega⟩)⟩

end

lemma completa_iff {cs : ℕ} (ds : ℕ) (name : ℕ → Byte) (hcs : cs ≠ 0)
    (hmax : k.mm.memMax < 2 ^ 32) (h : Admite start fin k) :
    Completa l start fin k (tareaLibre k.rTareas) (cargar cs ds l start fin name k).2 ↔
      Cabe start fin k :=
  ⟨Completa.cabe cs ds l name hmax h, Cabe.completa cs ds l name hcs hmax h⟩

/-- A call ends well just when it finds no slot or there is enough of everything. -/
lemma cargar_limpia_iff {cs ds : ℕ} {name : ℕ → Byte} (hcs : cs ≠ 0)
    (hmax : k.mm.memMax < 2 ^ 32) :
    Limpia l start fin k (cargar cs ds l start fin name k) ↔
      tareaLibre k.rTareas = 0 ∨ Cabe start fin k := by
  rw [Limpia, cargar_fst]
  rcases eq_or_ne (tareaLibre k.rTareas) 0 with h0 | h0
  · have hno : ¬ Admite start fin k := fun h => h.1 h0
    simp [h0, cargar_rechazo cs ds l name hno]
  · by_cases hpag : cantPaginas start fin ≤ MAX_PAG_DRIVER
    · have hiff := completa_iff (l := l) ds name hcs hmax ⟨h0, hpag⟩
      rw [hiff]
      tauto
    · -- the slot is named but nothing is put in it
      have hno : ¬ Admite start fin k := fun h => hpag h.2
      rw [cargar_rechazo cs ds l name hno]
      constructor
      · rintro (⟨-, hc⟩ | ⟨h, -⟩)
        · obtain ⟨i, -, -, ht, -⟩ := hc.puerta
          have := hc.lugar
          omega
        · exact absurd h h0
      · rintro (h | h)
        · exact absurd h h0
        · exact absurd h.modulo hpag

/-- **When `exec` and `execd` fail cleanly or succeed completely**: exactly when there is no
free slot, or the module has at most `MAX_PAG_DRIVER` pages, one of the first 99 TSSs is free,
the first free GDT entry is below 199 with the next one free too, and the page search has
three candidates beside the pages of the module, page 0 not among them. -/
theorem exec_limpia_iff (hmax : k.mm.memMax < 2 ^ 32) (name : ℕ → Byte) :
    (Limpia l start fin k (exec l start fin name k) ↔
      tareaLibre k.rTareas = 0 ∨ Cabe start fin k) ∧
    (Limpia l start fin k (execd l start fin name k) ↔
      tareaLibre k.rTareas = 0 ∨ Cabe start fin k) :=
  ⟨cargar_limpia_iff (by decide) hmax, cargar_limpia_iff (by decide) hmax⟩

/-- The kernel's own tasks, in 16 MB of memory of which the first 372 pages are taken. -/
def conMemoria : Kernel := { tresTareas enlace with mm := setMems 0 372 ⟨fun _ => 0, 4096, 372⟩ }

lemma conMemoria_candidata {p : ℕ} :
    p ∈ candidatas (setMems (0x170000 / PAG_LEN) (cantPaginas 0x170000 0x171000) conMemoria.mm) ↔
      372 ≤ p ∧ p < 4096 := by
  have hi : inicio (⟨fun _ => 0, 4096, 372⟩ : Mm) = 45 := by decide
  have h0 : ocupada (⟨fun _ => 0, 4096, 372⟩ : Mm) p = false := by simp [bit]
  unfold candidatas conMemoria
  simp only [inicio_setMems, setMems_memMax, hi]
  rw [if_pos (by decide), Finset.mem_filter, Finset.mem_Ico, libre_setMems, libre_setMems,
    show cantPaginas 0x170000 0x171000 = 1 by decide]
  simp only [h0, PAG_LEN, true_and]
  omega

lemma tres_candidatas {mm : Mm} (h : ∀ p, p ∈ candidatas mm ↔ 372 ≤ p ∧ p < 4096) :
    3 ≤ (candidatas mm).card ∧ 0 ∉ candidatas mm := by
  refine ⟨?_, fun h0 => ?_⟩
  · have hsub : {372, 373, 374} ⊆ candidatas mm := by
      intro p hp
      simp only [Finset.mem_insert, Finset.mem_singleton] at hp
      exact (h p).mpr (by omega)
    exact le_trans (by decide) (Finset.card_le_card hsub)
  · have := (h 0).mp h0
    omega

lemma conMemoria_cabe : Cabe 0x170000 0x171000 conMemoria := by
  have hreg : Registro 3 (tresTareas enlace) := tresTareas_registro enlace
  have hd : descLibre (tresTareas enlace).gdt = 10 := hreg.descLibre.trans (by decide)
  obtain ⟨h3, h0⟩ := tres_candidatas fun p => conMemoria_candidata (p := p)
  refine ⟨by decide, ⟨3, by decide, ?_⟩, ?_, h3, h0⟩
  · by_contra hne
    exact absurd ((hreg.tss 3 (by decide)).mp hne) (by decide)
  · show descLibre (tresTareas enlace).gdt + 1 < MAX_GDT ∧
      ((tresTareas enlace).gdt (descLibre (tresTareas enlace).gdt + 1)).acceso = 0
    rw [hd]
    refine ⟨by decide, ?_⟩
    by_contra hne
    exact absurd ((hreg.gdt 11 (by decide) (by decide)).mp hne) (by decide)

/-- One page of module after the kernel's own tasks: slot 3 holds a task that can run. -/
theorem exec_limpia_modulo : Limpia enlace 0x170000 0x171000 conMemoria
    (exec enlace 0x170000 0x171000 (fun _ => 0) conMemoria) :=
  (exec_limpia_iff (by rw [conMemoria, setMems_memMax]; decide) _).1.mpr (Or.inr conMemoria_cabe)

/-- A module of 15 pages: `exec` returns slot 3 and leaves it empty. -/
theorem exec_quince_paginas :
    (exec enlace 0x170000 0x17f000 (fun _ => 0) (tresTareas enlace)).1 = 3 ∧
    ¬ Limpia enlace 0x170000 0x17f000 (tresTareas enlace)
      (exec enlace 0x170000 0x17f000 (fun _ => 0) (tresTareas enlace)) := by
  have hlibre : tareaLibre (tresTareas enlace).rTareas = 3 :=
    (tresTareas_registro enlace).tareaLibre
  refine ⟨(cargar_fst _ _ _ _ _ _ _).trans hlibre, fun h => ?_⟩
  rcases (cargar_limpia_iff (by decide) (by decide +kernel)).mp h with h0 | hc
  · rw [hlibre] at h0
    cases h0
  · exact absurd hc.modulo (by decide)

/-! ### What `set_tss` finds -/

section
variable (tarea code data esp eflag esp0 data0 : ℕ)

structure Llena (t : Tss) : Prop where
  eip : t.eip = tarea
  cs : t.cs = code
  datos : t.ds = data ∧ t.es = data ∧ t.fs = data ∧ t.gs = data ∧ t.ss = data
  pila : t.esp = esp
  anillos : (t.esp0 = esp0 ∧ t.ss0 = data0) ∧ (t.esp1 = esp0 ∧ t.ss1 = data0) ∧
    t.esp2 = esp0 ∧ t.ss2 = data0
  eflag : t.eflag = eflag
  bitMap : t.bitMap = TSS_IOBP

/-- What `set_tss` owes, of the table before and of what it returns: the first free entry filled
and the rest as it was, or 0 and nothing changed. -/
structure Halla (n : Ptr → Tss) (r : Ptr × (Ptr → Tss)) : Prop where
  hay : ∀ j < MAX_TASK, (n (some j)).cs = 0 → (∀ i < j, (n (some i)).cs ≠ 0) →
    r.1 = some j ∧ Llena tarea code data esp eflag esp0 data0 (r.2 (some j)) ∧
      ∀ q, q ≠ some j → r.2 q = n q
  nada : (∀ j < MAX_TASK, (n (some j)).cs ≠ 0) → r.1 = none ∧ r.2 = n

variable {tarea code data esp eflag esp0 data0} {n : Ptr → Tss}

lemma setTss_some {j : ℕ} (hj : tssLibre n = some j) :
    setTss tarea code data esp eflag esp0 data0 n = (some j, Function.update n (some j)
      (tssNuevo tarea code data esp eflag esp0 data0 (n (some j)))) := by
  unfold setTss
  rw [hj]

lemma setTss_none (h : tssLibre n = none) :
    setTss tarea code data esp eflag esp0 data0 n = (none, n) := by
  unfold setTss
  rw [h]

variable (tarea code data esp eflag esp0 data0)

/-- **A free TSS is found** whatever the table holds, unless it is the last entry and there is no
other. -/
theorem set_tss_libre : Halla tarea code data esp eflag esp0 data0 n
      (setTss tarea code data esp eflag esp0 data0 n) ↔
    ((n (some (MAX_TASK - 1))).cs = 0 → ∃ i < MAX_TASK - 1, (n (some i)).cs = 0) := by
  constructor
  · intro h h0
    by_contra hno
    have hno' : ∀ i < MAX_TASK - 1, (n (some i)).cs ≠ 0 := fun i hi hc => hno ⟨i, hi, hc⟩
    obtain ⟨hr, -⟩ := h.hay (MAX_TASK - 1) (by decide) h0 hno'
    rw [setTss_none (tssLibre_eq_none.mpr hno')] at hr
    cases hr
  · intro hultima
    refine ⟨fun j hj h0 hno => ?_, fun hall => ?_⟩
    · -- the last entry is not the first free one
      have hlt : j < MAX_TASK - 1 := by
        by_contra hge
        obtain rfl : j = MAX_TASK - 1 := by omega
        obtain ⟨i, hi, hc⟩ := hultima h0
        exact hno i hi hc
      rw [setTss_some (tssLibre_eq_some.mpr ⟨hlt, h0, hno⟩)]
      refine ⟨rfl, ?_, fun q hq => Function.update_of_ne hq _ _⟩
      simp only [Function.update_self]
      exact ⟨rfl, rfl, ⟨rfl, rfl, rfl, rfl, rfl⟩, rfl, ⟨⟨rfl, rfl⟩, ⟨rfl, rfl⟩, rfl, rfl⟩, rfl, rfl⟩
    · rw [setTss_none (tssLibre_eq_none.mpr fun j hj => hall j (by omega))]
      exact ⟨rfl, rfl⟩

end

def tablaLlena (q : Ptr) : Tss :=
  { (Kernel.cargado fun _ => 0).tss q with cs := if q = some 99 then 0 else USER_CS }

/-- A free entry that is the last is not found. -/
theorem set_tss_ultima :
    (setTss (V_USER * 4096) USER_CS USER_DS 0x3fffff 0x200 0x14a707 KERNEL_DS tablaLlena).1 = none ∧
    ¬ Halla (V_USER * 4096) USER_CS USER_DS 0x3fffff 0x200 0x14a707 KERNEL_DS tablaLlena
      (setTss (V_USER * 4096) USER_CS USER_DS 0x3fffff 0x200 0x14a707 KERNEL_DS tablaLlena) := by
  have hno : ∀ j < MAX_TASK - 1, (tablaLlena (some j)).cs ≠ 0 := by
    intro j hj
    have hne : j ≠ 99 := by
      simp only [MAX_TASK] at hj
      omega
    simp [tablaLlena, hne]
  have hnone : (setTss (V_USER * 4096) USER_CS USER_DS 0x3fffff 0x200 0x14a707 KERNEL_DS
      tablaLlena).1 = none := by
    rw [setTss_fst]
    exact tssLibre_eq_none.mpr hno
  refine ⟨hnone, fun h => ?_⟩
  obtain ⟨hr, -⟩ := h.hay (MAX_TASK - 1) (by decide) rfl hno
  rw [hnone] at hr
  cases hr

end Silicio.Exec
