import Silicio.Contexts

/-!
The tables when `task_control` begins.

`ltr` marks the descriptor of `task_control` before the other loads; no load looks at the mark, so
the tables are those of the same loads with the mark set at the end. Each TSS has the segments and
flags its load gave it: those of the kernel for its own three tasks, those of the user for modules.
-/

namespace Silicio.Startup

open Silicio.Loop Silicio.Bitmap Silicio.Bytes Silicio.Defs Silicio.Mm Silicio.Mmu Silicio.Paging
open Silicio.Strings Silicio.Tasks Silicio.Registry Silicio.Gates Silicio.Runs
open Silicio.Processor Silicio.Contexts

variable {l : Link} {n : Nucleo} {N : ℕ} {k k' : Kernel}

/-! ### The mark -/

def ltrGdt (d : ℕ → Gdtp) : ℕ → Gdtp := Function.update d 4 (marcar (d 4))

lemma ltr_eq (k : Kernel) : ltr k = { k with gdt := ltrGdt k.gdt } := rfl

lemma ltr_gdt (k : Kernel) (i : ℕ) :
    (ltr k).gdt i = if i = 4 then marcar (k.gdt 4) else k.gdt i := Function.update_apply _ _ _ _

lemma ltrGdt_acceso {d : ℕ → Gdtp} (h4 : (d 4).acceso ≠ 0) (i : ℕ) :
    (ltrGdt d i).acceso = 0 ↔ (d i).acceso = 0 := by
  unfold ltrGdt
  rw [Function.update_apply]
  split
  · next hi =>
    subst hi
    refine iff_of_false (fun h0 => ?_) h4
    have := (Nat.or_eq_zero_iff.mp h0).2
    omega
  · rfl

lemma descLibre_ltr {d : ℕ → Gdtp} (h4 : (d 4).acceso ≠ 0) :
    descLibre (ltrGdt d) = descLibre d := by
  unfold descLibre
  congr 1
  ext i
  have h := ltrGdt_acceso h4 i
  by_cases h0 : (d i).acceso = 0
  · simp [h0, h.mpr h0]
  · simp [h0, h.not.mpr h0]

/-- `set_desc_tss` does not see the mark. -/
lemma setDescTss_ltr {d : ℕ → Gdtp} (h4 : (d 4).acceso ≠ 0) (a : ℕ) :
    setDescTss a (ltrGdt d) = ((setDescTss a d).1, ltrGdt (setDescTss a d).2) := by
  by_cases hl : descLibre d = MAX_GDT
  · rw [setDescTss_lleno hl, setDescTss_lleno (by rw [descLibre_ltr h4, hl])]
  · have hge := (descLibre_bounds d).1
    have h5 : descLibre d ≠ 4 := fun he => h4 (he ▸ acceso_descLibre hl)
    rw [setDescTss_libre hl, setDescTss_libre (by rw [descLibre_ltr h4]; exact hl),
      descLibre_ltr h4]
    refine Prod.ext rfl ?_
    unfold ltrGdt
    simp only
    rw [Function.update_of_ne (by omega : descLibre d + 1 ≠ 4),
      Function.update_of_ne (by omega : (4 : ℕ) ≠ descLibre d + 1), Function.update_of_ne h5.symm,
      Function.update_comm (by omega : (4 : ℕ) ≠ descLibre d),
      Function.update_comm (by omega : (4 : ℕ) ≠ descLibre d + 1)]

lemma execs_ltr (start pila : ℕ) (name : ℕ → Byte) (h4 : (k.gdt 4).acceso ≠ 0) :
    (execs l start pila name (ltr k)).2 = ltr (execs l start pila name k).2 := by
  unfold execs
  simp only [ltr_eq]
  rw [setDescTss_ltr h4]

lemma kernel_ext (hmem : k'.mem = k.mem) (hmm : k'.mm = k.mm) (hgDir : k'.gDir = k.gDir)
    (hgTab : k'.gTab = k.gTab) (hrun : k'.rTareas = k.rTareas) (hdrv : k'.rDrv = k.rDrv)
    (htss : k'.tss = k.tss) {d : ℕ → Gdtp} (hgdt : k'.gdt = d) (hport : k'.rPort = k.rPort)
    (ht : k'.tIndice = k.tIndice) : k' = { k with gdt := d } := by
  cases k'
  simp only at hmem hmm hgDir hgTab hrun hdrv htss hgdt hport ht
  rw [hmem, hmm, hgDir, hgTab, hrun, hdrv, htss, hgdt, hport, ht]

/-- A load reads the GDT to set a descriptor, and for nothing else. -/
lemma exec_campo (start fin : ℕ) (name : ℕ → Byte) (d : ℕ → Gdtp) {β : Type*} {f : Kernel → β}
    (hf : ∀ mem mm gDir gTab r r' rDrv tss d d' rPort t, f ⟨mem, mm, gDir, gTab, r, rDrv, tss, d,
      rPort, t⟩ = f ⟨mem, mm, gDir, gTab, r', rDrv, tss, d', rPort, t⟩) :
    f (exec l start fin name { k with gdt := d }).2 = f (exec l start fin name k).2 := by
  by_cases ha : Admite start fin k
  · have ha' : Admite start fin { k with gdt := d } := ha
    unfold exec cargar
    simp only
    rw [if_pos ha, if_pos ha']
    exact hf _ _ _ _ _ _ _ _ _ _ _ _
  · have ha' : ¬ Admite start fin { k with gdt := d } := ha
    rw [exec, exec, cargar_rechazo _ _ _ _ ha, cargar_rechazo _ _ _ _ ha']
    exact hf _ _ _ _ _ _ _ _ _ _ _ _

lemma exec_ltr (start fin : ℕ) (name : ℕ → Byte) (h4 : (k.gdt 4).acceso ≠ 0) :
    (exec l start fin name (ltr k)).2 = ltr (exec l start fin name k).2 := by
  by_cases ha : Admite start fin k
  · have ha' : Admite start fin (ltr k) := ha
    have hcampos := exec_campo (l := l) (k := k) start fin name (ltrGdt k.gdt)
      (f := fun k => (k.mem, k.mm, k.gDir, k.gTab, k.rDrv, k.tss, k.rPort, k.tIndice))
      fun _ _ _ _ _ _ _ _ _ _ _ _ => rfl
    have hgdt : (exec l start fin name (ltr k)).2.gdt =
        ltrGdt (exec l start fin name k).2.gdt := by
      rw [exec, exec, cargar_gdt _ _ _ _ ha, cargar_gdt _ _ _ _ ha']
      exact congrArg Prod.snd (setDescTss_ltr h4 _)
    have hrun : (exec l start fin name (ltr k)).2.rTareas =
        (exec l start fin name k).2.rTareas := by
      rw [exec, exec, cargar_rTareas _ _ _ _ ha, cargar_rTareas _ _ _ _ ha']
      have hi := congrArg Prod.fst (setDescTss_ltr h4 (l.dirTss (tssLibre k.tss)))
      exact congrArg (fun i => Function.update k.rTareas (tareaLibre k.rTareas)
        ⟨(strcpy name (k.rTareas (tareaLibre k.rTareas)).name).2, 8 * i, tssLibre k.tss,
          .running⟩) hi
    rw [← ltr_eq] at hcampos
    simp only [Prod.mk.injEq] at hcampos
    obtain ⟨h1, h2, h3, h4, h5, h6, h7, h8⟩ := hcampos
    exact kernel_ext h1 h2 h3 h4 hrun h5 h6 hgdt h7 h8
  · have ha' : ¬ Admite start fin (ltr k) := ha
    rw [exec, exec, cargar_rechazo _ _ _ _ ha, cargar_rechazo _ _ _ _ ha']

/-! ### The TSSs -/

structure Nueva (cs ds eflag : ℕ) (s : Tss) : Prop where
  ldt : s.ldt = 0x18
  cs : s.cs = cs
  ss : s.ss = ds
  datos : s.ds = ds ∧ s.es = ds ∧ s.fs = ds ∧ s.gs = ds
  eflag : s.eflag = eflag

lemma exec_nueva {start fin : ℕ} (name : ℕ → Byte) (ha : Admite start fin k) {j : ℕ}
    (hj : tssLibre k.tss = some j) :
    Nueva USER_CS USER_DS 0x200 ((exec l start fin name k).2.tss (some j)) := by
  unfold exec cargar
  simp only
  rw [if_pos ha]
  simp only [setTss_fst, hj, Function.update_self, setTss_snd]
  rw [if_pos ⟨trivial, by simp⟩]
  exact ⟨rfl, rfl, rfl, ⟨rfl, rfl, rfl, rfl⟩, rfl⟩

lemma execs_nueva (start pila : ℕ) (name : ℕ → Byte) {j : ℕ} (hj : tssLibre k.tss = some j) :
    let s := (execs l start pila name k).2.tss (some j)
    Nueva KERNEL_CS KERNEL_DS 0 s ∧ s.eip = start ∧ s.cr3 = k.gDir := by
  unfold execs
  simp only [setTss_fst, hj, Function.update_self, setTss_snd]
  rw [if_pos ⟨trivial, by simp⟩]
  exact ⟨⟨rfl, rfl, rfl, ⟨rfl, rfl, rfl, rfl⟩, rfl⟩, rfl, trivial⟩

lemma execs_tss_of_ne (start pila : ℕ) (name : ℕ → Byte) {q : Ptr} (hq : q ≠ tssLibre k.tss) :
    (execs l start pila name k).2.tss q = k.tss q := by
  unfold execs
  simp only [setTss_fst]
  rw [Function.update_of_ne hq, setTss_snd, if_neg fun hc => hq hc.1]

def gdtLdt (l : Link) : ℕ → Gdtp := Function.update gdtBoot 3 (descLdt l.ldtP)

/-- The tables after the `N` loads of a boot, without the mark. -/
structure Cargas (n : Nucleo) (N : ℕ) (k : Kernel) : Prop where
  registro : Registro N k
  puertas : Puertas n.enlace (gdtLdt n.enlace) N k.gdt
  propia : ∀ t < N, t < 3 → Nueva KERNEL_CS KERNEL_DS 0 (k.tss (some t)) ∧
    (k.tss (some t)).eip = (n.propias t).1 ∧ (k.tss (some t)).cr3 = k.gDir
  usuario : ∀ t < N, 3 ≤ t → t < PARES → Nueva USER_CS USER_DS 0x200 (k.tss (some t))
  fuera : ∀ i, MAX_GDT ≤ i → (k.gdt i).acceso = 0

lemma Cargas.alta_fuera (h : Cargas n N k) (a : ℕ) {i : ℕ} (hi : MAX_GDT ≤ i) :
    ((setDescTss a k.gdt).2 i).acceso = 0 := by
  have hl := h.registro.descLibre
  simp only [PARES, MAX_GDT] at hl hi
  split at hl
  · rw [setDescTss_libre (by simp only [MAX_GDT]; omega), hl]
    simp only
    rw [Function.update_of_ne (by omega), Function.update_of_ne (by omega)]
    exact h.fuera i hi
  · rw [setDescTss_lleno hl]
    exact h.fuera i hi

lemma Cargas.execs {t : ℕ} (h : Cargas n t k) (ht : t < 3) :
    Cargas n (t + 1)
      (execs n.enlace (n.propias t).1 (n.propias t).2.1 (n.propias t).2.2 k).2 := by
  have hlibre : tssLibre k.tss = some t := by
    rw [h.registro.tssLibre, if_pos (by simp only [MAX_TASK]; omega)]
  refine ⟨execs_registro _ _ _ _ h.registro, ?_, fun u hu hu3 => ?_, fun u hu h3 => by omega,
    fun i hi => ?_⟩
  · rw [execs_gdt]
    exact h.puertas.alta h.registro
  · rcases Nat.lt_succ_iff_lt_or_eq.mp hu with hlt | rfl
    · rw [execs_tss_of_ne _ _ _ (by rw [hlibre]; intro hc; have := Option.some.inj hc; omega)]
      exact h.propia u hlt hu3
    · exact execs_nueva _ _ _ hlibre
  · rw [execs_gdt]
    exact h.alta_fuera _ hi

lemma Cargas.exec (h : Cargas n N k) (hN : 3 ≤ N) (start fin : ℕ) (name : ℕ → Byte) :
    ∃ M, 3 ≤ M ∧ Cargas n M (exec n.enlace start fin name k).2 := by
  by_cases ha : Admite start fin k
  · have hlibre := h.registro.tssLibre
    refine ⟨N + 1, by omega, cargar_registro USER_DS n.enlace name (by decide) ha h.registro, ?_,
      fun t _ h3 => ?_, fun t ht h3 hp => ?_, fun i hi => ?_⟩
    · rw [Tasks.exec, cargar_gdt _ _ _ _ ha]
      exact h.puertas.alta h.registro
    · have hne : some t ≠ tssLibre k.tss := by
        rw [hlibre]
        split
        · intro hc
          have := Option.some.inj hc
          omega
        · simp
      rw [Tasks.exec, cargar_tss_of_ne _ _ _ _ ha hne, cargar_gDir]
      exact h.propia t (by omega) h3
    · rcases Nat.lt_succ_iff_lt_or_eq.mp ht with hlt | rfl
      · have hne : some t ≠ tssLibre k.tss := by
          rw [hlibre]
          split
          · intro hc
            have := Option.some.inj hc
            omega
          · simp
        rw [Tasks.exec, cargar_tss_of_ne _ _ _ _ ha hne]
        exact h.usuario t hlt h3 hp
      · rw [if_pos (by simp only [PARES, MAX_GDT, MAX_TASK] at hp ⊢; omega)] at hlibre
        exact exec_nueva name ha hlibre
    · rw [Tasks.exec, cargar_gdt _ _ _ _ ha]
      exact h.alta_fuera _ hi
  · rw [Tasks.exec, cargar_rechazo _ _ _ _ ha]
    exact ⟨N, hN, h⟩

lemma Cargas.acceso (h : Cargas n N k) (hN : 0 < N) : (k.gdt 4).acceso ≠ 0 :=
  (h.registro.gdt 4 le_rfl (by decide)).mpr (by omega)

/-! ### The boot -/

lemma iniLdt_acceso {i : ℕ} (hg : k.gdt = gdtBoot) (hi : 4 ≤ i) :
    ((iniLdt l k).gdt i).acceso = 0 := by
  unfold iniLdt setDescLdt
  simp only
  rw [Function.update_of_ne (by omega), hg]
  obtain ⟨j, rfl⟩ : ∃ j, i = j + 3 := ⟨i - 3, by omega⟩
  rfl

lemma inicio_cargas (mem : Mem) (mm : Mm) :
    Cargas n 0 (iniPag (iniTss (iniLdt n.enlace { Kernel.cargado mem with mm := mm }))) := by
  refine ⟨Boot.iniPag_registro (iniTss_registro (iniLdt_gdt n.enlace rfl)),
    ⟨nofun, nofun, fun i _ => ?_⟩, nofun, nofun, fun i hi => ?_⟩
  · rw [iniPag_gdt, (iniTss_limpio _).gdt]
    rfl
  · rw [iniPag_gdt, (iniTss_limpio _).gdt]
    exact iniLdt_acceso rfl (by simp only [MAX_GDT] at hi; omega)

lemma nucleo_cargas (mem : Mem) (mm : Mm) :
    Cargas n 3 (Turns.nucleo n.enlace mem mm n.propias) := by
  have h0 : Cargas n 0 _ := inicio_cargas mem mm
  exact ((h0.execs (by omega)).execs (by omega)).execs (by omega)

/-- The mark of `ltr` may as well be set after the other two loads. -/
lemma arranque_eq (mem : Mem) (mm : Mm) :
    n.arranque mem mm = ltr (Turns.nucleo n.enlace mem mm n.propias) := by
  have h0 : Cargas n 0 _ := inicio_cargas mem mm
  have h1 := h0.execs (by omega)
  unfold Nucleo.arranque Turns.nucleo
  simp only
  rw [execs_ltr _ _ _ (h1.acceso (by omega)),
    execs_ltr _ _ _ ((h1.execs (by omega)).acceso (by omega))]

/-- **The machine when `main` calls `task_control`** is one of those of the turns, with the mark. -/
theorem cargado_ltr (h : n.Cargado k) : ∃ N K, 3 ≤ N ∧ Cargas n N K ∧ Turns.Cargado n.enlace K ∧
    k = ltr K := by
  refine h.invariant (P := fun k => ∃ N K, 3 ≤ N ∧ Cargas n N K ∧ Turns.Cargado n.enlace K ∧
    k = ltr K) ?_ ?_
  · rintro k ⟨mem, mm, rfl⟩
    exact ⟨3, _, le_rfl, nucleo_cargas mem mm, .init ⟨mem, mm, n.propias, rfl⟩, arranque_eq mem mm⟩
  · rintro k - k' ⟨N, K, hN, hK, hc, rfl⟩ ⟨start, fin, name, rfl⟩
    obtain ⟨M, hM, hK'⟩ := hK.exec hN start fin name
    exact ⟨M, _, hM, hK', hc.step (a := ()) (.exec start fin name),
      exec_ltr start fin name (hK.acceso (by omega))⟩

end Silicio.Startup
