import Silicio.Processor

/-!
No change of task fails.

A change is a long list of checks: the level and the kind of the selector's descriptor, the mark of
the task that enters, the LDT and the segments in its TSS. All of them hold because of what the
loads wrote, and because the marks are those the tasks that have the processor should have:
`task_control` puts back the mark that a task which was interrupted keeps.
-/

namespace Silicio.Contexts

open Silicio.Bitmap Silicio.Bytes Silicio.Defs Silicio.Mm Silicio.Mmu Silicio.Paging Silicio.Tasks
open Silicio.Registry Silicio.Gates Silicio.Runs Silicio.Switching Silicio.Processor
open Silicio.IoMap (limite limite_descTss)

variable {n : Nucleo} {k k' : Kernel} {m m' : Maquina} {gdt gdt' : ℕ → Gdtp} {dl d : Gdtp}
variable {c c' : Contexto} {a b t u : ℕ}

/-! ### Segments -/

/-- A segment is not a descriptor of the system, so the marks of tasks do not matter for it. -/
lemma segmento_congr {P : Gdtp → Bool} {sel : ℕ} (hg : ∀ i, gdt' i = gdt i ∨ tipo (gdt i) < 16)
    (hP : ∀ d, P d = true → 16 ≤ tipo d) (h : (segmento n.ldt gdt dl sel).any P = true) :
    (segmento n.ldt gdt' dl sel).any P = true := by
  unfold segmento at h ⊢
  by_cases hl : sel / 4 % 2 = 1
  · rw [if_pos hl] at h ⊢
    exact h
  · rw [if_neg hl] at h ⊢
    by_cases he : EnGdt sel
    · rw [if_pos he] at h ⊢
      rcases hg (sel / 8) with hi | hi
      · rwa [hi]
      · exact absurd (hP _ h) (by omega)
    · rwa [if_neg he] at h ⊢

lemma Codigo.tipo {sel : ℕ} (h : Codigo sel d) : 16 ≤ tipo d := by
  have := h.2.1
  omega

lemma Pila.tipo {cpl sel : ℕ} (h : Pila cpl sel d) : 16 ≤ tipo d := by
  have := h.2.1
  omega

lemma Datos.tipo {cpl sel : ℕ} (h : Datos cpl sel d) : 16 ≤ tipo d := by
  have := h.2.1
  omega

lemma segmentos_congr (h : Segmentos n.ldt gdt dl c)
    (hg : ∀ i, gdt' i = gdt i ∨ tipo (gdt i) < 16) : Segmentos n.ldt gdt' dl c := by
  refine ⟨segmento_congr hg (fun d hd => ?_) h.1, segmento_congr hg (fun d hd => ?_) h.2.1,
    fun sel hs => (h.2.2 sel hs).imp_right (segmento_congr hg fun d hd => ?_)⟩
  · exact Codigo.tipo (of_decide_eq_true hd)
  · exact Pila.tipo (of_decide_eq_true hd)
  · exact Datos.tipo (of_decide_eq_true hd)

lemma segmentos_kernel (h1 : gdt 1 = gdtBoot 1) (h2 : gdt 2 = gdtBoot 2) (hcs : c.cs = KERNEL_CS)
    (hss : c.ss = KERNEL_DS) (hd : ∀ sel ∈ [c.ds, c.es, c.fs, c.gs], sel = KERNEL_DS) :
    Segmentos n.ldt gdt dl c := by
  have hc : segmento n.ldt gdt dl KERNEL_CS = some (gdt 1) := rfl
  have hd' : segmento n.ldt gdt dl KERNEL_DS = some (gdt 2) := rfl
  refine ⟨?_, ?_, fun sel hs => Or.inr ?_⟩
  · rw [hcs, hc, h1]
    rfl
  · rw [hss, Contexto.nivel, hcs, hd', h2]
    rfl
  · rw [hd sel hs, Contexto.nivel, hcs, hd', h2]
    rfl

lemma segmentos_usuario {x : ℕ} (hcs : c.cs = USER_CS) (hss : c.ss = USER_DS)
    (hd : ∀ sel ∈ [c.ds, c.es, c.fs, c.gs], sel = USER_DS) :
    Segmentos n.ldt gdt (descLdt x) c := by
  have hl : 31 ≤ limite (descLdt x) := by simp [limite, descLdt]
  have hc : segmento n.ldt gdt (descLdt x) USER_CS = some (ldtBoot 2) := by
    rw [← n.ldt_boot 2 (by omega)]
    exact if_pos (show 23 ≤ limite (descLdt x) by omega)
  have hd' : segmento n.ldt gdt (descLdt x) USER_DS = some (ldtBoot 3) := by
    rw [← n.ldt_boot 3 (by omega)]
    exact if_pos hl
  refine ⟨?_, ?_, fun sel hs => Or.inr ?_⟩
  · rw [hcs, hc]
    rfl
  · rw [hss, Contexto.nivel, hcs, hd']
    rfl
  · rw [hd sel hs, Contexto.nivel, hcs, hd']
    rfl

/-! ### Descriptors of tasks -/

def ocupado (d : Gdtp) : Bool := d.acceso.testBit 1

@[simp] lemma ocupado_marcar (d : Gdtp) : ocupado (marcar d) = true := by
  simp [ocupado, marcar, Nat.testBit_or, show (2 : ℕ).testBit 1 = true from rfl]

@[simp] lemma ocupado_desmarcar (d : Gdtp) : ocupado (desmarcar d) = false := by
  simp [ocupado, desmarcar, Nat.testBit_and, show (0xfd : ℕ).testBit 1 = false from rfl]

lemma ocupado_descTss (x : ℕ) : ocupado (descTss x) = false := (rfl : Nat.testBit 0x89 1 = false)

@[simp] lemma base_marcar (d : Gdtp) : base (marcar d) = base d := rfl

@[simp] lemma limite_marcar (d : Gdtp) : limite (marcar d) = limite d := rfl

lemma descTss_entrable (x : ℕ) :
    tipo (descTss x) = 9 ∧ Presente (descTss x) ∧ 103 ≤ limite (descTss x) := by
  refine ⟨by simp [tipo, descTss], (rfl : Nat.testBit 0x89 7 = true), ?_⟩
  rw [limite_descTss]
  omega

def DeTarea (l : Link) (t : ℕ) (d : Gdtp) : Prop :=
  d = descTss (l.dirTss (some t)) ∨ d = marcar (descTss (l.dirTss (some t)))

lemma DeTarea.marcar {l : Link} (h : DeTarea l t d) : DeTarea l t (marcar d) := by
  rcases h with rfl | rfl
  · exact Or.inr rfl
  · exact Or.inr (by simp [Processor.marcar, descTss])

lemma DeTarea.desmarcar {l : Link} (h : DeTarea l t d) : DeTarea l t (desmarcar d) := by
  rcases h with rfl | rfl
  · exact Or.inl (by simp [Processor.desmarcar, descTss])
  · exact Or.inl (by simp [Processor.desmarcar, Processor.marcar, descTss])

lemma DeTarea.tipo {l : Link} (h : DeTarea l t d) : tipo d < 16 := by
  rcases h with rfl | rfl <;> simp [Processor.tipo, descTss, Processor.marcar]

lemma DeTarea.acceso {l : Link} (h : DeTarea l t d) : d.acceso ≠ 0 := by
  rcases h with rfl | rfl <;> simp [descTss, Processor.marcar]

lemma DeTarea.libre {l : Link} (h : DeTarea l t d) (ho : ocupado d = false) :
    d = descTss (l.dirTss (some t)) := by
  rcases h with rfl | rfl
  · rfl
  · simp at ho

lemma DeTarea.tssEn {l : Link} (h : DeTarea l t d) (ht : t < MAX_TASK) :
    tssEn l (base d) = some t := by
  have hb : base d = (l.tssP + TSS_LEN * t) % 2 ^ 32 := by
    rcases h with rfl | rfl <;> simp [base_descTss, Link.dirTss]
  have hd : (base d + 2 ^ 32 - l.tssP % 2 ^ 32) % 2 ^ 32 = TSS_LEN * t := by
    rw [hb]
    simp only [MAX_TASK, TSS_LEN] at ht ⊢
    omega
  unfold Processor.tssEn
  simp only
  rw [hd, Nat.mul_mod_right, Nat.mul_div_cancel_left _ (by decide), if_pos ⟨rfl, ht⟩]

/-! ### The processor of a machine -/

/-- The machine as a processor of the general kind: the task is the one `tr` names. -/
def vista (m : Maquina) : Cpu ℕ Contexto where
  actual := (m.tr - 4) / 2
  regs := m.regs
  salvado t := contexto (m.k.tss (some t))
  ocupada t := ocupado (m.k.gdt (4 + 2 * t))

/-- A TSS without the registers a change saves, and without its link. -/
def vaciar (s : Tss) : Tss :=
  { Contexto.salvar ⟨0, 0, 0, 0, 0, 0, 0, 0, 0, 0, 0, 0, 0, 0, 0, 0⟩ s with bLink := 0 }

@[simp] lemma contexto_salvar (c : Contexto) (s : Tss) : contexto (c.salvar s) = c := rfl

@[simp] lemma contexto_enlazar (sel : ℕ) (s : Tss) : contexto (enlazar sel s) = contexto s := rfl

@[simp] lemma vaciar_salvar (c : Contexto) (s : Tss) : vaciar (c.salvar s) = vaciar s := rfl

@[simp] lemma vaciar_enlazar (sel : ℕ) (s : Tss) : vaciar (enlazar sel s) = vaciar s := rfl

structure Mismo (k k' : Kernel) : Prop where
  resto : k' = { k with tss := k'.tss, gdt := k'.gdt }
  tss : ∀ q, vaciar (k'.tss q) = vaciar (k.tss q)

lemma Mismo.refl (k : Kernel) : Mismo k k := ⟨rfl, fun _ => rfl⟩

lemma Mismo.trans {k₁ k₂ k₃ : Kernel} (h : Mismo k₁ k₂) (h' : Mismo k₂ k₃) : Mismo k₁ k₃ := by
  refine ⟨?_, fun q => (h'.tss q).trans (h.tss q)⟩
  rw [h'.resto, h.resto]

lemma Mismo.symm (h : Mismo k k') : Mismo k' k := by
  refine ⟨?_, fun q => (h.tss q).symm⟩
  rw [h.resto]

section
variable (h : Mismo k k')
include h

lemma Mismo.rTareas : k'.rTareas = k.rTareas := by rw [h.resto]
lemma Mismo.rDrv : k'.rDrv = k.rDrv := by rw [h.resto]
lemma Mismo.tIndice : k'.tIndice = k.tIndice := by rw [h.resto]
lemma Mismo.mem : k'.mem = k.mem := by rw [h.resto]

lemma Mismo.tarea (t : ℕ) : Tarea k' t ↔ Tarea k t := by
  unfold Tarea
  rw [h.rTareas]

lemma Mismo.cr3 (q : Ptr) : (k'.tss q).cr3 = (k.tss q).cr3 :=
  (congrArg Tss.cr3 (h.tss q) : (vaciar _).cr3 = (vaciar _).cr3)

lemma Mismo.ldt (q : Ptr) : (k'.tss q).ldt = (k.tss q).ldt :=
  (congrArg Tss.ldt (h.tss q) : (vaciar _).ldt = (vaciar _).ldt)

end

/-! ### The change of task -/

/-- What a change reads, as the loads left it. -/
structure Tablas (n : Nucleo) (k : Kernel) : Prop where
  codigo : k.gdt 1 = gdtBoot 1
  datos : k.gdt 2 = gdtBoot 2
  ldt : k.gdt 3 = descLdt n.enlace.ldtP
  desc : ∀ t, Tarea k t → DeTarea n.enlace t (k.gdt (4 + 2 * t))
  puerta : ∀ t, Tarea k t →
    (k.gdt (5 + 2 * t)).acceso = 0x85 ∧ (k.gdt (5 + 2 * t)).baseL = 8 * (4 + 2 * t)
  tssLdt : ∀ t, Tarea k t → (k.tss (some t)).ldt = 0x18

lemma Tablas.congr (h : Tablas n k) (hm : Mismo k k')
    (hfijas : ∀ i < 4, k'.gdt i = k.gdt i) (hpuerta : ∀ t, k'.gdt (5 + 2 * t) = k.gdt (5 + 2 * t))
    (hdesc : ∀ t, Tarea k t → DeTarea n.enlace t (k'.gdt (4 + 2 * t))) : Tablas n k' := by
  refine ⟨?_, ?_, ?_, fun t ht => hdesc t ((hm.tarea t).mp ht), fun t ht => ?_, fun t ht => ?_⟩
  · rw [hfijas 1 (by omega), h.codigo]
  · rw [hfijas 2 (by omega), h.datos]
  · rw [hfijas 3 (by omega), h.ldt]
  · rw [hpuerta]
    exact h.puerta t ((hm.tarea t).mp ht)
  · rw [hm.ldt]
    exact h.tssLdt t ((hm.tarea t).mp ht)

structure Cambio (n : Nucleo) (u : ℕ) (m m' : Maquina) : Prop where
  tr : m'.tr = 4 + 2 * u
  cr3 : m'.cr3 = (m.k.tss (some u)).cr3
  guarda : m'.guarda = m.guarda
  mismo : Mismo m.k m'.k
  tablas : Tablas n m'.k
  gdt : ∀ i, m'.k.gdt i = m.k.gdt i ∨ tipo (m.k.gdt i) < 16
  acceso : ∀ i, (m'.k.gdt i).acceso ≠ 0 ↔ (m.k.gdt i).acceso ≠ 0

section
variable {anidada : Bool} {j : ℕ}

lemma updTss_campo {β : Type*} {f : Tss → β} {g : Tss → Tss} (hf : ∀ s, f (g s) = f s)
    (k : Kernel) (q q' : Ptr) : f ((k.updTss q g).tss q') = f (k.tss q') := by
  rw [updTss_tss]
  split
  · next h => rw [h, hf]
  · rfl

lemma cambiado_contexto (t : ℕ) : contexto ((cambiado anidada a u j m).tss (some t)) =
    Function.update (fun t => contexto (m.k.tss (some t))) a m.regs t := by
  have hsalva : contexto ((m.k.updTss (some a) m.regs.salvar).tss (some t)) =
      Function.update (fun t => contexto (m.k.tss (some t))) a m.regs t := by
    simp only [updTss_tss, Option.some.injEq, Function.update_apply]
    split_ifs
    · rfl
    · rfl
  unfold cambiado
  cases anidada
  · exact hsalva
  · exact (updTss_campo (contexto_enlazar _) _ (some u) (some t)).trans hsalva

lemma cambiado_mismo : Mismo m.k (cambiado anidada a u j m) := by
  have hsalva (q : Ptr) : vaciar ((m.k.updTss (some a) m.regs.salvar).tss q) =
      vaciar (m.k.tss q) := updTss_campo (vaciar_salvar m.regs) m.k (some a) q
  unfold cambiado
  cases anidada
  · exact ⟨rfl, hsalva⟩
  · exact ⟨rfl, fun q => (updTss_campo (vaciar_enlazar _) _ (some u) q).trans (hsalva q)⟩

lemma cambiado_gdt (htr : m.tr ≠ j) (i : ℕ) : (cambiado anidada a u j m).gdt i =
    if i = j then marcar (m.k.gdt j)
    else if i = m.tr ∧ anidada = false then desmarcar (m.k.gdt m.tr)
    else m.k.gdt i := by
  unfold cambiado
  cases anidada
  · simp only [Bool.false_eq_true, if_false, Function.update_apply, if_neg htr.symm, and_true]
  · simp only [if_true, updTss_gdt, Function.update_apply, Bool.true_eq_false, and_false, if_false]

lemma cambiar_some {v : ℕ} (ht : tssEn n.enlace (base (m.k.gdt m.tr)) = some t)
    (hv : tssEn n.enlace (base (m.k.gdt j)) = some v) (hk : k = cambiado anidada t v j m)
    (hdesc : tipo (m.k.gdt j) = 9 ∧ Presente (m.k.gdt j) ∧ 103 ≤ limite (m.k.gdt j))
    (hcarga : Cargable n.enlace n.ldt k.gdt (k.tss (some v))) : cambiar n anidada j m = some
      { m with
        k := k
        regs := if anidada then (contexto (k.tss (some v))).anidar else contexto (k.tss (some v))
        tr := j
        cr3 := (k.tss (some v)).cr3 } := by
  unfold cambiar
  rw [ht, hv]
  simp only [Option.bind_eq_bind, Option.bind_some]
  rw [← hk, if_pos ⟨hdesc, hcarga⟩]

end

/-- **A change of task is one of the general kind**, when the task that enters is not marked and
its segments are in order. -/
lemma cambiar_eq (anidada : Bool) (h : Tablas n m.k) (ha : Tarea m.k a) (hu : Tarea m.k u)
    (hua : u ≠ a) (htr : m.tr = 4 + 2 * a) (hlibre : (vista m).ocupada u = false)
    (hseg : Segmentos n.ldt m.k.gdt (m.k.gdt 3) (contexto (m.k.tss (some u)))) :
    ∃ m', cambiar n anidada (4 + 2 * u) m = some m' ∧ Cambio n u m m' ∧ vista m' =
      ⟨u, if anidada then ((vista m).salvar u).anidar else (vista m).salvar u, (vista m).salvar,
        Function.update (if anidada then (vista m).ocupada
          else Function.update (vista m).ocupada a false) u true⟩ := by
  have hd := (h.desc u hu).libre hlibre
  have hda := h.desc a ha
  obtain ⟨k, hk⟩ : ∃ k, k = cambiado anidada a u (4 + 2 * u) m := ⟨_, rfl⟩
  have hmis : Mismo m.k k := hk ▸ cambiado_mismo
  have hctx : ∀ t, contexto (k.tss (some t)) = (vista m).salvar t := fun t => by
    rw [hk, cambiado_contexto]
    simp [Cpu.salvar, vista, htr]
  have hgdt (i : ℕ) : k.gdt i = if i = 4 + 2 * u then marcar (m.k.gdt (4 + 2 * u))
      else if i = 4 + 2 * a ∧ anidada = false then desmarcar (m.k.gdt (4 + 2 * a))
      else m.k.gdt i := by
    rw [hk, cambiado_gdt (by omega), htr]
  have hdif (i : ℕ) : k.gdt i = m.k.gdt i ∨ tipo (m.k.gdt i) < 16 := by
    rw [hgdt]
    split_ifs with h1 h2
    · exact Or.inr (h1 ▸ (h.desc u hu).tipo)
    · exact Or.inr (h2.1 ▸ hda.tipo)
    · exact Or.inl rfl
  have hacceso (i : ℕ) : (k.gdt i).acceso ≠ 0 ↔ (m.k.gdt i).acceso ≠ 0 := by
    rw [hgdt]
    split_ifs with h1 h2
    · rw [h1]
      exact iff_of_true (h.desc u hu).marcar.acceso (h.desc u hu).acceso
    · rw [h2.1]
      exact iff_of_true hda.desmarcar.acceso hda.acceso
    · rfl
  have htab : Tablas n k := by
    refine h.congr hmis (fun i hi => ?_) (fun t => ?_) fun t ht => ?_
    · rw [hgdt, if_neg (by omega), if_neg (by omega)]
    · rw [hgdt, if_neg (by omega), if_neg (by omega)]
    · rw [hgdt]
      split_ifs with h1 h2
      · obtain rfl : t = u := by omega
        exact (h.desc t ht).marcar
      · obtain rfl : t = a := by omega
        exact (h.desc t ht).desmarcar
      · exact h.desc t ht
  have hcarga : Cargable n.enlace n.ldt k.gdt (k.tss (some u)) := by
    have hldt : (k.tss (some u)).ldt = 0x18 := by rw [hmis.ldt, h.tssLdt u hu]
    have hu' : contexto (k.tss (some u)) = contexto (m.k.tss (some u)) := by
      rw [hctx, Cpu.salvar, Function.update_of_ne]
      · rfl
      · simp only [vista, htr]
        omega
    unfold Cargable
    simp only
    rw [hldt, show 0x18 / 8 = 3 from rfl, htab.ldt, hu']
    refine ⟨⟨by decide, ?_, ?_, ?_⟩, ?_⟩
    · exact (rfl : Nat.testBit 0x82 7 = true)
    · simp [tipo, descLdt]
    · simp only [base, descLdt]
      omega
    · rw [← h.ldt]
      exact segmentos_congr hseg hdif
  refine ⟨{ m with
    k := k
    regs := if anidada then (contexto (k.tss (some u))).anidar else contexto (k.tss (some u))
    tr := 4 + 2 * u
    cr3 := (k.tss (some u)).cr3 }, ?_, ⟨rfl, hmis.cr3 _, rfl, hmis, htab, hdif, hacceso⟩, ?_⟩
  · have hdesc := descTss_entrable (n.enlace.dirTss (some u))
    rw [← hd] at hdesc
    exact cambiar_some (by rw [htr, hda.tssEn ha.1]) ((h.desc u hu).tssEn hu.1) hk hdesc hcarga
  · have hactual : (4 + 2 * u - 4) / 2 = u := by omega
    have hocupada : (fun t => ocupado (k.gdt (4 + 2 * t))) =
        Function.update (if anidada then (vista m).ocupada
          else Function.update (vista m).ocupada a false) u true := by
      ext t
      rw [hgdt, Function.update_apply]
      by_cases htu : t = u
      · rw [if_pos (by omega), if_pos htu, ocupado_marcar]
      · rw [if_neg (by omega), if_neg htu]
        cases anidada
        · simp only [Bool.false_eq_true, if_false, Function.update_apply, and_true]
          by_cases hta : t = a
          · rw [if_pos (by omega), if_pos hta, ocupado_desmarcar]
          · rw [if_neg (by omega), if_neg hta]
            rfl
        · simp only [Bool.true_eq_false, and_false, if_false, if_true]
          rfl
    unfold vista at hocupada ⊢
    simp only [hactual, hctx, hocupada]
    rfl

lemma saltar_base (h : Tablas n m.k) (h0 : Tarea m.k 0) (hr : m.regs.nivel = 0) :
    saltar n 0x20 m = cambiar n false (4 + 2 * 0) m := by
  have hd := h.desc 0 h0
  have ht : tipo (m.k.gdt 4) ≠ 5 := by
    rcases hd with he | he <;> rw [he] <;> simp [tipo, descTss, marcar]
  have hen : EnGdt 0x20 := by decide
  unfold saltar
  simp only
  rw [hr, if_neg (by simp [hen]), if_neg ht]

lemma saltar_puerta (h : Tablas n m.k) (hu : Tarea m.k u) (hr : m.regs.nivel = 0) :
    saltar n (8 * (5 + 2 * u)) m = cambiar n false (4 + 2 * u) m := by
  obtain ⟨hacc, hbase⟩ := h.puerta u hu
  have hmax : u < 100 := hu.1
  have hen : EnGdt (8 * (5 + 2 * u)) := ⟨by omega, by omega, by simp only [GDT_SIZE]; omega⟩
  have hen' : EnGdt (8 * (4 + 2 * u)) := ⟨by omega, by omega, by simp only [GDT_SIZE]; omega⟩
  have hsel : 8 * (5 + 2 * u) / 8 = 5 + 2 * u := by omega
  have hmod : 8 * (5 + 2 * u) % 4 = 0 := by omega
  have ht : tipo (m.k.gdt (5 + 2 * u)) = 5 := by simp [tipo, hacc]
  have hp : Presente (m.k.gdt (5 + 2 * u)) := by
    unfold Presente
    rw [hacc]
    rfl
  unfold saltar
  simp only
  rw [hsel, hr, hmod, if_neg (by simp [hen]), if_pos ht, hbase, if_pos ⟨hp, hen'⟩,
    Nat.mul_div_cancel_left _ (by decide)]

lemma interrumpir_tarea (hu : u < MAX_TASK) :
    interrumpir n (some (.tarea (8 * (4 + 2 * u)))) m = cambiar n true (4 + 2 * u) m := by
  have hmax : u < 100 := hu
  have hen : EnGdt (8 * (4 + 2 * u)) := ⟨by omega, by omega, by simp only [GDT_SIZE]; omega⟩
  unfold interrumpir
  simp only
  rw [if_pos hen, Nat.mul_div_cancel_left _ (by decide)]

end Silicio.Contexts
