import Silicio.Startup

/-!
The invariant of the machine: who has the processor, and what the registers of each task are.

The processor is with `task_control`, with the program it let in, or with one of the kernel's other
two tasks, nested in that program. Each of the kernel's tasks goes on where its last jump left it,
so where the code stands tells which of them runs. The turns of the scheduler see nothing of this.
-/

namespace Silicio.Phases

open Silicio.Bitmap Silicio.Bytes Silicio.Defs Silicio.Mm Silicio.Mmu Silicio.Paging Silicio.Tasks
open Silicio.Registry Silicio.Gates Silicio.Runs Silicio.Switching Silicio.Processor
open Silicio.Contexts Silicio.Startup

variable {n : Nucleo} {k k' : Kernel} {m m' : Maquina} {gdt gdt' : ℕ → Gdtp} {dl : Gdtp}
variable {c c' : Contexto} {t u : ℕ}

/-! ### The invariant -/

/-- A task of the kernel goes on at its entry or after its jump. -/
def Reanuda (n : Nucleo) (g : ℕ) (c : Contexto) : Prop :=
  c.eip = (n.propias g).1 ∨ c.eip = n.tras g

structure Registros (n : Nucleo) (k : Kernel) (r : ℕ → Contexto) : Prop where
  kernel : ∀ t < 3, (r t).cs = KERNEL_CS ∧ ¬ (r t).Abierta
  usuario : ∀ t, Turns.Usuario k t → (r t).nivel = 3 ∧ (r t).Abierta
  segmentos : ∀ t, Tarea k t → Segmentos n.ldt k.gdt (k.gdt 3) (r t)
  reanuda : ∀ g, 1 ≤ g → g < 3 → Reanuda n g (r g)

variable {N : ℕ} {r r' : ℕ → Contexto} {e e' : Fase ℕ} {o o' : Option ℕ} {q : Cpu ℕ Contexto}

lemma sigue_refl (c : Contexto) : Sigue c c := ⟨rfl, rfl, rfl, rfl, rfl, rfl, Iff.rfl⟩

lemma sigue_anidar (c : Contexto) : Sigue c c.anidar := by
  refine ⟨rfl, rfl, rfl, rfl, rfl, rfl, ?_⟩
  unfold Contexto.Abierta Contexto.anidar
  rw [Nat.testBit_or, Nat.testBit_two_pow_of_ne (by decide), Bool.or_false]

lemma segmentos_sigue (h : Segmentos n.ldt gdt dl c) (hs : Sigue c c') :
    Segmentos n.ldt gdt dl c' := by
  unfold Segmentos Contexto.nivel at h ⊢
  rwa [hs.cs, hs.ss, hs.ds, hs.es, hs.fs, hs.gs]

lemma Registros.sigue (h : Registros n k r) (hs : ∀ t, Sigue (r t) (r' t))
    (hre : ∀ g, 1 ≤ g → g < 3 → Reanuda n g (r' g)) (ht : ∀ t, Tarea k' t ↔ Tarea k t)
    (h3 : k'.gdt 3 = k.gdt 3) (hg : ∀ i, k'.gdt i = k.gdt i ∨ tipo (k.gdt i) < 16) :
    Registros n k' r' := by
  refine ⟨fun t ht3 => ?_, fun t htu => ?_, fun t htt => ?_, hre⟩
  · rw [(hs t).cs, (hs t).abierta]
    exact h.kernel t ht3
  · rw [Contexto.nivel, (hs t).cs, (hs t).abierta]
    exact h.usuario t ⟨htu.1, (ht t).mp htu.2⟩
  · rw [h3]
    exact segmentos_congr (segmentos_sigue (h.segmentos t ((ht t).mp htt)) (hs t)) hg

lemma Registros.propio (h : Registros n k r) (hu : Turns.Usuario k u)
    (hc : Propio n k (r u) c) : Registros n k (Function.update r u c) := by
  have h3 : 3 ≤ u := hu.1
  refine ⟨fun t ht => ?_, fun t ht => ?_, fun t ht => ?_, fun g h1 hg => ?_⟩
  · rw [Function.update_of_ne (by omega)]
    exact h.kernel t ht
  · rcases eq_or_ne t u with rfl | hne
    · rw [Function.update_self, hc.abierta]
      exact ⟨hc.nivel, (h.usuario t ht).2⟩
    · rw [Function.update_of_ne hne]
      exact h.usuario t ht
  · rcases eq_or_ne t u with rfl | hne
    · rw [Function.update_self]
      exact hc.segmentos
    · rw [Function.update_of_ne hne]
      exact h.segmentos t ht
  · rw [Function.update_of_ne (by omega)]
    exact h.reanuda g h1 hg

/-- The state of the machine in phase `e`, after `N` loads, when it is the turn of `o`. -/
structure Inv (n : Nucleo) (N : ℕ) (e : Fase ℕ) (o : Option ℕ) (m : Maquina) : Prop where
  turnos : Turns.Inv N (m.k, o)
  propias : ∀ t < 3, Tarea m.k t
  tablas : Tablas n m.k
  registros : Registros n m.k (vista m).propios
  fase : (vista m).En 0 e
  tr : m.tr = 4 + 2 * e.corre 0
  cr3 : m.cr3 = (m.k.tss (some (e.corre 0))).cr3
  ultima : ∀ u, e.ultima = some u → Turns.Usuario m.k u
  indice : ∀ u, o = some u → m.k.tIndice = u
  anidada : ∀ u g, e = .anidada u g → g = 1 ∨ g = 2

lemma Inv.corre (h : Inv n N e o m) : Tarea m.k (e.corre 0) := by
  cases he : e with
  | base p => exact h.propias 0 (by omega)
  | dentro u => exact (h.ultima u (by rw [he]; rfl)).2
  | anidada u g =>
    have := h.anidada u g he
    exact h.propias g (by omega)

/-- The turns do not see registers and marks. -/
lemma turnos_congr (h : Turns.Inv N (k, o)) (hm : Mismo k k')
    (hcs : ∀ j, (k'.tss (some j)).cs ≠ 0 ↔ (k.tss (some j)).cs ≠ 0)
    (hac : ∀ i, (k'.gdt i).acceso ≠ 0 ↔ (k.gdt i).acceso ≠ 0) : Turns.Inv N (k', o) := by
  refine h.congr ⟨fun j hj => ?_, fun i h4 hi => ?_, ?_, ?_⟩ hm.rTareas hm.rDrv hm.tIndice
  · rw [hcs]
    exact h.registro.tss j hj
  · rw [hac]
    exact h.registro.gdt i h4 hi
  · rw [hm.rTareas]
    exact h.registro.lugar
  · rw [hm.rTareas]
    exact h.registro.libre

lemma Inv.salta (h : Inv n N e o m) (hu : Tarea m.k u) (hua : u ≠ e.corre 0)
    (hq : (vista m).saltar u = some q) :
    ∃ m', cambiar n false (4 + 2 * u) m = some m' ∧ Cambio n u m m' ∧ vista m' = q := by
  have hlibre : (vista m).ocupada u = false := by
    by_contra hc
    rw [Cpu.saltar, if_pos (by simpa using hc)] at hq
    cases hq
  have hne : u ≠ (vista m).actual := by rwa [h.fase.actual]
  have hseg := h.registros.segmentos u hu
  rw [Cpu.propios, if_neg hne] at hseg
  obtain ⟨m', hm', hcam, hv⟩ := cambiar_eq false h.tablas h.corre hu hua h.tr hlibre hseg
  rw [Cpu.saltar, if_neg (by simp [hlibre]), h.fase.actual] at hq
  exact ⟨m', hm', hcam, hv.trans (Option.some.inj hq)⟩

lemma Inv.interrumpe (h : Inv n N e o m) (hu : Tarea m.k u) (hua : u ≠ e.corre 0)
    (hq : (vista m).interrumpir Contexto.anidar u = some q) :
    ∃ m', cambiar n true (4 + 2 * u) m = some m' ∧ Cambio n u m m' ∧ vista m' = q := by
  have hlibre : (vista m).ocupada u = false := by
    by_contra hc
    rw [Cpu.interrumpir, if_pos (by simpa using hc)] at hq
    cases hq
  have hne : u ≠ (vista m).actual := by rwa [h.fase.actual]
  have hseg := h.registros.segmentos u hu
  rw [Cpu.propios, if_neg hne] at hseg
  obtain ⟨m', hm', hcam, hv⟩ := cambiar_eq true h.tablas h.corre hu hua h.tr hlibre hseg
  rw [Cpu.interrumpir, if_neg (by simp [hlibre])] at hq
  exact ⟨m', hm', hcam, hv.trans (Option.some.inj hq)⟩

lemma Inv.cs_ne (h : Inv n N e o m) (ht : Tarea m.k t) : ((vista m).propios t).cs ≠ 0 := by
  rcases Nat.lt_or_ge t 3 with h3 | h3
  · rw [(h.registros.kernel t h3).1]
    decide
  · have hn := (h.registros.usuario t ⟨h3, ht⟩).1
    intro h0
    rw [Contexto.nivel, h0] at hn
    cases hn

lemma Inv.nivel_cero (h : Inv n N e o m) (he : e.corre 0 < 3) : m.regs.nivel = 0 := by
  have hk := (h.registros.kernel _ he).1
  rw [h.fase.regs] at hk
  rw [Contexto.nivel]
  exact congrArg (· % 4) hk

/-- What is left to see of the invariant after a change of task. -/
lemma Inv.tras (h : Inv n N e o m) (hc : Cambio n u m m') (hcorre : e'.corre 0 = u)
    (hfase : (vista m').En 0 e') (hsalvado : (vista m').salvado = (vista m).propios)
    (hreg : ∀ t, Sigue ((vista m).propios t) ((vista m').propios t))
    (heip : ∀ t, ((vista m').propios t).eip = ((vista m).propios t).eip)
    (hturnos : Turns.Inv N (m.k, o')) (hultima : ∀ v, e'.ultima = some v → Turns.Usuario m.k v)
    (hindice : ∀ v, o' = some v → m.k.tIndice = v)
    (hanidada : ∀ v g, e' = .anidada v g → g = 1 ∨ g = 2) : Inv n N e' o' m' := by
  have hm := hc.mismo
  refine ⟨turnos_congr hturnos hm (fun j => ?_) hc.acceso,
    fun t ht => (hm.tarea t).mpr (h.propias t ht), hc.tablas,
    h.registros.sigue hreg (fun g h1 h3 => ?_) hm.tarea ?_ hc.gdt, hfase, ?_, ?_,
    fun v hv => ⟨(hultima v hv).1, (hm.tarea v).mpr (hultima v hv).2⟩, fun v hv => ?_, hanidada⟩
  · have hj : (m'.k.tss (some j)).cs = ((vista m).propios j).cs := by
      rw [← hsalvado]
      rfl
    rw [hj, Cpu.propios]
    split
    · next ha =>
      have hj : Tarea m.k j := by
        rw [ha, h.fase.actual]
        exact h.corre
      have hcs := h.cs_ne hj
      rw [Cpu.propios, if_pos ha] at hcs
      obtain ⟨hn, hp⟩ := h.turnos.registro.tarea_iff.mp hj
      have hmax : j < MAX_TASK - 1 := by
        simp only [PARES, MAX_GDT, MAX_TASK] at hp ⊢
        omega
      exact iff_of_true hcs ((h.turnos.registro.tss j hmax).mpr hn)
    · rfl
  · unfold Reanuda
    rw [heip]
    exact h.registros.reanuda g h1 h3
  · rw [hc.tablas.ldt, h.tablas.ldt]
  · rw [hc.tr, hcorre]
  · rw [hc.cr3, hcorre, hm.cr3]
  · rw [hm.tIndice]
    exact hindice v hv

lemma Inv.entra (h : Inv n N (.base none) o m) (hu : Turns.Usuario m.k u)
    (hej : Turns.Inv N (m.k, some u)) (hi : m.k.tIndice = u) :
    ∃ m', saltar n (m.k.rTareas u).task m = some m' ∧ Cambio n u m m' ∧
      (vista m').propios = (vista m).propios ∧ Inv n N (.dentro u) (some u) m' := by
  have h3 : 3 ≤ u := hu.1
  obtain ⟨hn, hp⟩ := h.turnos.registro.tarea_iff.mp hu.2
  have hnivel := h.nivel_cero (show (Fase.base none).corre 0 < 3 by decide)
  obtain ⟨q, hq, hen⟩ := h.fase.entra (u := u) (by omega)
  obtain ⟨m', hm', hc, rfl⟩ := h.salta hu.2 (by simp only [Fase.corre]; omega) hq
  have hpro := Cpu.saltar_propios hq
  refine ⟨m', ?_, hc, hpro, h.tras hc rfl hen (Cpu.saltar_salvado hq) (fun t => ?_) (fun t => ?_)
    hej (fun v hv => ?_) (fun v hv => ?_) fun v g he => by cases he⟩
  · rw [(h.turnos.registro.lugar u hn hp).1, saltar_puerta h.tablas hu.2 hnivel, hm']
  · rw [hpro]
    exact sigue_refl _
  · rw [hpro]
  · obtain rfl := Option.some.inj hv
    exact hu
  · obtain rfl := Option.some.inj hv
    exact hi

lemma Inv.anida (h : Inv n N (.dentro u) o m) {g : ℕ} (hg : g = 1 ∨ g = 2) :
    ∃ m', interrumpir n (some (.tarea (8 * (4 + 2 * g)))) m = some m' ∧ Cambio n g m m' ∧
      (vista m').propios =
        Function.update (vista m).propios g ((vista m).propios g).anidar ∧
      Inv n N (.anidada u g) o m' := by
  have h3 : 3 ≤ u := (h.ultima u rfl).1
  have hgt := h.propias g (by omega)
  obtain ⟨q, hq, hen⟩ := h.fase.anida (f := Contexto.anidar) (g := g) (by omega)
  obtain ⟨m', hm', hc, rfl⟩ := h.interrumpe hgt (by simp only [Fase.corre]; omega) hq
  have hpro := Cpu.interrumpir_propios hq
  refine ⟨m', ?_, hc, hpro, h.tras hc rfl hen (Cpu.interrumpir_salvado hq) (fun t => ?_)
    (fun t => ?_) h.turnos h.ultima h.indice fun v g' he => ?_⟩
  · rw [interrumpir_tarea hgt.1, hm']
  · rw [hpro, Function.update_apply]
    split
    · next ht =>
      rw [ht]
      exact sigue_anidar _
    · exact sigue_refl _
  · rw [hpro, Function.update_apply]
    split
    · next ht =>
      rw [ht]
      rfl
    · rfl
  · cases he
    exact hg

lemma Inv.vuelve {g : ℕ} (h : Inv n N (.anidada u g) o m) :
    ∃ m', saltar n 0x20 m = some m' ∧ Cambio n 0 m m' ∧
      (vista m').propios = (vista m).propios ∧ Inv n N (.base (some u)) none m' := by
  have h3 : 3 ≤ u := (h.ultima u rfl).1
  have hg := h.anidada u g rfl
  have h0 := h.propias 0 (by omega)
  have hnivel := h.nivel_cero (show (Fase.anidada u g).corre 0 < 3 by simp only [Fase.corre]; omega)
  obtain ⟨q, hq, hen⟩ := h.fase.vuelve (by omega) (by omega) (by omega)
  obtain ⟨m', hm', hc, rfl⟩ := h.salta h0 (by simp only [Fase.corre]; omega) hq
  have hpro := Cpu.saltar_propios hq
  have hturnos : Turns.Inv N (m.k, none) :=
    ⟨h.turnos.registro, h.turnos.duermen, h.turnos.ranuras, h.turnos.indice,
      fun _ h => by cases h⟩
  refine ⟨m', ?_, hc, hpro, h.tras hc rfl hen (Cpu.saltar_salvado hq) (fun t => ?_) (fun t => ?_)
    hturnos h.ultima (fun v hv => by cases hv) fun v g' he => by cases he⟩
  · rw [saltar_base h.tablas h0 hnivel, hm']
  · rw [hpro]
    exact sigue_refl _
  · rw [hpro]

lemma Inv.suelta (h : Inv n N (.base (some u)) none m) (hg : m.guarda = (4 + 2 * u, 0x89)) :
    Inv n N (.base none) none { m with k := restaurar m.guarda m.k } ∧
    vista { m with k := restaurar m.guarda m.k } = (vista m).soltar u ∧
    Mismo m.k (restaurar m.guarda m.k) := by
  have hu := h.ultima u rfl
  have h3 : 3 ≤ u := hu.1
  have hd := h.tablas.desc u hu.2
  have hgdt (i : ℕ) : (restaurar m.guarda m.k).gdt i =
      if i = 4 + 2 * u then descTss (n.enlace.dirTss (some u)) else m.k.gdt i := by
    rw [restaurar, hg]
    simp only [Function.update_apply]
    split
    · rcases hd with he | he <;> rw [he] <;> rfl
    · rfl
  have hmis : Mismo m.k (restaurar m.guarda m.k) := ⟨rfl, fun _ => rfl⟩
  have hvista : vista { m with k := restaurar m.guarda m.k } = (vista m).soltar u := by
    have hoc : (fun t => ocupado ((restaurar m.guarda m.k).gdt (4 + 2 * t))) =
        Function.update (vista m).ocupada u false := by
      ext t
      rw [hgdt, Function.update_apply]
      by_cases ht : t = u
      · rw [if_pos (by omega), if_pos ht, ocupado_descTss]
      · rw [if_neg (by omega), if_neg ht]
        rfl
    unfold vista at hoc ⊢
    rw [hoc]
    rfl
  have hdif (i : ℕ) : (restaurar m.guarda m.k).gdt i = m.k.gdt i ∨ tipo (m.k.gdt i) < 16 := by
    rw [hgdt]
    split
    · next hi => exact Or.inr (hi ▸ hd.tipo)
    · exact Or.inl rfl
  refine ⟨⟨?_, h.propias, ?_, ?_, ?_, h.tr, h.cr3, (fun _ h => by cases h),
    (fun _ h => by cases h), fun _ _ h => by cases h⟩, hvista, hmis⟩
  · refine turnos_congr h.turnos hmis (fun j => Iff.rfl) fun i => ?_
    rw [hgdt]
    split
    · next hi =>
      rw [hi]
      exact iff_of_true (DeTarea.acceso (Or.inl rfl)) hd.acceso
    · rfl
  · refine h.tablas.congr hmis (fun i hi => ?_) (fun t => ?_) fun t ht => ?_
    · rw [hgdt, if_neg (by omega)]
    · rw [hgdt, if_neg (by omega)]
    · rw [hgdt]
      split
      · obtain rfl : t = u := by omega
        exact Or.inl rfl
      · exact h.tablas.desc t ht
  · rw [hvista, Cpu.soltar_propios]
    refine h.registros.sigue (fun t => sigue_refl _) h.registros.reanuda (fun t => Iff.rfl) ?_ hdif
    rw [hgdt, if_neg (by omega)]
  · rw [hvista]
    exact h.fase.soltar (by omega)

/-! ### What happens between two changes -/

/-- What neither a call nor a store changes. -/
structure Deja (k k' : Kernel) : Prop where
  gdt : k'.gdt = k.gdt
  task : ∀ t, (k'.rTareas t).task = (k.rTareas t).task
  cr3 : ∀ q, (k'.tss q).cr3 = (k.tss q).cr3
  ldt : ∀ q, (k'.tss q).ldt = (k.tss q).ldt
  regs : ∀ q, Sigue (contexto (k.tss q)) (contexto (k'.tss q))
  eip : ∀ q, (k'.tss q).eip = (k.tss q).eip

lemma Deja.tarea (h : Deja k k') (t : ℕ) : Tarea k' t ↔ Tarea k t := by
  unfold Tarea
  rw [h.task]

lemma deja_marco (h : Syscall.Marco k k') : Deja k k' := by
  refine ⟨h.gdt, h.task, fun q => ?_, fun q => ?_, fun q => ?_, fun q => ?_⟩ <;>
    obtain ⟨a, b, c, d, hq⟩ := h.tss q <;> rw [hq]
  exact ⟨rfl, rfl, rfl, rfl, rfl, rfl, Iff.rfl⟩

lemma deja_iobp (q : Ptr) (f : (ℕ → Byte) → ℕ → Byte) (rPort : ℕ → Byte) :
    Deja k ({ k with rPort := rPort }.updTss q fun s => { s with iobp := f s.iobp }) := by
  have hcampo {β : Type} {g : Tss → β} (hg : ∀ s : Tss, g { s with iobp := f s.iobp } = g s)
      (q' : Ptr) := updTss_campo hg { k with rPort := rPort } q q'
  refine ⟨rfl, fun _ => rfl, hcampo fun _ => rfl, hcampo fun _ => rfl, fun q' => ?_,
    hcampo fun _ => rfl⟩
  rw [hcampo (g := contexto) fun _ => rfl]
  exact sigue_refl _

lemma deja_setPort (p : ℕ) (k : Kernel) : Deja k (Ports.setPort p k).2 := by
  rw [Ports.setPort_eq]
  split
  · exact deja_marco Syscall.Marco.rfl'
  · exact deja_iobp _ (fun m => erase m p) _

lemma deja_unsetPort (p : ℕ) (k : Kernel) : Deja k (Ports.unsetPort p k).2 := by
  rw [Ports.unsetPort_eq]
  exact deja_iobp _ (fun m => mark m p) _

lemma Inv.propios_deja (h : Inv n N e o m) (k' : Kernel) (c : Contexto) (guarda : ℕ × ℕ) (t : ℕ) :
    (vista { m with k := k', regs := c, guarda := guarda }).propios t =
      if t = e.corre 0 then c else contexto (k'.tss (some t)) := by
  rw [Cpu.propios, ← h.fase.actual]
  rfl

lemma Inv.propios_propio (h : Inv n N e o m) (k' : Kernel) (c : Contexto) (guarda : ℕ × ℕ)
    (hreg : ∀ t, contexto (k'.tss (some t)) = contexto (m.k.tss (some t))) :
    (vista { m with k := k', regs := c, guarda := guarda }).propios =
      Function.update (vista m).propios (e.corre 0) c := by
  ext t
  have hm := h.propios_deja m.k m.regs m.guarda t
  rw [h.propios_deja, Function.update_apply]
  by_cases ht : t = e.corre 0
  · rw [if_pos ht, if_pos ht]
  · rw [if_neg ht] at hm ⊢
    rw [if_neg ht, hreg]
    exact hm.symm

lemma Inv.deja (h : Inv n N e o m) (hk : Deja m.k k') (hturnos : Turns.Inv N (k', o'))
    (hindice : ∀ u, o' = some u → k'.tIndice = u) (hc : Sigue m.regs c)
    (hre : 1 ≤ e.corre 0 → e.corre 0 < 3 → Reanuda n (e.corre 0) c) (guarda : ℕ × ℕ) :
    Inv n N e o' { m with k := k', regs := c, guarda := guarda } := by
  have hpro := h.propios_deja k' c guarda
  have hpro' := h.propios_deja m.k m.regs m.guarda
  refine ⟨hturnos, fun t ht => (hk.tarea t).mpr (h.propias t ht), ?_, ?_, ?_, h.tr, ?_,
    fun u hu => ⟨(h.ultima u hu).1, (hk.tarea u).mpr (h.ultima u hu).2⟩, hindice, h.anidada⟩
  · refine ⟨?_, ?_, ?_, fun t ht => ?_, fun t ht => ?_, fun t ht => ?_⟩
    · rw [hk.gdt, h.tablas.codigo]
    · rw [hk.gdt, h.tablas.datos]
    · rw [hk.gdt, h.tablas.ldt]
    · rw [hk.gdt]
      exact h.tablas.desc t ((hk.tarea t).mp ht)
    · rw [hk.gdt]
      exact h.tablas.puerta t ((hk.tarea t).mp ht)
    · rw [hk.ldt]
      exact h.tablas.tssLdt t ((hk.tarea t).mp ht)
  · refine h.registros.sigue (fun t => ?_) (fun g h1 h3 => ?_) hk.tarea (by rw [hk.gdt])
      fun i => Or.inl (by rw [hk.gdt])
    · rw [hpro, hpro']
      split
      · exact hc
      · exact hk.regs _
    · have hg := h.registros.reanuda g h1 h3
      rw [hpro]
      rw [hpro'] at hg
      split
      · next he => exact he ▸ hre (he ▸ h1) (he ▸ h3)
      · next he =>
        rw [if_neg he] at hg
        have he' : (contexto (k'.tss (some g))).eip = (contexto (m.k.tss (some g))).eip := hk.eip _
        unfold Reanuda at hg ⊢
        rwa [he']
  · refine ⟨h.fase.actual, fun t => ?_⟩
    rw [← h.fase.marcas t]
    unfold vista
    rw [hk.gdt]
  · rw [hk.cr3]
    exact h.cr3

/-! ### The start -/

lemma nueva_segmentos {s : Tss} (h : Nueva KERNEL_CS KERNEL_DS 0 s) (h1 : gdt 1 = gdtBoot 1)
    (h2 : gdt 2 = gdtBoot 2) : Segmentos n.ldt gdt dl (contexto s) := by
  refine segmentos_kernel h1 h2 h.cs h.ss fun sel hs => ?_
  obtain ⟨hds, hes, hfs, hgs⟩ := h.datos
  simp only [contexto, hds, hes, hfs, hgs, List.mem_cons, List.not_mem_nil, or_false, or_self] at hs
  exact hs

lemma nueva_segmentos_usuario {x : ℕ} {s : Tss} (h : Nueva USER_CS USER_DS 0x200 s) :
    Segmentos n.ldt gdt (descLdt x) (contexto s) := by
  refine segmentos_usuario h.cs h.ss fun sel hs => ?_
  obtain ⟨hds, hes, hfs, hgs⟩ := h.datos
  simp only [contexto, hds, hes, hfs, hgs, List.mem_cons, List.not_mem_nil, or_false, or_self] at hs
  exact hs

lemma nueva_abierta {cs ds eflag : ℕ} {s : Tss} (h : Nueva cs ds eflag s) :
    (contexto s).Abierta ↔ eflag.testBit 9 = true := by
  rw [← h.eflag]
  rfl

lemma cargas_tablas (h : Cargas n N k) : Tablas n (ltr k) := by
  have hfija : ∀ i < 4, (ltr k).gdt i = gdtLdt n.enlace i := fun i hi => by
    rw [ltr_gdt, if_neg (by omega)]
    exact h.puertas.fijas i hi
  have htarea (t : ℕ) : Tarea (ltr k) t ↔ t < N ∧ t < PARES := h.registro.tarea_iff
  refine ⟨hfija 1 (by omega), hfija 2 (by omega), hfija 3 (by omega), fun t ht => ?_,
    fun t ht => ?_, fun t ht => ?_⟩
  · obtain ⟨hn, hp⟩ := (htarea t).mp ht
    have hd := h.puertas.desc t hn hp
    rw [ltr_gdt]
    split
    · next h4 => exact Or.inr (by rw [← h4, hd])
    · exact Or.inl hd
  · obtain ⟨hn, hp⟩ := (htarea t).mp ht
    rw [ltr_gdt, if_neg (by omega)]
    exact h.puertas.puerta t hn hp
  · obtain ⟨hn, hp⟩ := (htarea t).mp ht
    rcases Nat.lt_or_ge t 3 with h3 | h3
    · exact (h.propia t hn h3).1.ldt
    · exact (h.usuario t hn h3 hp).ldt

lemma cargas_marcas (h : Cargas n N k) (t : ℕ) :
    ocupado ((ltr k).gdt (4 + 2 * t)) = true ↔ t = 0 := by
  rw [ltr_gdt]
  split
  · next h4 => exact iff_of_true (ocupado_marcar _) (by omega)
  · next h4 =>
    refine iff_of_false ?_ (by omega)
    have hpar : PARES = 98 := rfl
    by_cases ht : t < N ∧ t < PARES
    · rw [h.puertas.desc t ht.1 ht.2, ocupado_descTss]
      exact Bool.false_ne_true
    · have h0 : (k.gdt (4 + 2 * t)).acceso = 0 := by
        by_cases hg : 4 + 2 * t < MAX_GDT
        · by_contra hc
          have := (h.registro.gdt _ (by omega) hg).mp hc
          simp only [MAX_GDT] at hg
          omega
        · exact h.fuera _ (by omega)
      rw [ocupado, h0]
      exact Bool.false_ne_true

/-- **The start** has the invariant, whatever the turns count as loads. -/
lemma inicial_inv (h : Inicial n m) : ∃ N K, Turns.Cargado n.enlace K ∧
    m.k = ltr (Boot.soltarVideo K) ∧ Inv n N (.base none) none m := by
  obtain ⟨k, hk, hm⟩ := h.cargado
  obtain ⟨M, K, hM, hK, hc, rfl⟩ := cargado_ltr hk
  obtain ⟨N, hN⟩ := Turns.inicial_inv (s := (Boot.soltarVideo K, none)) ⟨K, hc, rfl⟩
  have hm' : m.k = ltr (Boot.soltarVideo K) := hm
  have hcar : Cargas n M (Boot.soltarVideo K) :=
    ⟨⟨hK.registro.tss, hK.registro.gdt, hK.registro.lugar, hK.registro.libre⟩, hK.puertas,
      hK.propia, hK.usuario, hK.fuera⟩
  have hmis : Mismo (Boot.soltarVideo K) m.k := by
    rw [hm']
    exact ⟨rfl, fun _ => rfl⟩
  have htarea (t : ℕ) : Tarea m.k t ↔ t < M ∧ t < PARES :=
    (hmis.tarea t).trans hcar.registro.tarea_iff
  have htss : m.k.tss = K.tss := by
    rw [hm']
    rfl
  have htab : Tablas n m.k := by
    rw [hm']
    exact cargas_tablas hcar
  have hactual : (vista m).actual = 0 := by
    simp only [vista, h.tr]
  have hpro (t : ℕ) : (vista m).propios t =
      if t = 0 then m.regs else contexto (K.tss (some t)) := by
    rw [Cpu.propios, hactual, ← htss]
    rfl
  have hkernel (t : ℕ) (h3 : t < 3) := hK.propia t (by omega) h3
  obtain ⟨hcs, hss, hseg⟩ := h.segmentos
  refine ⟨N, K, hc, hm', ?_,
    fun t ht => (htarea t).mpr ⟨by omega, by simp only [PARES, MAX_GDT]; omega⟩, htab,
    ⟨fun t ht => ?_, fun t ht => ?_, fun t ht => ?_, fun g h1 h3 => ?_⟩,
    ⟨hactual, fun t => ?_⟩, h.tr, ?_, (fun _ h => by cases h),
    (fun _ h => by cases h), fun _ _ h => by cases h⟩
  · refine turnos_congr hN hmis (fun j => by rw [htss]; rfl) fun i => ?_
    rw [hm']
    exact (ltrGdt_acceso (hcar.acceso (by omega)) i).not
  · rw [hpro]
    split
    · exact ⟨hcs, h.cerrada⟩
    · refine ⟨(hkernel t ht).1.cs, ?_⟩
      rw [nueva_abierta (hkernel t ht).1]
      exact Bool.false_ne_true
  · obtain ⟨hM', hp⟩ := (htarea t).mp ht.2
    have hu := hK.usuario t hM' ht.1 hp
    have h3 : 3 ≤ t := ht.1
    rw [hpro, if_neg (by omega), nueva_abierta hu]
    exact ⟨congrArg (· % 4) hu.cs, rfl⟩
  · obtain ⟨hM', hp⟩ := (htarea t).mp ht
    rw [hpro]
    split
    · exact segmentos_kernel htab.codigo htab.datos hcs hss fun sel hs => by
        obtain ⟨hds, hes, hfs, hgs⟩ := hseg
        simpa [hds, hes, hfs, hgs] using hs
    · rcases Nat.lt_or_ge t 3 with h3 | h3
      · exact nueva_segmentos (hkernel t h3).1 htab.codigo htab.datos
      · rw [htab.ldt]
        exact nueva_segmentos_usuario (hK.usuario t hM' h3 hp)
  · rw [hpro, if_neg (by omega)]
    exact Or.inl (hkernel g h3).2.1
  · have hmarca := cargas_marcas hcar t
    rw [← hm'] at hmarca
    exact hmarca
  · rw [h.cr3, hm']
    exact (hkernel 0 (by omega)).2.2.symm

end Silicio.Phases
