import Silicio.View
import Silicio.Turns

/-!
What programs cannot do to memory, whatever they store.

The page tables say where a store of a program ends: in its module, in its stack, or in a page that
has been granted. None of these holds a table, so no store changes what the next ones can reach, and
along a whole run each byte of memory is changed only by somebody who may. The calls here are those
the kernel answers without writing for a driver or its client.
-/

namespace Silicio.Integrity

open Silicio.Bitmap Silicio.Bytes Silicio.Defs Silicio.Mm Silicio.Mmu Silicio.Tasks Silicio.Registry
open Silicio.Runs Silicio.Syscall Silicio.Boot Silicio.Owners Silicio.Tables Silicio.Layout
open Silicio.Driver (Acepta Responde)
open Silicio.Ports (setPort unsetPort)
open Silicio.Walk Silicio.View

/-! ### Runs -/

inductive Evento
  | escritura (t : ℕ)
  | mem
  | otra

/-- A call the kernel answers without a write to memory. -/
def Callada (t : ℕ) (r : Regs) (k : Kernel) : Prop :=
  r.eax ≠ SYS_MEM ∧ ∀ i, ¬ Acepta t r k i ∧ ¬ Responde t r k i

/-- One step: a program stores a byte; a task calls `sys_mem`; the video pages are given up; any
other call that is answered without a write; a port is asked for or given back; another task gets
the processor. Pages and ports are in their maps. -/
inductive Paso (b : Maquina) : Kernel × Historia → Evento → Kernel × Historia → Prop
  | escritura {k : Kernel} {g : Historia} {t v : ℕ} (w : Byte) (ht : DeUsuario k g t)
      (hv : v < 2 ^ 32) : Paso b (k, g) (.escritura t) (escribir t v w k, g)
  | mem {k : Kernel} {g : Historia} {t : ℕ} {r : Regs} (basura : ℕ → ℕ) (ht : Tarea k t)
      (hr : r.eax = SYS_MEM) (hp : r.ebx < PAG_MEM) :
      Paso b (k, g) .mem (llamar basura t r k, g.conceder t r.ebx k.mm)
  | video {k : Kernel} {g : Historia} (hg : g.video = false) :
      Paso b (k, g) .otra (soltarVideo k, { g with video := true })
  | llamada {k : Kernel} {g : Historia} {t : ℕ} {r : Regs} (basura : ℕ → ℕ) (ht : Tarea k t)
      (hc : Callada t r k) : Paso b (k, g) .otra (llamar basura t r k, g)
  | setPort {k : Kernel} {g : Historia} {p : ℕ} (hp : p < 8 * TSS_PORT) :
      Paso b (k, g) .otra ((setPort p k).2, g)
  | unsetPort {k : Kernel} {g : Historia} {p : ℕ} (hp : p < 8 * TSS_PORT) :
      Paso b (k, g) .otra ((unsetPort p k).2, g)
  | turno {k : Kernel} {g : Historia} (u : ℕ) : Paso b (k, g) .otra ({ k with tIndice := u }, g)

variable {b : Maquina} {g : Historia} {k k' : Kernel} {s s' : Kernel × Historia} {r : Regs}
variable {t u v p : ℕ}

/-! ### Where a store ends -/

def Datos : Dueno → Prop
  | .modulo _ | .pila _ | .concesion _ => True
  | _ => False

def Tablas : Dueno → Prop
  | .directorio | .tabla _ | .dir _ | .tab _ => True
  | _ => False

lemma accesible_datos (h : Tables.Inv b (k, g)) (hv : b.Ventana)
    (hant : ∀ e ∈ g.cargas, e.antes = []) (hu : Tarea k u) (h3 : 3 ≤ u)
    (hac : Accesible k u p) : ∃ o, Posee b g o p ∧ Datos o := by
  have hcon {t p : ℕ} (hp : (t, p) ∈ g.concesiones) : ∃ o, Posee b g o p ∧ Datos o := by
    obtain ⟨j, hj⟩ := List.mem_iff_getElem?.mp hp
    exact ⟨.concesion j, ⟨t, hj⟩, trivial⟩
  obtain ⟨v, h32, hw, hp⟩ := hac
  obtain ⟨hA, hM⟩ := (userWrite_abre h hv hu h32).mp hw
  rw [phys_pagina h hv hu h32, show (4096 * paginaDe g u (v / 2 ^ 22) (v / 4096 % 1024) +
    v % 4096) / 4096 = paginaDe g u (v / 2 ^ 22) (v / 4096 % 1024) by omega] at hp
  subst hp
  generalize v / 4096 % 1024 = j at *
  generalize v / 2 ^ 22 = r at *
  unfold paginaDe
  unfold Muestra at hM
  by_cases hr : r = 0
  · rw [if_pos ⟨h3, hr⟩] at hM ⊢
    obtain ⟨e, he, hU⟩ := hM
    have hm := List.mem_of_getElem? he
    simp only [he, Option.map_some, Option.getD_some]
    unfold destino
    split_ifs with h1 h2
    · obtain ⟨m, hmod, hini, hpag, -⟩ := h.modulo e hm
      exact ⟨.modulo e.modulo, ⟨m, hmod, by omega, by omega⟩, trivial⟩
    · exact ⟨.pila (u - 3), ⟨e, he, rfl⟩, trivial⟩
    · rcases hU with (hU | hU) | hU | ⟨t, htj, -⟩
      · exact absurd hU h1
      · exact absurd hU h2
      · exact hcon hU
      · simp [hant e hm] at htj
  · rw [if_neg fun hx => hr hx.2] at hM ⊢
    obtain ⟨t, ht, -⟩ := hM
    exact hcon ht

lemma deTablas_posee (hv : b.Ventana) (h : DeTablas b g p) : ∃ o, Posee b g o p ∧ Tablas o := by
  rcases h with h | ⟨e, he, h⟩
  · have hp (i : ℕ) (hi : i < 1 + CAN_TAB_PAG) : b.paginas[i]? = some (b.raiz + i) := by
      rw [paginas_eq b hv, List.getElem?_range' hi, Nat.one_mul]
    have hn : 1 + CAN_TAB_PAG = 1025 := rfl
    rcases Nat.eq_or_lt_of_le h.1 with h0 | h0
    · exact ⟨.directorio, by rw [Posee, hp 0 (by omega), h0, Nat.add_zero], trivial⟩
    · refine ⟨.tabla (p - b.raiz - 1), ⟨by omega, ?_⟩, trivial⟩
      rw [hp _ (by omega), show b.raiz + (p - b.raiz - 1 + 1) = p by omega]
  · obtain ⟨c, hc⟩ := List.mem_iff_getElem?.mp he
    rcases h with h | h
    · exact ⟨.dir c, ⟨e, hc, h⟩, trivial⟩
    · exact ⟨.tab c, ⟨e, hc, h⟩, trivial⟩

lemma Datos.not_tablas {o : Dueno} (h : Datos o) : ¬ Tablas o := by
  cases o <;> simp_all [Datos, Tablas]

/-- The page a program writes at holds no table, nor anything of the kernel. -/
lemma accesible_fuera (h : Tables.Inv b (k, g)) (hv : b.Ventana)
    (hant : ∀ e ∈ g.cargas, e.antes = []) (hu : Tarea k u) (h3 : 3 ≤ u)
    (hac : Accesible k u p) : ¬ DeTablas b g p ∧ ∀ o, Posee b g o p → Datos o := by
  obtain ⟨o, ho, hdat⟩ := accesible_datos h hv hant hu h3 hac
  obtain ⟨L, hL⟩ := h.duenos.libro
  have huno := hL.repartida.uno
  refine ⟨fun hp => ?_, fun o' ho' => ?_⟩
  · obtain ⟨o', ho', htab⟩ := deTablas_posee hv hp
    obtain rfl := huno o o' p ho ho'
    exact hdat.not_tablas htab
  · obtain rfl := huno o o' p ho ho'
    exact hdat

/-! ### The invariant -/

def con (b : Maquina) (m : Mem) : Maquina := { b with mem := m }

/-- The tables are as loads and grants make them, whatever the rest of memory holds. -/
structure Integra (b : Maquina) (s : Kernel × Historia) : Prop where
  tablas : Tables.Inv (con b s.1.mem) s
  antes : ∀ e ∈ s.2.cargas, e.antes = []

lemma duenos_con (h : Owners.Inv b s) (m : Mem) : Owners.Inv (con b m) s := by
  obtain ⟨L, hL⟩ := h.libro
  exact ⟨⟨L, hL.owns, hL.marked⟩, h.memOff, h.memMax⟩

lemma orden_con (h : Orden b s) (m : Mem) : Orden (con b m) s :=
  ⟨duenos_con h.duenos m, h.registro, h.cr3, h.gDir, h.gTab, h.bajo, h.modulo, h.unico,
    h.concesiones, h.antes⟩

lemma orden_mem (h : Orden b (k, g)) (m : Mem) : Orden b ({ k with mem := m }, g) := by
  obtain ⟨L, hL⟩ := h.duenos.libro
  exact ⟨⟨⟨L, hL.owns, hL.marked⟩, h.duenos.memOff, h.duenos.memMax⟩,
    h.registro.congr (fun _ => rfl) rfl (fun _ => rfl) fun _ => rfl, h.cr3, h.gDir, h.gTab, h.bajo,
    h.modulo, h.unico, h.concesiones, h.antes⟩

/-- What memory holds outside the tables is not looked at. -/
lemma inv_con (h : Tables.Inv b (k, g)) : Tables.Inv (con b k.mem) (k, g) :=
  ⟨orden_con h.toOrden k.mem, h.mapa.dirs, h.mapa.comunes, h.mapa.propias, fun _ _ _ => rfl⟩

lemma mapa_congr (h : Tables.Inv b (k, g)) (hv : b.Ventana) {m : Mem}
    (hm : ∀ x < 2 ^ 32, DeTablas b g (x / 4096) → rd8 m x = rd8 k.mem x) :
    Mapa (con b m) m g := by
  have hb := fun e he => (⟨(h.bajo e he).1, (h.bajo e he).2.1⟩ :
    e.espacio.dir < 2 ^ 20 ∧ e.espacio.tabla < 2 ^ 20)
  have hraiz := raiz_lt hv
  have hword {p j : ℕ} (hp : p < 2 ^ 20) (hd : DeTablas b g p) (hj : j < 1024) :
      word m p j = word k.mem p j :=
    word_congr hp hj fun x hx hxp => hm x hx (hxp ▸ hd)
  refine ⟨fun u hu r hr => ?_, fun r hr j hj => ?_, fun c e he j hj => ?_, fun _ _ _ => rfl⟩
  · obtain ⟨hd, -, -, hdir, -⟩ := tablas_de hu hraiz hb (h.distintas hv) hr
    rw [show raizDe (con b m) g u = raizDe b g u from rfl, hword hd hdir hr]
    exact h.mapa.dirs u hu r hr
  · rw [show (con b m).raiz = b.raiz from rfl, hword (by omega) (Or.inl ⟨by omega, by omega⟩) hj]
    exact h.mapa.comunes r hr j hj
  · have hm := List.mem_of_getElem? he
    rw [hword (hb e hm).2 (Or.inr ⟨e, hm, Or.inr rfl⟩) hj]
    exact h.mapa.propias c e he j hj

lemma Integra.igual (h : Integra b (k, g)) (hmem : k'.mem = k.mem) (hmm : k'.mm = k.mm)
    (hreg : Registro (3 + g.cargas.length) k') (htar : ∀ u, Tarea k' u ↔ Tarea k u)
    (hcr : ∀ u, (k'.tss (some u)).cr3 = (k.tss (some u)).cr3) (hD : k'.gDir = k.gDir)
    (hT : k'.gTab = k.gTab) : Integra b (k', g) := by
  obtain ⟨h, hant⟩ := h
  simp only at h hant
  obtain ⟨⟨L, hL⟩, hoff, hmax⟩ := h.duenos
  have hdu : Owners.Inv (con b k.mem) (k', g) := by
    refine ⟨⟨L, hL.owns, fun p => ?_⟩, ?_, ?_⟩
    · simp only [hmm]
      exact hL.marked p
    · rw [hmm]
      exact hoff
    · rw [hmm]
      exact hmax
  refine ⟨?_, hant⟩
  simp only [hmem]
  refine ⟨⟨hdu, hreg, fun u hu => ?_, hD.trans h.gDir, hT.trans h.gTab, h.bajo, h.modulo, h.unico,
    fun t p htp => ?_, h.antes⟩, ?_⟩
  · rw [hcr]
    exact h.cr3 u ((htar u).mp hu)
  · obtain ⟨ht, hp⟩ := h.concesiones t p htp
    exact ⟨(htar t).mpr ht, hp⟩
  · simp only [hmem]
    exact h.mapa

lemma Integra.marco (h : Integra b (k, g)) (hM : Marco k k') (hmem : k'.mem = k.mem)
    (hmm : k'.mm = k.mm) : Integra b (k', g) := by
  refine h.igual hmem hmm (hM.registro h.tablas.registro) hM.tarea (fun u => ?_) hM.gDir hM.gTab
  obtain ⟨_, _, _, _, hq⟩ := hM.tss (some u)
  rw [hq]

lemma Integra.puerto (h : Integra b (k, g)) (q : Ptr) (f : Tss → Tss) (rPort : ℕ → Byte)
    (hcs : ∀ s, (f s).cs = s.cs) (hcr : ∀ s, (f s).cr3 = s.cr3) :
    Integra b ({ k with rPort := rPort }.updTss q f, g) := by
  have hcampo {α : Type} (c : Tss → α) (hc : ∀ s, c (f s) = c s) (q' : Ptr) :
      c (({ k with rPort := rPort }.updTss q f).tss q') = c (k.tss q') := by
    rw [updTss_tss]
    split
    · next hq => rw [hc, hq]
    · rfl
  refine h.igual rfl rfl ?_ (fun _ => Iff.rfl) (fun u => hcampo Tss.cr3 hcr _) rfl rfl
  exact h.tablas.registro.congr (hcampo Tss.cs hcs) rfl (fun _ => rfl) fun _ => rfl

/-! ### Steps -/

lemma llamar_callada (basura : ℕ → ℕ) (hc : Callada t r k) :
    (llamar basura t r k).mem = k.mem ∧ (llamar basura t r k).mm = k.mm := by
  obtain ⟨hmem, hno⟩ := hc
  rw [llamar_eq]
  by_cases hp : Pide r.eax
  · cases hrev : revisar r (entrar t r k) with
    | some e =>
      rw [despachar_pide basura hp, pedido_rechazo hp hrev]
      exact ⟨rfl, rfl⟩
    | none => exact absurd ⟨hp, hrev, rfl⟩ (hno r.ebx).1
  · simp only [Pide, not_or] at hp
    unfold despachar
    rw [if_neg hp.1, if_neg hp.2.1, if_neg hp.2.2]
    split_ifs with h1 h2 h3 h4
    · unfold guardar
      rw [sysOpen_snd]
      exact ⟨rfl, rfl⟩
    · unfold guardar sysReg
      split <;> exact ⟨rfl, rfl⟩
    · cases hrev : revisarRet r.ebx (entrar t r k) with
      | some e =>
        rw [sysRet_rechazo hrev]
        exact ⟨rfl, rfl⟩
      | none => exact absurd ⟨h3, hrev, rfl⟩ (hno _).2
    · exact ⟨rfl, rfl⟩
    · exact ⟨rfl, rfl⟩

variable {e : Evento} {es : List Evento}

/-- Loads are over, and nothing granted is taken back. -/
lemma paso_historia (hs : Paso b s e s') : s'.2.cargas = s.2.cargas ∧
    (∀ a ∈ s.2.concesiones, a ∈ s'.2.concesiones) ∧ ∀ u, Tarea s'.1 u ↔ Tarea s.1 u := by
  cases hs with
  | escritura =>
    unfold escribir
    split <;> exact ⟨rfl, fun _ h => h, fun _ => Iff.rfl⟩
  | mem basura =>
    refine ⟨?_, fun a ha => ?_, (llamar_marco basura _ _ _).tarea⟩
    · unfold Historia.conceder
      split <;> rfl
    · unfold Historia.conceder
      split
      · exact List.mem_append_left _ ha
      · exact ha
  | video | turno => exact ⟨rfl, fun _ h => h, fun _ => Iff.rfl⟩
  | llamada basura => exact ⟨rfl, fun _ h => h, (llamar_marco basura _ _ _).tarea⟩
  | setPort =>
    rw [Ports.setPort_eq]
    split <;> exact ⟨rfl, fun _ h => h, fun _ => Iff.rfl⟩
  | unsetPort =>
    rw [Ports.unsetPort_eq]
    exact ⟨rfl, fun _ h => h, fun _ => Iff.rfl⟩

/-- **The step lemma**: the tables stay as loads and grants make them, and a byte outside them is
changed only by a program that may write its page. -/
lemma Integra.paso (h : Integra b s) (hv : b.Ventana) (hs : Paso b s e s') :
    Integra b s' ∧ ∀ x < 2 ^ 32, ¬ DeTablas b s.2 (x / 4096) →
      rd8 s'.1.mem x = rd8 s.1.mem x ∨
        ∃ t, e = .escritura t ∧ DeUsuario s.1 s.2 t ∧ Accesible s.1 t (x / 4096) := by
  cases hs with
  | @escritura k g t v w ht h32 =>
    unfold escribir
    split
    · next hw =>
      have hac : Accesible k t (phys k.mem (k.tssOf t).cr3 v / 4096) := ⟨v, h32, hw, rfl⟩
      have hfuera := (accesible_fuera h.tablas hv h.antes ht.1 ht.2.1 hac).1
      have hlt : phys k.mem (k.tssOf t).cr3 v < 2 ^ 32 := phys_lt _ _ _
      refine ⟨⟨⟨orden_con (orden_mem h.tablas.toOrden _) _, ?_⟩, h.antes⟩, fun x hx _ => ?_⟩
      · refine mapa_congr h.tablas hv fun x hx hd => rd8_wr8_of_ne fun he => hfuera ?_
        rw [Nat.mod_eq_of_lt hx, Nat.mod_eq_of_lt hlt] at he
        rwa [← he]
      · simp only [rd8_wr8, Nat.mod_eq_of_lt hx, Nat.mod_eq_of_lt hlt]
        split
        · next he => exact Or.inr ⟨t, rfl, ht, he ▸ hac⟩
        · exact Or.inl rfl
    · exact ⟨h, fun _ _ _ => Or.inl rfl⟩
  | @mem k g t r basura ht hr hp =>
    have hinv := h.tablas.mem hv basura ht hr hp
    have hpaso : Paso b (k, g) .mem (llamar basura t r k, g.conceder t r.ebx k.mm) :=
      .mem basura ht hr hp
    have hcar := (paso_historia hpaso).1
    have hcon := inv_con hinv
    refine ⟨⟨hcon, fun c hc => h.antes c (hcar ▸ hc)⟩, fun x hx hd => Or.inl ?_⟩
    refine hinv.mapa.resto x hx fun hd' => hd ?_
    unfold DeTablas at hd' ⊢
    rwa [hcar] at hd'
  | video hg => exact ⟨⟨h.tablas.video hg, h.antes⟩, fun _ _ _ => Or.inl rfl⟩
  | llamada basura ht hc =>
    obtain ⟨hmem, hmm⟩ := llamar_callada basura hc
    exact ⟨h.marco (llamar_marco _ _ _ _) hmem hmm, fun _ _ _ => Or.inl (by rw [hmem])⟩
  | @setPort k g p =>
    rw [Ports.setPort_eq]
    split
    · exact ⟨h, fun _ _ _ => Or.inl rfl⟩
    · exact ⟨h.puerto _ (fun t => { t with iobp := erase t.iobp p }) _ (fun _ => rfl)
        fun _ => rfl, fun _ _ _ => Or.inl rfl⟩
  | @unsetPort k g p =>
    rw [Ports.unsetPort_eq]
    exact ⟨h.puerto _ (fun t => { t with iobp := mark t.iobp p }) _ (fun _ => rfl)
      fun _ => rfl, fun _ _ _ => Or.inl rfl⟩
  | turno u =>
    exact ⟨h.marco (marco_resto _ _ _ _) rfl rfl, fun _ _ _ => Or.inl rfl⟩

lemma cargada_integra (hv : b.Ventana) (h : Cargada b s) : Integra b s := by
  obtain ⟨hr, -, hant⟩ := cargada_spec h
  exact ⟨inv_con (tablas_en_todo_estado hv hr), hant⟩

lemma reach_integra (hv : b.Ventana) (h : Reach (Cargada b) (Paso b) s) : Integra b s :=
  h.invariant (fun _ hs => cargada_integra hv hs) fun _ _ _ hi hs => (hi.paso hv hs).1

lemma paso_escribe : Paso tres (nucleoTres 3, historiaTres 3) (.escritura 4)
    (escribir 4 0x300000 1 (nucleoTres 3), historiaTres 3) :=
  .escritura 1 ⟨tres_tarea (by decide), by decide, cargaTres 1, rfl, rfl⟩ (by decide)

lemma tres_reach : Reach (Cargada tres) (Paso tres) (nucleoTres 3, historiaTres 3) :=
  .init (nucleoTres_spec le_rfl).1

/-! ### What the kernel has -/

/-- **Programs cannot touch the kernel.** In every run after the loads, whatever programs store and
ask for, what each of them sees at each address is what loads and grants say; and where it may
write, the page is of a module, a stack or a grant, and of nothing else: not of the image of the
kernel or the first megabyte, nor of the tables. -/
theorem nucleo_intacto (hv : b.Ventana) (h : Reach (Cargada b) (Paso b) (k, g)) (hu : Tarea k u)
    (h3 : 3 ≤ u) (h32 : v < 2 ^ 32) :
    (UserWrite k.mem (k.tssOf u).cr3 v ↔
      Abre g u (v / 2 ^ 22) ∧ Muestra g u (v / 2 ^ 22) (v / 4096 % 1024)) ∧
    phys k.mem (k.tssOf u).cr3 v =
      4096 * paginaDe g u (v / 2 ^ 22) (v / 4096 % 1024) + v % 4096 ∧
    (UserWrite k.mem (k.tssOf u).cr3 v →
      ¬ DeTablas b g (phys k.mem (k.tssOf u).cr3 v / 4096) ∧
      (∃ o, Datos o ∧ Posee b g o (phys k.mem (k.tssOf u).cr3 v / 4096)) ∧
      ∀ o, Posee b g o (phys k.mem (k.tssOf u).cr3 v / 4096) → Datos o) := by
  have hi := reach_integra hv h
  refine ⟨userWrite_abre hi.tablas hv hu h32, phys_pagina hi.tablas hv hu h32, fun hw => ?_⟩
  have hac : Accesible k u (phys k.mem (k.tssOf u).cr3 v / 4096) := ⟨v, h32, hw, rfl⟩
  obtain ⟨o, ho, hd⟩ := accesible_datos hi.tablas hv hi.antes hu h3 hac
  obtain ⟨hno, hall⟩ := accesible_fuera hi.tablas hv hi.antes hu h3 hac
  exact ⟨hno, ⟨o, hd, ho⟩, hall⟩

/-- Task 4 has stored in the page of its module. -/
theorem nucleo_intacto_escribe : ¬ DeTablas tres (historiaTres 3)
    (phys (escribir 4 0x300000 1 (nucleoTres 3)).mem
      ((escribir 4 0x300000 1 (nucleoTres 3)).tssOf 4).cr3 0x300000 / 4096) := by
  have hr := tres_reach.step paso_escribe
  have ht : Tarea (escribir 4 0x300000 1 (nucleoTres 3)) 4 :=
    (paso_historia paso_escribe).2.2 4 |>.mpr (tres_tarea (by decide))
  refine ((nucleo_intacto tres_ventana hr ht (by decide) (by decide)).2.2 ?_).1
  refine (nucleo_intacto tres_ventana hr ht (by decide) (by decide)).1.mpr ⟨?_, ?_⟩
  · exact Or.inr ⟨by decide, Or.inl rfl⟩
  · rw [Muestra, if_pos ⟨by decide, by decide⟩]
    exact ⟨cargaTres 1, rfl, Or.inl (Or.inl ⟨by decide, by decide⟩)⟩

/-! ### What a program has -/

lemma Suya.historia (h : Suya s.2 t p) (hs : Paso b s e s') : Suya s'.2 t p := by
  obtain ⟨hcar, hcon, -⟩ := paso_historia hs
  unfold Suya at h ⊢
  rw [hcar]
  exact h.imp_left (hcon _)

end Silicio.Integrity
