import Silicio.Deadlock
import Silicio.Waiting
import Silicio.Transfer

/-!
Who waits for whom in the runs of the scheduler.

The drivers keep two rules: a request goes to a driver that waits for one, and a driver does not
call `sys_wait`. Then no client waits in vain: its chain of requests ends at a driver that runs, so
the search of `task_control` ends too.
-/

namespace Silicio.Cycles

open Relation Silicio.Defs Silicio.Paging Silicio.Tasks Silicio.Registry Silicio.Runs
open Silicio.Sched Silicio.Syscall
open Silicio.Driver Silicio.Effects Silicio.Turns Silicio.Layout Silicio.Scene Silicio.Transfer
open Silicio.Deadlock
open Silicio.Bitmap (Byte)
open Silicio.Protocol (Memoria Ociosa Puede paso)

variable {l : Link} {k k' : Kernel} {g : Historia} {o : Option ℕ} {n t c : ℕ} {r : Regs}

/-! ### Runs with their requests -/

/-- The turns, and what a run remembers of requests. -/
abbrev Maquina := Turns.Maquina × Historia

def anotar (k : Kernel) (g : Historia) : Turns.Evento → Historia
  | .llamada t r => g.anotar t (accion r (entrar t r k))
  | _ => g

def Paso (kernelFin : ℕ) (x : Maquina) (e : Turns.Evento) (y : Maquina) : Prop :=
  Contenido kernelFin x.1 e y.1 ∧ y.2 = anotar x.1.1 x.2 e

def Inicial (l : Link) (x : Maquina) : Prop := Turns.Inicial l x.1 ∧ x.2 = .vacia

def Regla (x : Maquina) : Turns.Evento → Prop
  | .llamada t r => Libre (x.1.1, x.2) (.llamada t r) ∧
      (r.eax = SYS_WAIT → ∀ i < MAX_DRIVERS, (x.1.1.rDrv i).idDrv ≠ t)
  | _ => True

variable {x y : Maquina} {e : Turns.Evento} {kernelFin : ℕ}

/-! ### The start -/

/-- No task is in the status the search would take for one that starts. -/
def Arrancadas (k : Kernel) : Prop := ∀ t, estados k t ≠ .starting

lemma cargado_arranque (h : Cargado l k) : Arranque l k := by
  induction h with
  | init h =>
    obtain ⟨mem, mm, propias, rfl⟩ := h
    have h0 : Arranque l (iniTss (iniLdt l { Kernel.cargado mem with mm := mm })) :=
      .init ⟨_, rfl, rfl⟩
    exact (((h0.step (a := ()) .iniPag).step (a := ()) (.execs ..)).step (a := ())
      (.execs ..)).step (a := ()) (.execs ..)
  | step _ hs ih =>
    cases hs with
    | exec start fin name => exact ih.step (a := ()) (.exec start fin name)
    | execd start fin name => exact ih.step (a := ()) (.execd start fin name)

lemma iniTss_estados (k : Kernel) : estados (iniTss k) = estados k := by
  have htarea (k : Kernel) : estados (Loop.loop iniTarea MAX_TASK k) = estados k := by
    refine Loop.loop_frame estados (fun i k => ?_) MAX_TASK k
    ext u
    simp only [estados, iniTarea, updRun_rTareas, updTss_rTareas]
    split
    · next h => rw [h]
    · rfl
  have hdrv (k : Kernel) : estados (Loop.loop iniDrv MAX_DRIVERS k) = estados k := by
    refine Loop.loop_frame estados (fun i k => ?_) MAX_DRIVERS k
    rfl
  exact (hdrv _).trans (htarea k)

lemma Arrancadas.execs (h : Arrancadas k) (start pila : ℕ) (name : ℕ → Byte) :
    Arrancadas (execs l start pila name k).2 := by
  intro u
  simp only [estados, Tasks.execs, Function.update_apply]
  split
  · simp
  · exact h u

lemma Arrancadas.cargar (h : Arrancadas k) (cs ds start fin : ℕ) (name : ℕ → Byte) :
    Arrancadas (cargar cs ds l start fin name k).2 := by
  by_cases ha : Admite start fin k
  · intro u
    rw [estados, cargar_rTareas _ _ _ _ ha, Function.update_apply]
    split
    · simp
    · exact h u
  · rwa [cargar_rechazo _ _ _ _ ha]

lemma cargado_arrancadas (h : Cargado l k) : Arrancadas k := by
  induction h with
  | init h =>
    obtain ⟨mem, mm, propias, rfl⟩ := h
    have h0 : Arrancadas (iniPag (iniTss (iniLdt l { Kernel.cargado mem with mm := mm }))) := by
      intro u
      rw [estados, iniPag_rTareas]
      refine (congrFun (iniTss_estados _) u).trans_ne ?_
      simp [estados, iniLdt, setDescLdt, Kernel.cargado]
    exact ((h0.execs _ _ _).execs _ _ _).execs _ _ _
  | step _ hs ih =>
    cases hs with
    | exec start fin name => exact ih.cargar _ _ _ _ _
    | execd start fin name => exact ih.cargar _ _ _ _ _

/-! ### The invariant -/

structure Orden (n : ℕ) (x : Maquina) : Prop where
  turnos : Turns.Inv n x.1
  pedidos : Driver.Inv n x.1.1 x.2
  despierta : Despierta (estado x.1.1) x.2
  ciclos : SinCiclos (estado x.1.1) x.2
  arrancadas : Arrancadas x.1.1

lemma inicial_orden (h : Inicial l x) : ∃ n, Orden n x := by
  obtain ⟨s, g⟩ := x
  obtain ⟨⟨k, hk, rfl⟩, rfl⟩ := h
  obtain ⟨n, hn⟩ := Turns.inicial_inv ⟨k, hk, rfl⟩
  obtain ⟨N, hN⟩ := arranque_inv (cargado_arranque hk)
  refine ⟨n, hn, ⟨hn.registro, hN.proto, hN.fijos, hN.cero, hN.clientes⟩, ?_,
    fun c hc => ?_, (cargado_arrancadas hk :)⟩
  · intro i c d hi
    simp [Memoria.vacia] at hi
  · obtain ⟨d, ⟨i, hi, -⟩, -⟩ := TransGen.head'_iff.mp hc
    simp [Memoria.vacia] at hi

lemma accion_dormir : accion r k = .dormir → r.eax = SYS_WAIT := by
  intro h
  unfold accion at h
  split_ifs at h with h1 h2 h3 h4
  · split at h <;> cases h
  · split at h <;> cases h
  · split at h <;> cases h
  · exact h4

lemma Arrancadas.congr (h : Arrancadas k) (hs : k'.rTareas = k.rTareas) : Arrancadas k' := by
  intro u
  rw [estados, hs]
  exact h u

lemma Orden.congr {o' : Option ℕ} (h : Orden n ((k, o), g)) (hi : Turns.Inv n (k', o'))
    (hs : k'.rTareas = k.rTareas) (hd : k'.rDrv = k.rDrv) : Orden n ((k', o'), g) := by
  have he : estado k' = estado k := estado_congr hs hd
  refine ⟨hi, ⟨hi.registro, ?_, ?_, fun hz => ?_, fun i c hc => ?_⟩, ?_, ?_,
    h.arrancadas.congr hs⟩
  · rw [he]
    exact h.pedidos.proto
  · rw [he]
    exact h.pedidos.fijos
  · rw [he]
    refine h.pedidos.cero ?_
    rwa [Tarea, ← hs]
  · rw [Tarea, hs]
    exact h.pedidos.clientes i c hc
  · simp only [he]
    exact h.despierta
  · simp only [he]
    exact h.ciclos

lemma Orden.turno (h : Orden n ((k, some t), g)) :
    Usuario k t ∧ (k.rTareas t).status = .running :=
  have ht := h.turnos.turno t rfl
  ⟨ht.1, ht.2.resolve_right (h.arrancadas t)⟩

lemma Orden.puede (h : Orden n ((k, some t), g))
    (hr : Regla ((k, some t), g) (.llamada t r)) :
    Puede (estado k) t (accion r (entrar t r k)) ∧ Ociosa g (accion r (entrar t r k)) ∧
      Vela (estado k) t (accion r (entrar t r k)) := by
  obtain ⟨hu, hrun⟩ := h.turno
  refine ⟨h.pedidos.puede hu.2 hrun, ociosa_iff.mpr hr.1, fun hw i hi => ?_⟩
  obtain ⟨hi10, -, hid⟩ := dueno_eq_some.mp hi
  exact hr.2 (accion_dormir hw) i hi10 hid

/-- A call is a step of the protocol, or leaves it alone. -/
lemma paso_estado (h : Orden n x) (hs : Paso kernelFin x e y) :
    (∃ t r, e = .llamada t r ∧ x.1.2 = some t ∧
      estado y.1.1 = paso (estado x.1.1) t (accion r (entrar t r x.1.1)) ∧
      y.2 = x.2.anotar t (accion r (entrar t r x.1.1))) ∨
    (y.1.1.rTareas = x.1.1.rTareas ∧ y.1.1.rDrv = x.1.1.rDrv ∧ y.2 = x.2) := by
  obtain ⟨⟨k, o⟩, g⟩ := x
  obtain ⟨⟨k', o'⟩, g'⟩ := y
  obtain ⟨hs, rfl⟩ := hs
  cases hs with
  | turno => exact Or.inr ⟨rfl, rfl, rfl⟩
  | llamada basura =>
    have h3 := (h.turno).1.1
    exact Or.inl ⟨_, _, rfl, rfl, estado_llamar basura (by omega), rfl⟩
  | setPort =>
    simp only [Ports.setPort_eq]
    split <;> exact Or.inr ⟨rfl, rfl, rfl⟩
  | unsetPort =>
    simp only [Ports.unsetPort_eq]
    exact Or.inr ⟨rfl, rfl, rfl⟩
  | escritura =>
    simp only [escribir]
    split <;> exact Or.inr ⟨rfl, rfl, rfl⟩

lemma Arrancadas.llamar (h : Arrancadas k) (basura : ℕ → ℕ) (t : ℕ) (r : Regs) :
    Arrancadas (llamar basura t r k) := by
  intro u
  cases llamar_efecto basura t r k with
  | nada _ hs =>
    rw [hs]
    exact h u
  | espera _ hs | registra _ _ _ _ _ hs =>
    rw [hs, Function.update_apply]
    split
    · simp
    · exact h u
  | pide _ _ hs | contesta _ _ hs =>
    rw [hs, Function.update_apply, Function.update_apply]
    split_ifs
    · simp
    · simp
    · exact h u

/-- **The step lemma.** -/
lemma Orden.paso (h : Orden n x) (hs : Paso kernelFin x e y) (hr : Regla x e) : Orden n y := by
  have hi := h.turnos.paso hs.1.paso
  have he := paso_estado h hs
  obtain ⟨⟨k, o⟩, g⟩ := x
  obtain ⟨⟨k', o'⟩, g'⟩ := y
  rcases he with ⟨t, r, rfl, rfl, he, rfl⟩ | ⟨ht, hd, rfl⟩
  · obtain ⟨hp, ho, hv⟩ := h.puede hr
    obtain ⟨hu, hrun⟩ := h.turno
    have hdes := h.despierta.paso h.pedidos.proto hp ho hv
    have hcic := h.ciclos.paso h.pedidos.proto hp ho
    obtain ⟨hs, -⟩ := hs
    cases hs with
    | llamada basura =>
      refine ⟨hi, h.pedidos.llamada hu.2 hrun hr.1 basura, ?_, ?_, h.arrancadas.llamar _ _ _⟩
      · rw [he]
        exact hdes
      · rw [he]
        exact hcic
  · exact h.congr hi ht hd

abbrev EnRegla (kernelFin : ℕ) (x : Maquina) (e : Turns.Evento) (y : Maquina) : Prop :=
  Paso kernelFin x e y ∧ Regla x e

lemma reach_orden (h : Reach (Inicial l) (EnRegla kernelFin) x) : ∃ n, Orden n x := by
  refine h.invariant (P := fun x => ∃ n, Orden n x) (fun x hx => inicial_orden hx) ?_
  rintro x e y ⟨n, hn⟩ ⟨hs, hr⟩
  exact ⟨n, hn.paso hs hr⟩

lemma pendientes_finitos (h : Driver.Inv n k g) : {i | g.pend i ≠ none}.Finite := by
  refine (Set.finite_Iio MAX_DRIVERS).subset fun i hi => ?_
  cases hd : (estado k).dueno i with
  | none => exact absurd (h.proto.libre i hd) hi
  | some d => exact (dueno_eq_some.mp hd).1

/-! ### No deadlock -/

/-- **No deadlock.** In every run in which drivers keep the rules, and no step makes a stray write
in the tables, a client has somebody to wait for: nobody waits for itself, at the end of its chain a
loaded task runs, and `task_control` finds a task. -/
theorem sin_abrazo_mortal (h : Reach (Inicial l) (EnRegla kernelFin) ((k, o), g)) {i : ℕ}
    (hi : g.pend i = some c) :
    (∀ d, ¬ TransGen (Aguarda (estado k) g) d d) ∧
    (∃ d, TransGen (Aguarda (estado k) g) c d ∧ Usuario k d ∧ (k.rTareas d).status = .running) ∧
    ∃ u, Decide k.rTareas k.tIndice u := by
  obtain ⟨n, hn⟩ := reach_orden h
  obtain ⟨d, hcd, hd⟩ := alguien_corre hn.pedidos.proto hn.despierta hn.ciclos
    (pendientes_finitos hn.pedidos) hi
  have hrun := faseDe_corre.mp hd
  obtain ⟨x, -, j, -, hj⟩ := TransGen.tail'_iff.mp hcd
  obtain ⟨hj10, hd0, hid⟩ := dueno_eq_some.mp hj
  have hu : Usuario k d := by
    rw [← hid]
    exact (hn.turnos.ranuras.dueno j hj10).resolve_left (by rwa [hid])
  obtain ⟨htab, hlt⟩ := Waiting.inv_tabla hn.turnos hu
  have h3 : 3 ≤ d := hu.1
  exact ⟨hn.ciclos, ⟨d, hcd, hu, hrun⟩, Intact.tabla_decide htab hn.turnos.indice
    ⟨d, by omega, hlt, Or.inl hrun⟩⟩

/-- Task 3 registers and task 4 asks it for four bytes, by the rules. -/
lemma uno_pendiente : ∃ (s : Turns.Maquina) (g : Historia),
    Reach (Inicial enlace) (EnRegla KERNEL_FIN) (s, g) ∧ g.pend 3 = some 4 := by
  obtain ⟨k, h⟩ : ∃ k, Escenario memTres k := ⟨_, escenario memTres⟩
  set k₁ := entrar 3 reg (turno 3 (k, none)).1
  set k₂ := entrar 4 leer (conductor reg k).1
  have hreg : accion reg k₁ = .registrar 3 :=
    accion_registrar.mpr ⟨rfl, h.registra registra_tres rfl⟩
  obtain ⟨-, -, -, ⟨arch, hslot⟩, -⟩ := h.conduce registra_tres (r := reg) rfl rfl
  have hid : ((conductor reg k).1.rDrv 3).idDrv = 3 := congrArg Drv.idDrv hslot
  obtain ⟨⟨hp, hrev, -⟩, -, hcon⟩ := leer_acepta h registra_tres
  have hleer : accion leer k₂ = .pedir 3 3 := accion_pedir.mpr ⟨hp, hrev, rfl, hid⟩
  have h1 : EnRegla KERNEL_FIN ((k, none), .vacia) (.turno 3) (turno 3 (k, none), .vacia) :=
    ⟨⟨h.paso_tres, rfl⟩, trivial⟩
  have h2 : EnRegla KERNEL_FIN (turno 3 (k, none), .vacia) (.llamada 3 reg)
      (llama 3 reg (turno 3 (k, none)), Memoria.vacia.anotar 3 (accion reg k₁)) := by
    refine ⟨⟨paso_llama rfl (contenida_reg rfl), rfl⟩, fun i ha => absurd ha.1 (by decide),
      fun he => ?_⟩
    exact absurd he (by decide)
  have h3 : EnRegla KERNEL_FIN
      (llama 3 reg (turno 3 (k, none)), Memoria.vacia.anotar 3 (accion reg k₁)) (.turno 4)
      (conductor reg k, Memoria.vacia.anotar 3 (accion reg k₁)) :=
    ⟨⟨h.paso_cuatro registra_tres rfl rfl, rfl⟩, trivial⟩
  have h4 : EnRegla KERNEL_FIN (conductor reg k, Memoria.vacia.anotar 3 (accion reg k₁))
      (.llamada 4 leer)
      (llama 4 leer (conductor reg k),
        (Memoria.vacia.anotar 3 (accion reg k₁)).anotar 4 (accion leer k₂)) := by
    refine ⟨⟨paso_llama rfl hcon, rfl⟩, fun i ha => ?_, fun he => absurd he (by decide)⟩
    obtain rfl : 3 = i := ha.2.2
    simp [hid, hreg, Memoria.anotar]
  refine ⟨_, _, ((((Reach.init ⟨h.inicial, rfl⟩).step h1).step h2).step h3).step h4, ?_⟩
  simp [hleer, Memoria.anotar]

theorem sin_abrazo_mortal_uno : ∃ (s : Turns.Maquina) (g : Historia), g.pend 3 = some 4 ∧
    ∃ u, Decide s.1.rTareas s.1.tIndice u := by
  obtain ⟨⟨k, o⟩, g, hr, hpend⟩ := uno_pendiente
  exact ⟨(k, o), g, hpend, (sin_abrazo_mortal hr hpend).2.2⟩

end Silicio.Cycles
