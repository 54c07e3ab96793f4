import Silicio.Reply
import Silicio.Sched
import Silicio.Ports

/-!
The machine after the boot: the scheduler gives the processor to a task, and the task calls.

A status is set through the number of the caller, through `id_drv` and through `id_ret`; what
these may hold decides which tasks can ever run. The kernel's own tasks 1 and 2 are put to
sleep by `execs` and nobody wakes them, because no slot names them; task 0 may be woken, by an
answer on a slot nobody has asked yet, but the search for the next task never looks there.
-/

namespace Silicio.Turns

open Silicio.Bitmap Silicio.Bytes Silicio.Defs Silicio.Mm Silicio.Mmu Silicio.Paging
open Silicio.Tasks Silicio.Registry Silicio.Runs Silicio.Sched Silicio.Syscall Silicio.Boot
open Silicio.Layout Silicio.Driver Silicio.Effects Silicio.Ports Silicio.Contained

variable {k k' : Kernel} {r : Regs} {t : ℕ}

/-! ### Runs -/

/-- `main` up to the modules: memory as found, its map as `ini_mm` leaves it, paging, and the
kernel's own tasks with entry point, stack and name. -/
def nucleo (l : Link) (mem : Mem) (mm : Mm) (propias : ℕ → ℕ × ℕ × (ℕ → Byte)) : Kernel :=
  let propia (i : ℕ) (k : Kernel) : Kernel :=
    (execs l (propias i).1 (propias i).2.1 (propias i).2.2 k).2
  propia 2 (propia 1 (propia 0
    (iniPag (iniTss (iniLdt l { Kernel.cargado mem with mm := mm })))))

inductive Carga (l : Link) (k : Kernel) : Kernel → Prop
  | exec (start fin : ℕ) (name : ℕ → Byte) : Carga l k (exec l start fin name k).2
  | execd (start fin : ℕ) (name : ℕ → Byte) : Carga l k (execd l start fin name k).2

def Cargado (l : Link) : Kernel → Prop :=
  Reach (fun k => ∃ mem mm propias, k = nucleo l mem mm propias) fun k (_ : Unit) k' => Carga l k k'

/-- The state, and the task that has the processor, if one has. -/
abbrev Maquina := Kernel × Option ℕ

def Inicial (l : Link) (s : Maquina) : Prop := ∃ k, Cargado l k ∧ s = (soltarVideo k, none)

inductive Evento
  | turno (u : ℕ)
  | llamada (t : ℕ) (r : Regs)
  | puerto
  | escritura

/-- One step: the scheduler, called or brought in by the clock, chooses a task; the task that has
the processor calls, which ends its turn; it asks for a port or gives one back; it stores a
byte. Whatever a step stores, here it is not stored in `t_indice` or another table: they stand apart
from the maps and from memory, as they would without stray writes. `Contenido` has the steps that
make none. -/
inductive Paso : Maquina → Evento → Maquina → Prop
  | turno {k : Kernel} {o : Option ℕ} {u : ℕ} (hu : Decide k.rTareas k.tIndice u) :
      Paso (k, o) (.turno u) ({ k with tIndice := u }, some u)
  | llamada {k : Kernel} {t : ℕ} {r : Regs} (basura : ℕ → ℕ) :
      Paso (k, some t) (.llamada t r) (llamar basura t r k, none)
  | setPort {k : Kernel} {t p : ℕ} : Paso (k, some t) .puerto ((setPort p k).2, some t)
  | unsetPort {k : Kernel} {t p : ℕ} : Paso (k, some t) .puerto ((unsetPort p k).2, some t)
  | escritura {k : Kernel} {t v : ℕ} {b : Byte} :
      Paso (k, some t) .escritura (escribir t v b k, some t)

/-- A step that makes no stray write in the tables of the kernel, and so is one of the code's: the
page or the port it names is in its map, and it moves no byte in the image or in the tables of
pages. -/
inductive Contenido (kernelFin : ℕ) : Maquina → Evento → Maquina → Prop
  | turno {k : Kernel} {o : Option ℕ} {u : ℕ} (hu : Decide k.rTareas k.tIndice u) :
      Contenido kernelFin (k, o) (.turno u) ({ k with tIndice := u }, some u)
  | llamada {k : Kernel} {t : ℕ} {r : Regs} (basura : ℕ → ℕ)
      (hc : Contenida kernelFin r (entrar t r k)) :
      Contenido kernelFin (k, some t) (.llamada t r) (llamar basura t r k, none)
  | setPort {k : Kernel} {t p : ℕ} (hp : p < 8 * TSS_PORT) :
      Contenido kernelFin (k, some t) .puerto ((setPort p k).2, some t)
  | unsetPort {k : Kernel} {t p : ℕ} (hp : p < 8 * TSS_PORT) :
      Contenido kernelFin (k, some t) .puerto ((unsetPort p k).2, some t)
  | escritura {k : Kernel} {t v : ℕ} {b : Byte} (hg : Guarda kernelFin t v k) :
      Contenido kernelFin (k, some t) .escritura (escribir t v b k, some t)

lemma Contenido.paso {kernelFin : ℕ} {s s' : Maquina} {e : Evento}
    (h : Contenido kernelFin s e s') : Paso s e s' := by
  cases h with
  | turno hu => exact .turno hu
  | llamada basura => exact .llamada basura
  | setPort => exact .setPort
  | unsetPort => exact .unsetPort
  | escritura => exact .escritura

lemma contenido_reach {kernelFin : ℕ} {l : Link} {s : Maquina}
    (h : Reach (Inicial l) (Contenido kernelFin) s) : Reach (Inicial l) Paso s :=
  h.mono fun _ _ _ => Contenido.paso

/-- **A run of such steps leaves the image as it is.** -/
theorem contenido_imagen {kernelFin : ℕ} {s s' : Maquina} {es : List Evento}
    (h : Steps (Contenido kernelFin) s es s') {x : ℕ} (hx : x < 2 ^ 32) (h1 : KERNEL_INI ≤ x)
    (h2 : x < kernelFin) : rd8 s'.1.mem x = rd8 s.1.mem x := by
  refine h.rel (R := fun s s' : Maquina => rd8 s'.1.mem x = rd8 s.1.mem x) (fun _ => rfl)
    (fun _ _ _ h h' => h'.trans h) fun s e s' hs => ?_
  cases hs with
  | turno => rfl
  | llamada basura hc => exact Reply.imagen_llamar basura hc hx h1 h2
  | setPort =>
    rw [setPort_eq]
    split <;> rfl
  | unsetPort =>
    rw [unsetPort_eq]
    rfl
  | escritura hg => exact Reply.imagen_escribir _ hg hx h1 h2

/-- A loaded task that is not one of the kernel's own. -/
def Usuario (k : Kernel) (t : ℕ) : Prop := 3 ≤ t ∧ Tarea k t

/-- What the slots of drivers may hold. -/
structure Ranuras (k : Kernel) : Prop where
  dueno : ∀ i < MAX_DRIVERS, (k.rDrv i).idDrv = 0 ∨ Usuario k (k.rDrv i).idDrv
  cliente : ∀ i < MAX_DRIVERS, (k.rDrv i).idRet = 0 ∨ Usuario k (k.rDrv i).idRet
  fijas : ∀ i < 3, (k.rDrv i).idDrv = 0
  una : ∀ i < MAX_DRIVERS, ∀ j < MAX_DRIVERS, (k.rDrv i).idDrv ≠ 0 →
    (k.rDrv i).idDrv = (k.rDrv j).idDrv → i = j
  size : ∀ i < MAX_DRIVERS, (k.rDrv i).size ≤ 4096

/-- The invariant: after `n` loads tasks 1 and 2 sleep, the slots are in order, and who has the
processor is a task that could be chosen. -/
structure Inv (n : ℕ) (s : Maquina) : Prop where
  registro : Registro n s.1
  duermen : ∀ t, 1 ≤ t → t < 3 → estados s.1 t = .sleeping
  ranuras : Ranuras s.1
  indice : s.1.tIndice < MAX_TASK
  turno : ∀ t, s.2 = some t → Usuario s.1 t ∧ Ejecutable s.1.rTareas t

/-! ### The boot -/

lemma execs_estados (l : Link) (start pila : ℕ) (name : ℕ → Byte) {n : ℕ} (h : Registro n k)
    (hn : n < PARES) : estados (execs l start pila name k).2 =
      Function.update (estados k) n .sleeping := by
  have hlugar : tareaLibre k.rTareas = n := by
    rw [h.tareaLibre]
    omega
  funext u
  unfold execs estados
  simp only [hlugar, Function.update_apply]
  split <;> rfl

lemma carga_estados {l : Link} (h : Carga l k k') {n : ℕ} (hr : Registro n k) {t : ℕ}
    (ht : t < n) (htp : t < PARES) : estados k' t = estados k t := by
  have hne : t ≠ tareaLibre k.rTareas := by
    rw [hr.tareaLibre]
    omega
  have hc : ∀ cs ds start fin name, estados (cargar cs ds l start fin name k).2 t =
      estados k t := by
    intro cs ds start fin name
    by_cases ha : Admite start fin k
    · rw [estados, cargar_rTareas _ _ _ _ ha, Function.update_of_ne hne]
      rfl
    · rw [cargar_rechazo _ _ _ _ ha]
  cases h with
  | exec start fin name => exact hc _ _ _ _ _
  | execd start fin name => exact hc _ _ _ _ _

/-- A slot of `r_drv` as the loader leaves it. -/
def ranuraVacia : Drv := ⟨fun _ => 0, 0, 0, 0, 0, 0, 0, 0⟩

lemma iniTss_rDrv (k : Kernel) {i : ℕ} (hi : i < MAX_DRIVERS) :
    (iniTss k).rDrv i = { k.rDrv i with idDrv := 0 } := by
  let f (d : Drv) : Drv := { d with idDrv := 0 }
  have h1 : ∀ k, f ((Loop.loop iniTarea MAX_TASK k).rDrv i) = f (k.rDrv i) := by
    refine Loop.loop_frame (fun k : Kernel => f (k.rDrv i)) (fun j k => ?_) MAX_TASK
    rfl
  have h2 : ∀ k, f ((Loop.loop iniDrv MAX_DRIVERS k).rDrv i) = f (k.rDrv i) := by
    refine Loop.loop_frame (fun k : Kernel => f (k.rDrv i)) (fun j k => ?_) MAX_DRIVERS
    simp only [iniDrv, updDrv_rDrv]
    split
    · next hij => rw [hij]
    · rfl
  have h0 : ((iniTss k).rDrv i).idDrv = 0 := (iniTss_limpio k).idDrv i hi
  calc (iniTss k).rDrv i = f ((iniTss k).rDrv i) := by
        simp only [f]
        rw [← h0]
    _ = f (k.rDrv i) := (h2 _).trans (h1 k)

lemma nucleo_spec (l : Link) (mem : Mem) (mm : Mm) (propias : ℕ → ℕ × ℕ × (ℕ → Byte)) :
    Registro 3 (nucleo l mem mm propias) ∧
    (∀ t, 1 ≤ t → t < 3 → estados (nucleo l mem mm propias) t = .sleeping) ∧
    ∀ i < MAX_DRIVERS, (nucleo l mem mm propias).rDrv i = ranuraVacia := by
  set k₀ : Kernel := iniLdt l { Kernel.cargado mem with mm := mm } with hk₀
  have h0 : Registro 0 (iniPag (iniTss k₀)) :=
    iniPag_registro (iniTss_registro (iniLdt_gdt l rfl))
  have h1 := execs_registro l (propias 0).1 (propias 0).2.1 (propias 0).2.2 h0
  have h2 := execs_registro l (propias 1).1 (propias 1).2.1 (propias 1).2.2 h1
  have h3 := execs_registro l (propias 2).1 (propias 2).2.1 (propias 2).2.2 h2
  refine ⟨h3, fun t ht1 ht3 => ?_, fun i hi => iniTss_rDrv k₀ hi⟩
  rw [nucleo, execs_estados _ _ _ _ h2 (by decide), execs_estados _ _ _ _ h1 (by decide)]
  obtain rfl | rfl : t = 1 ∨ t = 2 := by omega
  · rw [Function.update_of_ne (by decide), Function.update_self]
  · rw [Function.update_self]

lemma carga_registro {l : Link} (h : Carga l k k') {n : ℕ} (hr : Registro n k) :
    ∃ m, n ≤ m ∧ Registro m k' := by
  cases h with
  | exec start fin name =>
    obtain ⟨m, h1, -, h2⟩ := cargar_registro' USER_DS l start fin name
      (Nat.succ_ne_zero _) hr
    exact ⟨m, h1, h2⟩
  | execd start fin name =>
    obtain ⟨m, h1, -, h2⟩ := cargar_registro' KERNEL_DS l start fin name
      (Nat.succ_ne_zero _) hr
    exact ⟨m, h1, h2⟩

lemma carga_rDrv {l : Link} (h : Carga l k k') : k'.rDrv = k.rDrv := by
  cases h with
  | exec start fin name => exact cargar_rDrv _ _ _ _
  | execd start fin name => exact cargar_rDrv _ _ _ _

lemma cargado_spec {l : Link} (h : Cargado l k) : ∃ n, 3 ≤ n ∧ Registro n k ∧
    (∀ t, 1 ≤ t → t < 3 → estados k t = .sleeping) ∧
    ∀ i < MAX_DRIVERS, k.rDrv i = ranuraVacia := by
  refine h.invariant (P := fun k => ∃ n, 3 ≤ n ∧ Registro n k ∧
    (∀ t, 1 ≤ t → t < 3 → estados k t = .sleeping) ∧
    ∀ i < MAX_DRIVERS, k.rDrv i = ranuraVacia) ?_ ?_
  · rintro k ⟨mem, mm, propias, rfl⟩
    exact ⟨3, le_rfl, nucleo_spec l mem mm propias⟩
  · rintro k - k' ⟨n, hn, hr, hst, hd⟩ hc
    obtain ⟨m, hm, hr'⟩ := carga_registro hc hr
    refine ⟨m, hn.trans hm, hr', fun t h1 h3 => ?_, ?_⟩
    · rw [carga_estados hc hr (by omega) (by simp only [PARES, MAX_GDT]; omega)]
      exact hst t h1 h3
    · rw [carga_rDrv hc]
      exact hd

lemma inicial_inv {l : Link} {s : Maquina} (h : Inicial l s) : ∃ n, Inv n s := by
  obtain ⟨k, hk, rfl⟩ := h
  obtain ⟨n, -, hr, hst, hd⟩ := cargado_spec hk
  have hv : ∀ i < MAX_DRIVERS, (soltarVideo k).rDrv i = ranuraVacia := hd
  refine ⟨n, ⟨hr.tss, hr.gdt, hr.lugar, hr.libre⟩, hst,
    ⟨fun i hi => ?_, fun i hi => ?_, fun i hi => ?_, fun i hi j _ h0 => absurd ?_ h0,
      fun i hi => ?_⟩, Nat.succ_pos _, fun t ht => by cases ht⟩
  · exact Or.inl (congrArg Drv.idDrv (hv i hi))
  · exact Or.inl (congrArg Drv.idRet (hv i hi))
  · exact congrArg Drv.idDrv (hv i (by simp only [MAX_DRIVERS]; omega))
  · exact congrArg Drv.idDrv (hv i hi)
  · exact (congrArg Drv.size (hv i hi)).le.trans (Nat.zero_le _)

/-! ### Steps -/

/-- Where the search for the next task ends: at a task that is ready, in slot 1 or in a slot that
is taken. -/
lemma decide_spec {rt : ℕ → Run} {t u : ℕ} (ht : t < MAX_TASK) (h : Decide rt t u) :
    Ejecutable rt u ∧ 1 ≤ u ∧ u < MAX_TASK ∧ (u = 1 ∨ (rt u).task ≠ 0) := by
  obtain ⟨m, hm⟩ := h
  induction m generalizing t with
  | zero => cases hm
  | succ m ih =>
    have hsig : 1 ≤ siguiente rt t ∧ siguiente rt t < MAX_TASK ∧
        (siguiente rt t = 1 ∨ (rt (siguiente rt t)).task ≠ 0) := by
      unfold siguiente
      simp only
      split_ifs with h1 h2
      · exact ⟨le_rfl, by decide, Or.inl rfl⟩
      · exact ⟨le_rfl, by decide, Or.inl rfl⟩
      · exact ⟨by omega, by omega, Or.inr h2⟩
    unfold buscarTarea at hm
    simp only at hm
    split at hm
    · next he =>
      obtain rfl := Option.some.inj hm
      exact ⟨he, hsig⟩
    · exact ih hsig.2.1 hm

variable {n : ℕ} {s s' : Maquina} {e : Evento}

lemma Inv.elegida (h : Inv n s) {u : ℕ} (hu : Decide s.1.rTareas s.1.tIndice u) :
    Usuario s.1 u ∧ Ejecutable s.1.rTareas u := by
  obtain ⟨he, h1, hmax, htask⟩ := decide_spec h.indice hu
  have h3 : 3 ≤ u := by
    by_contra hlt
    have hs := h.duermen u h1 (by omega)
    rw [estados] at hs
    rcases he with he | he <;> · rw [hs] at he; cases he
  refine ⟨⟨h3, hmax, htask.resolve_left (by omega)⟩, he⟩

lemma Usuario.congr {u : ℕ} (h : Usuario k u) (hm : Marco k k') : Usuario k' u :=
  ⟨h.1, (hm.tarea u).mpr h.2⟩

lemma marco_usuario (hm : Marco k k') {u : ℕ} (h : Usuario k u) : Usuario k' u :=
  ⟨h.1, (hm.tarea u).mpr h.2⟩

lemma Ranuras.congr (h : Ranuras k) (hd : k'.rDrv = k.rDrv)
    (hu : ∀ u, Usuario k u → Usuario k' u) : Ranuras k' := by
  refine ⟨fun i hi => ?_, fun i hi => ?_, ?_, ?_, ?_⟩
  · rw [hd]
    exact (h.dueno i hi).imp_right (hu _)
  · rw [hd]
    exact (h.cliente i hi).imp_right (hu _)
  · rw [hd]
    exact h.fijas
  · rw [hd]
    exact h.una
  · rw [hd]
    exact h.size

lemma Ranuras.llenar (h : Ranuras k) {i : ℕ} {d : Drv} (hd : k'.rDrv = Function.update k.rDrv i d)
    (hu : ∀ u, Usuario k u → Usuario k' u) (hdueno : d.idDrv = 0 ∨ Usuario k d.idDrv)
    (hcliente : d.idRet = 0 ∨ Usuario k d.idRet) (hfija : i < 3 → d.idDrv = 0)
    (huna : ∀ j < MAX_DRIVERS, j ≠ i → d.idDrv ≠ 0 → (k.rDrv j).idDrv ≠ d.idDrv)
    (hsize : d.size ≤ 4096) : Ranuras k' := by
  have hself : k'.rDrv i = d := by rw [hd, Function.update_self]
  have hne : ∀ j, j ≠ i → k'.rDrv j = k.rDrv j := fun j hj => by
    rw [hd, Function.update_of_ne hj]
  refine ⟨fun j hj => ?_, fun j hj => ?_, fun j hj => ?_, fun j hj l hl h0 he => ?_,
    fun j hj => ?_⟩
  · rcases eq_or_ne j i with rfl | hji
    · rw [hself]
      exact hdueno.imp_right (hu _)
    · rw [hne j hji]
      exact (h.dueno j hj).imp_right (hu _)
  · rcases eq_or_ne j i with rfl | hji
    · rw [hself]
      exact hcliente.imp_right (hu _)
    · rw [hne j hji]
      exact (h.cliente j hj).imp_right (hu _)
  · rcases eq_or_ne j i with rfl | hji
    · rw [hself]
      exact hfija hj
    · rw [hne j hji]
      exact h.fijas j hj
  · rcases eq_or_ne j i with hji | hji <;> rcases eq_or_ne l i with hli | hli
    · rw [hji, hli]
    · rw [hji, hself] at h0 he
      rw [hne l hli] at he
      exact absurd he.symm (huna l hl hli h0)
    · rw [hne j hji] at h0 he
      rw [hli, hself] at he
      exact absurd he (huna j hj hji (he ▸ h0))
    · rw [hne j hji] at h0 he
      rw [hne l hli] at he
      exact h.una j hj l hl h0 he
  · rcases eq_or_ne j i with rfl | hji
    · rw [hself]
      exact hsize
    · rw [hne j hji]
      exact h.size j hj

lemma Ranuras.slotDe (h : Ranuras k) {i : ℕ} (hi : i < MAX_DRIVERS) (h0 : (k.rDrv i).idDrv ≠ 0) :
    Syscall.slotDe (k.rDrv i).idDrv k.rDrv = i := by
  refine Loop.scan_eq (Nat.zero_le i) (by omega) (fun j _ hj => ?_) fun _ => ?_
  · rw [beq_eq_false_iff_ne]
    intro he
    exact absurd (h.una j (by omega) i hi (by rwa [he]) he) (by omega)
  · exact beq_self_eq_true _

lemma Ranuras.efecto (h : Ranuras k) (ht : Usuario k t) (he : Efecto t r k k')
    (hu : ∀ u, Usuario k u → Usuario k' u) : Ranuras k' := by
  cases he with
  | nada hd => exact h.congr hd hu
  | espera hd => exact h.congr hd hu
  | contesta _ hd => exact h.congr hd hu
  | @pide i b ha hd _ =>
    obtain ⟨hi, h0, -⟩ := acepta_dueno ha
    exact h.llenar hd hu (h.dueno i hi) (Or.inr ht) (h.fijas i)
      (fun j hj hji h0 he => hji (h.una i hi j hj h0 he.symm).symm) (h.size i hi)
  | @registra i d hi hd hid hret hsize _ =>
    obtain ⟨h3, h10, -, hno⟩ := revisarReg_inr hi
    refine h.llenar hd hu (Or.inr (by rwa [hid])) (Or.inl hret) (fun hlt => by omega)
      (fun j hj _ _ => ?_) hsize
    rw [hid]
    rcases Nat.lt_or_ge j 3 with hlt | hge
    · rw [h.fijas j hlt]
      have := ht.1
      omega
    · exact hno j hge hj

lemma Ranuras.duermen (h : Ranuras k) (ht : Usuario k t) (he : Efecto t r k k') {u : ℕ}
    (h1 : 1 ≤ u) (h3 : u < 3) : estados k' u = estados k u := by
  have htu : u ≠ t := by
    have := ht.1
    omega
  cases he with
  | nada _ hs => rw [hs]
  | espera _ hs => rw [hs, Function.update_of_ne htu]
  | registra _ _ _ _ _ hs => rw [hs, Function.update_of_ne htu]
  | @pide i b ha _ hs =>
    obtain ⟨hi, h0, -⟩ := acepta_dueno ha
    have := ((h.dueno i hi).resolve_left h0).1
    rw [hs, Function.update_of_ne (by omega), Function.update_of_ne htu]
  | @contesta i hr _ hs =>
    have hi := (responde_dueno hr).1
    have hret : u ≠ (k.rDrv i).idRet := by
      rcases h.cliente i hi with h0 | hc
      · omega
      · have := hc.1
        omega
    rw [hs, Function.update_of_ne htu, Function.update_of_ne hret]

lemma despachar_tIndice (basura : ℕ → ℕ) (r : Regs) (k : Kernel) :
    (despachar basura r k).tIndice = k.tIndice := by
  by_cases hp : Pide r.eax
  · rw [despachar_pide basura hp]
    exact pedido_deja (f := Kernel.tIndice) hp fun _ _ _ _ => rfl
  · simp only [Pide, not_or] at hp
    unfold despachar
    rw [if_neg hp.1, if_neg hp.2.1, if_neg hp.2.2]
    split_ifs
    · rw [guardar, updTss_tIndice, sysOpen_snd]
    · rw [guardar, updTss_tIndice, sysReg_tIndice]
    · unfold sysRet
      split <;> rfl
    · rfl
    · rw [guardar, updTss_tIndice, (sysMem_resto _).2.2.2]
    · rfl

lemma Inv.congr {o : Option ℕ} (h : Inv n (k, o)) (hr : Registro n k')
    (ht : k'.rTareas = k.rTareas) (hd : k'.rDrv = k.rDrv) (hi : k'.tIndice = k.tIndice) :
    Inv n (k', o) := by
  have hu : ∀ u, Usuario k u → Usuario k' u := fun u hu => by
    unfold Usuario Tarea
    rw [ht]
    exact hu
  refine ⟨hr, fun u h1 h3 => ?_, h.ranuras.congr hd hu, ?_, fun u he => ?_⟩
  · rw [estados, ht]
    exact h.duermen u h1 h3
  · rw [hi]
    exact h.indice
  · rw [ht]
    exact ⟨hu u (h.turno u he).1, (h.turno u he).2⟩

/-- **The step lemma.** -/
lemma Inv.paso (h : Inv n s) (hs : Paso s e s') : Inv n s' := by
  cases hs with
  | @turno k o u hu =>
    obtain ⟨hus, he⟩ := h.elegida hu
    refine ⟨⟨h.registro.tss, h.registro.gdt, h.registro.lugar, h.registro.libre⟩, h.duermen,
      h.ranuras.congr rfl fun _ hu => hu, hus.2.1, fun t ht => ?_⟩
    obtain rfl := Option.some.inj ht
    exact ⟨hus, he⟩
  | @llamada k t r basura =>
    have hm := llamar_marco basura t r k
    have ht := (h.turno t rfl).1
    have he := llamar_efecto basura t r k
    refine ⟨hm.registro h.registro, fun u h1 h3 => ?_,
      h.ranuras.efecto ht he fun u hu => marco_usuario hm hu, ?_, fun u hu => by cases hu⟩
    · exact (h.ranuras.duermen ht he h1 h3).trans (h.duermen u h1 h3)
    · rw [llamar_eq, despachar_tIndice, entrar_tIndice]
      exact ht.2.1
  | @setPort k t p =>
    rw [setPort_eq]
    split
    · exact h
    · refine h.congr (h.registro.congr (fun q => ?_) rfl (fun _ => rfl) fun _ => rfl) rfl rfl rfl
      rw [updTss_tss]
      split
      · next hq => rw [hq]
      · rfl
  | @unsetPort k t p =>
    rw [unsetPort_eq]
    refine h.congr (h.registro.congr (fun q => ?_) rfl (fun _ => rfl) fun _ => rfl) rfl rfl rfl
    rw [updTss_tss]
    split
    · next hq => rw [hq]
    · rfl
  | @escritura k t v b =>
    unfold escribir
    split
    · exact h.congr (h.registro.congr (fun _ => rfl) rfl (fun _ => rfl) fun _ => rfl) rfl rfl rfl
    · exact h

lemma run_inv {l : Link} (h : Reach (Inicial l) Paso s) : ∃ n, Inv n s := by
  refine h.invariant (P := fun s => ∃ n, Inv n s) (fun s hs => inicial_inv hs) ?_
  rintro s e s' ⟨n, hn⟩ hs
  exact ⟨n, hn.paso hs⟩

/-! ### Owners -/

/-- A slot that has a driver keeps it, with its name, its buffer and its `sys_param`. -/
lemma Paso.ranura (hs : Paso s e s') {i : ℕ} (h0 : (s.1.rDrv i).idDrv ≠ 0) :
    Anotada (s.1.rDrv i) (s'.1.rDrv i) := by
  cases hs with
  | turno => exact anotada_de rfl
  | @llamada k t r basura =>
    rcases (llamar_efecto basura t r k).ranura i with hd | ⟨-, ha⟩ | ⟨hz, -⟩
    · exact anotada_de hd
    · exact ha
    · exact absurd hz h0
  | setPort =>
    rw [setPort_eq]
    split <;> exact anotada_de rfl
  | unsetPort =>
    rw [unsetPort_eq]
    exact anotada_de rfl
  | escritura =>
    unfold escribir
    split <;> exact anotada_de rfl

lemma steps_ranura {l : List Evento} (hs : Steps Paso s l s') {i : ℕ}
    (h0 : (s.1.rDrv i).idDrv ≠ 0) : Anotada (s.1.rDrv i) (s'.1.rDrv i) := by
  refine hs.rel (R := fun s s' => (s.1.rDrv i).idDrv ≠ 0 → Anotada (s.1.rDrv i) (s'.1.rDrv i))
    (fun _ _ => anotada_de rfl) (fun s s₁ s' h1 h2 h0 => ?_) (fun _ _ _ hp => hp.ranura) h0
  have h := h1 h0
  exact h.trans (h2 (by rwa [h.idDrv]))

/-- **Tasks 0, 1 and 2 are never chosen, and the slots of drivers stay in order**: in every state
of every run, whatever the tasks call and store, stray writes in `t_indice` and the other tables
apart, the task chosen next is one that was loaded;
owners and clients of slots are 0 or loaded tasks; the first three slots are nobody's; no task
owns two; no buffer is larger than 4096 bytes; and a slot that has a driver keeps it for the
rest of the run. -/
theorem task_control_usuarios {l : Link} (h : Reach (Inicial l) Paso s) :
    (∀ u s', Paso s (.turno u) s' → u ≠ 0 ∧ u ≠ 1 ∧ u ≠ 2 ∧ Tarea s.1 u) ∧
    (∀ i < MAX_DRIVERS, (s.1.rDrv i).idDrv = 0 ∨ Usuario s.1 (s.1.rDrv i).idDrv) ∧
    (∀ i < MAX_DRIVERS, (s.1.rDrv i).idRet = 0 ∨ Usuario s.1 (s.1.rDrv i).idRet) ∧
    (∀ i < 3, (s.1.rDrv i).idDrv = 0) ∧
    (∀ i < MAX_DRIVERS, ∀ j < MAX_DRIVERS, (s.1.rDrv i).idDrv ≠ 0 →
      (s.1.rDrv i).idDrv = (s.1.rDrv j).idDrv → i = j) ∧
    (∀ i < MAX_DRIVERS, (s.1.rDrv i).size ≤ 4096) ∧
    ∀ es s', Steps Paso s es s' → ∀ i < MAX_DRIVERS, (s.1.rDrv i).idDrv ≠ 0 →
      (s'.1.rDrv i).idDrv = (s.1.rDrv i).idDrv := by
  obtain ⟨n, hn⟩ := run_inv h
  refine ⟨fun u s' hs => ?_, hn.ranuras.dueno, hn.ranuras.cliente, hn.ranuras.fijas,
    hn.ranuras.una, hn.ranuras.size, fun es s' hs i _ h0 => (steps_ranura hs h0).idDrv⟩
  cases hs with
  | turno hu =>
    obtain ⟨⟨h3, ht⟩, -⟩ := hn.elegida hu
    exact ⟨by omega, by omega, by omega, ht⟩

/-! ### Three modules -/

lemma decide_siguiente {rt : ℕ → Run} {u : ℕ} (h : siguiente rt t = u) (he : Ejecutable rt u) :
    Decide rt t u := by
  refine ⟨1, ?_⟩
  unfold buscarTarea
  simp only
  rw [h, if_pos he]

lemma decide_pasa {rt : ℕ → Run} {v u : ℕ} (h : siguiente rt t = v) (he : ¬ Ejecutable rt v)
    (hd : Decide rt v u) : Decide rt t u := by
  obtain ⟨m, hm⟩ := hd
  refine ⟨m + 1, ?_⟩
  unfold buscarTarea
  simp only
  rw [h, if_neg he]
  exact hm

lemma siguiente_tarea {rt : ℕ → Run} (ht : t + 1 < MAX_TASK) (h : (rt (t + 1)).task ≠ 0) :
    siguiente rt t = t + 1 := by
  unfold siguiente
  simp only
  rw [if_neg (by omega), if_neg h]

lemma siguiente_hueco {rt : ℕ → Run} (h : (rt (t + 1)).task = 0) : siguiente rt t = 1 := by
  unfold siguiente
  simp only
  rw [if_pos h, ite_self]

lemma Inv.pasa (h : Inv n s) {u : ℕ} (h3 : Tarea s.1 3) (he : Ejecutable s.1.rTareas 3)
    (ht : t = 0 ∨ (s.1.rTareas (t + 1)).task = 0) (hu : u = 3) : Decide s.1.rTareas t u := by
  have hn : 3 < n := (h.registro.tarea_iff.mp h3).1
  have hno : ∀ v, 1 ≤ v → v < 3 → ¬ Ejecutable s.1.rTareas v := fun v h1 h3 he => by
    have hs := h.duermen v h1 h3
    rw [estados] at hs
    rcases he with he | he <;> · rw [hs] at he; cases he
  have htarea : ∀ v < 3, (s.1.rTareas (v + 1)).task ≠ 0 := fun v hv =>
    (h.registro.tarea_iff.mpr ⟨by omega, by simp only [PARES, MAX_GDT]; omega⟩).2
  have h1 : siguiente s.1.rTareas t = 1 := by
    rcases ht with rfl | ht
    · exact siguiente_tarea (by decide) (htarea 0 (by decide))
    · exact siguiente_hueco ht
  subst hu
  refine decide_pasa h1 (hno 1 le_rfl (by decide)) ?_
  refine decide_pasa (siguiente_tarea (by decide) (htarea 1 (by decide)))
    (hno 2 (by decide) (by decide)) ?_
  exact decide_siguiente (siguiente_tarea (by decide) (htarea 2 (by decide))) he

/-- `Boot` and this module say the same of `main`. -/
lemma arranque_nucleo (b : Boot.Maquina) : b.arranque =
    nucleo b.enlace b.mem (mmInicial b.kernelFin b.memOff b.ram) b.propias := rfl

lemma nucleoTres_cargado (n : ℕ) : Cargado enlace (nucleoTres n) := by
  induction n with
  | zero => exact .init ⟨_, _, _, arranque_nucleo tres⟩
  | succ n ih => exact ih.step (a := ()) (.exec _ _ _)

lemma tres_inicial : Inicial enlace (soltarVideo (nucleoTres 3), none) :=
  ⟨_, nucleoTres_cargado 3, rfl⟩

lemma primera {l : Link} (h : Inicial l (soltarVideo k, none)) (h3 : Tarea k 3)
    (he : (k.rTareas 3).status = .running) : Paso (soltarVideo k, none) (.turno 3)
      ({ soltarVideo k with tIndice := 3 }, some 3) := by
  obtain ⟨n, hn⟩ := inicial_inv h
  exact .turno (hn.pasa h3 (Or.inl he) (Or.inl rfl) rfl)

theorem task_control_usuarios_tres :
    3 ≠ 0 ∧ 3 ≠ 1 ∧ 3 ≠ 2 ∧ Tarea (soltarVideo (nucleoTres 3)) 3 :=
  (task_control_usuarios (.init tres_inicial)).1 3 _
    (primera tres_inicial (tres_tarea (by decide)) ((nucleoTres_spec le_rfl).2.2.2 0 (by decide)))

end Silicio.Turns
