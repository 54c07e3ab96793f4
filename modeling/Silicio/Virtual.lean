import Silicio.Congruence
import Silicio.Phases

/-!
A processor for each task.

Seen from a program, the machine has a processor of its own for it: its registers are what it left
in them, but for `eax`, where the answers of its calls appear. The kernel is then the one of the
turns, and nothing is saved, marked or loaded. Every run of the machine is a run of this one, in
which `sys_control` is not seen. In particular no change of task ever fails.
-/

namespace Silicio.Virtual

open Silicio.Bitmap Silicio.Bytes Silicio.Defs Silicio.Mm Silicio.Mmu Silicio.Paging Silicio.Tasks
open Silicio.Registry Silicio.Gates Silicio.Runs Silicio.Sched Silicio.Syscall
open Silicio.Vectors Silicio.Switching Silicio.Processor Silicio.Contexts Silicio.Startup
open Silicio.Congruence Silicio.Phases
open Silicio.Ports (setPort unsetPort)
open Silicio.Contained (Contenida EnTablas Fuera Guarda)

/-! ### The machine of its own -/

/-- Nobody has the turn; a program runs; or it has trapped, and its call is not served yet. -/
inductive Turno
  | nadie
  | corre (t : ℕ)
  | pide (t : ℕ)

structure Propia where
  k : Kernel
  turno : Turno
  regs : ℕ → Contexto

def tras (basura : ℕ → ℕ) (r : Regs) (k : Kernel) (regs : ℕ → Contexto) (t : ℕ) : Contexto :=
  match retorno basura r k with
  | some (q, v) => if q = some t then (regs t).conEax v else regs t
  | none => regs t

def visible : Evento → Option Evento
  | .control => none
  | a => some a

/-- One step, of those that keep out of the tables of the kernel. The task whose turn it is runs,
asks for a port, stores a byte, or traps and is served, which ends its turn; the clock ends it too;
then the scheduler chooses a task. -/
inductive Paso (kernelFin : ℕ) : Propia → Evento → Propia → Prop
  | usuario {k : Kernel} {t : ℕ} {regs : ℕ → Contexto} (c : Contexto) :
      Paso kernelFin ⟨k, .corre t, regs⟩ .usuario ⟨k, .corre t, Function.update regs t c⟩
  | setPort {k : Kernel} {t p : ℕ} {regs : ℕ → Contexto} (hp : p < 8 * TSS_PORT) :
      Paso kernelFin ⟨k, .corre t, regs⟩ .puerto ⟨(setPort p k).2, .corre t,
        Function.update regs t ((regs t).conEax (registro (setPort p k).1))⟩
  | unsetPort {k : Kernel} {t p : ℕ} {regs : ℕ → Contexto} (hp : p < 8 * TSS_PORT) :
      Paso kernelFin ⟨k, .corre t, regs⟩ .puerto ⟨(unsetPort p k).2, .corre t,
        Function.update regs t ((regs t).conEax (registro (unsetPort p k).1))⟩
  | escritura {k : Kernel} {t v : ℕ} {b : Byte} {regs : ℕ → Contexto}
      (hg : Guarda kernelFin t v k) :
      Paso kernelFin ⟨k, .corre t, regs⟩ .escritura ⟨escribir t v b k, .corre t, regs⟩
  | trampa {k : Kernel} {t : ℕ} {regs : ℕ → Contexto} :
      Paso kernelFin ⟨k, .corre t, regs⟩ .trampa ⟨k, .pide t, regs⟩
  | llamada {k : Kernel} {t : ℕ} {regs : ℕ → Contexto} (basura : ℕ → ℕ)
      (hc : Contenida kernelFin (regs t).param (entrar t (regs t).param k)) :
      Paso kernelFin ⟨k, .pide t, regs⟩ (.llamada t (regs t).param)
        ⟨llamar basura t (regs t).param k, .nadie,
          tras basura (regs t).param (entrar t (regs t).param k) regs⟩
  | reloj {k : Kernel} {t : ℕ} {regs : ℕ → Contexto} :
      Paso kernelFin ⟨k, .corre t, regs⟩ .reloj ⟨k, .nadie, regs⟩
  | turno {k : Kernel} {u : ℕ} {regs : ℕ → Contexto} (hu : Decide k.rTareas k.tIndice u) :
      Paso kernelFin ⟨k, .nadie, regs⟩ (.turno u) ⟨{ k with tIndice := u }, .corre u, regs⟩

def deFase : Fase ℕ → Turno
  | .base _ => .nadie
  | .dentro u => .corre u
  | .anidada u g => if g = 1 then .pide u else .nadie

variable {n : Nucleo} {p : ℕ → Idtp} {N : ℕ} {e : Fase ℕ} {m m' : Maquina} {s' : Option Maquina}
variable {v v' : Propia} {a : Evento} {u t : ℕ}

/-- Where `task_control` goes on, and what it will put back. -/
def Vuelta (n : Nucleo) (e : Fase ℕ) (m : Maquina) : Prop :=
  match e.ultima with
  | none => ((vista m).propios 0).eip = n.bucle
  | some u => ((vista m).propios 0).eip = n.tras 0 ∧ m.guarda = (4 + 2 * u, 0x89)

/-- The machine in a phase stands for the one of its own. -/
structure Representa (n : Nucleo) (N : ℕ) (e : Fase ℕ) (m : Maquina) (v : Propia) : Prop where
  inv : Inv n N e e.turno m
  vuelta : Vuelta n e m
  mismo : Mismo m.k v.k
  turno : v.turno = deFase e
  regs : ∀ t, 3 ≤ t → v.regs t = (vista m).propios t

/-! ### Where the code stands -/

lemma bucle_ne_tras (n : Nucleo) : n.bucle ≠ n.tras 0 := by
  have hd := n.distintos
  simp only [List.nodup_cons, List.mem_cons, not_or] at hd
  exact hd.1.1

lemma reanuda_uno {c : Contexto} (h : Reanuda n 1 c) :
    c.eip ≠ n.bucle ∧ c.eip ≠ n.tras 0 ∧ ¬ Reanuda n 2 c := by
  have hd := n.distintos
  simp only [List.nodup_cons, List.mem_cons, not_or] at hd
  obtain ⟨⟨-, hb1, hb2, -⟩, ⟨ht1, ht2, -⟩, ⟨h1, h2, h3, -⟩, ⟨h4, h5, -⟩, -⟩ := hd
  unfold Reanuda at h ⊢
  rcases h with h | h <;> rw [h]
  · exact ⟨Ne.symm hb1, Ne.symm ht1, not_or.mpr ⟨h2, h3⟩⟩
  · exact ⟨Ne.symm hb2, Ne.symm ht2, not_or.mpr ⟨h4, h5⟩⟩

lemma reanuda_dos {c : Contexto} (h : Reanuda n 2 c) : c.eip ≠ n.bucle ∧ c.eip ≠ n.tras 0 := by
  have hd := n.distintos
  simp only [List.nodup_cons, List.mem_cons, not_or] at hd
  obtain ⟨⟨-, -, -, hb1, hb2, -⟩, ⟨-, -, ht1, ht2, -⟩, -⟩ := hd
  rcases h with h | h <;> rw [h]
  · exact ⟨Ne.symm hb1, Ne.symm ht1⟩
  · exact ⟨Ne.symm hb2, Ne.symm ht2⟩

section
variable (h : Representa n N e m v)
include h

lemma Representa.de_usuario (h3 : m.regs.nivel = 3) : ∃ u, e = .dentro u := by
  cases e with
  | base w =>
    have := h.inv.nivel_cero (show (Fase.base w).corre 0 < 3 by simp only [Fase.corre]; omega)
    omega
  | dentro u => exact ⟨u, rfl⟩
  | anidada u g =>
    have hg := h.inv.anidada u g rfl
    have := h.inv.nivel_cero (show (Fase.anidada u g).corre 0 < 3 by simp only [Fase.corre]; omega)
    omega

lemma Representa.de_abierta (hi : m.regs.Abierta) : ∃ u, e = .dentro u := by
  cases e with
  | base w =>
    have hk := (h.inv.registros.kernel 0 (by omega)).2
    rw [show 0 = (Fase.base w).corre 0 from rfl, h.inv.fase.regs] at hk
    exact absurd hi hk
  | dentro u => exact ⟨u, rfl⟩
  | anidada u g =>
    have hg := h.inv.anidada u g rfl
    have hk := (h.inv.registros.kernel g (by omega)).2
    rw [show g = (Fase.anidada u g).corre 0 from rfl, h.inv.fase.regs] at hk
    exact absurd hi hk

/-- The code of the kernel tells where it is. -/
lemma Representa.de_kernel (hcs : m.regs.cs = KERNEL_CS) :
    (e = .base none ∧ m.regs.eip = n.bucle) ∨
    (∃ u, e = .base (some u) ∧ m.regs.eip = n.tras 0 ∧ m.guarda = (4 + 2 * u, 0x89)) ∨
    (∃ u, e = .anidada u 1 ∧ Reanuda n 1 m.regs) ∨ ∃ u, e = .anidada u 2 ∧ Reanuda n 2 m.regs := by
  have hvuelta := h.vuelta
  unfold Vuelta at hvuelta
  cases e with
  | base w =>
    have hregs : (vista m).propios 0 = m.regs := h.inv.fase.regs
    rw [hregs] at hvuelta
    cases w with
    | none => exact Or.inl ⟨rfl, hvuelta⟩
    | some u => exact Or.inr (Or.inl ⟨u, rfl, hvuelta⟩)
  | dentro u =>
    have hu := (h.inv.registros.usuario u (h.inv.ultima u rfl)).1
    have hregs : (vista m).propios u = m.regs := h.inv.fase.regs
    rw [hregs, Contexto.nivel, hcs] at hu
    cases hu
  | anidada u g =>
    have hre := h.inv.registros.reanuda g
    have hregs : (vista m).propios g = m.regs := h.inv.fase.regs
    rw [hregs] at hre
    rcases h.inv.anidada u g rfl with rfl | rfl
    · exact Or.inr (Or.inr (Or.inl ⟨u, rfl, hre (by omega) (by omega)⟩))
    · exact Or.inr (Or.inr (Or.inr ⟨u, rfl, hre (by omega) (by omega)⟩))

lemma Representa.de_llamada (hcs : m.regs.cs = KERNEL_CS) (hre : Reanuda n 1 m.regs) :
    ∃ u, e = .anidada u 1 := by
  obtain ⟨hbucle, htras, hdos⟩ := reanuda_uno hre
  rcases h.de_kernel hcs with ⟨-, he⟩ | ⟨u, -, he, -⟩ | ⟨u, he, -⟩ | ⟨u, -, he⟩
  · exact absurd he hbucle
  · exact absurd he htras
  · exact ⟨u, he⟩
  · exact absurd he hdos

lemma Representa.de_control (hcs : m.regs.cs = KERNEL_CS) (hre : Reanuda n 2 m.regs) :
    ∃ u, e = .anidada u 2 := by
  obtain ⟨hbucle, htras⟩ := reanuda_dos hre
  rcases h.de_kernel hcs with ⟨-, he⟩ | ⟨u, -, he, -⟩ | ⟨u, -, he⟩ | ⟨u, he, -⟩
  · exact absurd he hbucle
  · exact absurd he htras
  · exact absurd hre (reanuda_uno he).2.2
  · exact ⟨u, he⟩

lemma Representa.de_bucle (hcs : m.regs.cs = KERNEL_CS) (he : m.regs.eip = n.bucle) :
    e = .base none := by
  rcases h.de_kernel hcs with ⟨hb, -⟩ | ⟨u, -, hc, -⟩ | ⟨u, -, hc⟩ | ⟨u, -, hc⟩
  · exact hb
  · exact absurd (he.symm.trans hc) (bucle_ne_tras n)
  · exact absurd he (reanuda_uno hc).1
  · exact absurd he (reanuda_dos hc).1

lemma Representa.de_tras (hcs : m.regs.cs = KERNEL_CS) (he : m.regs.eip = n.tras 0) :
    ∃ u, e = .base (some u) ∧ m.guarda = (4 + 2 * u, 0x89) := by
  rcases h.de_kernel hcs with ⟨-, hc⟩ | ⟨u, hb, -, hg⟩ | ⟨u, -, hc⟩ | ⟨u, -, hc⟩
  · exact absurd (hc.symm.trans he) (bucle_ne_tras n)
  · exact ⟨u, hb, hg⟩
  · exact absurd he (reanuda_uno hc).2.1
  · exact absurd he (reanuda_dos hc).2

end

/-! ### The steps -/

lemma vuelta_congr {e' : Fase ℕ} (h : Vuelta n e m) (he : e'.ultima = e.ultima)
    (hr : ((vista m').propios 0).eip = ((vista m).propios 0).eip) (hg : m'.guarda = m.guarda) :
    Vuelta n e' m' := by
  unfold Vuelta at h ⊢
  rwa [he, hr, hg]

lemma Representa.usuario {c : Contexto} (h : Representa n N (.dentro u) m v)
    (hc : Propio n m.k m.regs c) :
    Representa n N (.dentro u) { m with regs := c }
      ⟨v.k, .corre u, Function.update v.regs u c⟩ := by
  have hu := h.inv.ultima u rfl
  have h3 : 3 ≤ u := hu.1
  have hregs : (vista m).propios u = m.regs := h.inv.fase.regs
  have hpro : (vista { m with regs := c }).propios = Function.update (vista m).propios u c :=
    h.inv.propios_propio m.k c m.guarda fun _ => rfl
  refine ⟨⟨h.inv.turnos, h.inv.propias, h.inv.tablas, ?_, ⟨h.inv.fase.actual, h.inv.fase.marcas⟩,
    h.inv.tr, h.inv.cr3, h.inv.ultima, h.inv.indice, h.inv.anidada⟩, ?_, h.mismo, rfl,
    fun t ht => ?_⟩
  · rw [hpro]
    exact h.inv.registros.propio hu (hregs ▸ hc)
  · refine vuelta_congr h.vuelta rfl ?_ rfl
    rw [hpro, Function.update_of_ne (by omega)]
  · rw [hpro]
    simp only [Function.update_apply]
    split
    · rfl
    · exact h.regs t ht

lemma Representa.deja {k' K' : Kernel} {c : Contexto} (h : Representa n N (.dentro u) m v)
    (hk : Deja m.k k') (hreg : ∀ t, contexto (k'.tss (some t)) = contexto (m.k.tss (some t)))
    (hturnos : Turns.Inv N (k', some u)) (hindice : k'.tIndice = m.k.tIndice)
    (hc : Sigue m.regs c) (hmis : Mismo k' K') :
    Representa n N (.dentro u) { m with k := k', regs := c }
      ⟨K', .corre u, Function.update v.regs u c⟩ := by
  have hu := h.inv.ultima u rfl
  have h3 : 3 ≤ u := hu.1
  have hpro : (vista { m with k := k', regs := c }).propios =
      Function.update (vista m).propios u c := h.inv.propios_propio k' c m.guarda hreg
  refine ⟨h.inv.deja hk hturnos (fun w hw => ?_) hc (fun h1 hlt => ?_) m.guarda, ?_, hmis, rfl,
    fun t ht => ?_⟩
  · rw [hindice]
    exact h.inv.indice w hw
  · simp only [Fase.corre] at hlt
    omega
  · refine vuelta_congr h.vuelta rfl ?_ rfl
    rw [hpro, Function.update_of_ne (by omega)]
  · rw [hpro]
    simp only [Function.update_apply]
    split
    · rfl
    · exact h.regs t ht

lemma Representa.anida {g : ℕ} (h : Representa n N (.dentro u) m v) (hg : g = 1 ∨ g = 2) :
    ∃ m', interrumpir n (some (.tarea (8 * (4 + 2 * g)))) m = some m' ∧
      Representa n N (.anidada u g) m' ⟨v.k, if g = 1 then .pide u else .nadie, v.regs⟩ := by
  obtain ⟨m', hm', hc, hpro, hinv⟩ := h.inv.anida hg
  refine ⟨m', hm', hinv, vuelta_congr h.vuelta rfl ?_ hc.guarda, hc.mismo.symm.trans h.mismo,
    rfl, fun t ht => ?_⟩
  · rw [hpro, Function.update_of_ne (by omega)]
  · rw [hpro, Function.update_of_ne (by omega)]
    exact h.regs t ht

lemma deja_refl (k : Kernel) : Deja k k := deja_marco Marco.rfl'

/-- What `sys_call` serves is what the program left in its registers. -/
lemma llamar_atrapados (basura : ℕ → ℕ) {k : Kernel} (ht : k.tIndice = u) :
    llamar basura u (atrapados k) k = sysCall basura k := by
  have hentra : entrar u (atrapados k) k = k := by
    subst ht
    have hs : (atrapados k).salvar (k.tss (k.rTareas k.tIndice).taskTss) =
        k.tss (k.rTareas k.tIndice).taskTss := rfl
    unfold entrar Kernel.updTss
    rw [hs, Function.update_eq_self]
  unfold llamar
  rw [hentra]

lemma Representa.llamada {c : Contexto} (h : Representa n N (.anidada u 1) m v) (basura : ℕ → ℕ)
    (hc : Sigue m.regs c) :
    (m.k.tIndice = u ∧ atrapados m.k = (v.regs u).param) ∧
    ∃ m', saltar n 0x20 { m with k := sysCall basura m.k, regs := { c with eip := n.tras 1 } } =
        some m' ∧
      Representa n N (.base (some u)) m' ⟨llamar basura u (v.regs u).param v.k, .nadie,
        tras basura (v.regs u).param (entrar u (v.regs u).param v.k) v.regs⟩ := by
  have hu := h.inv.ultima u rfl
  have h3 : 3 ≤ u := hu.1
  have ht : m.k.tIndice = u := h.inv.indice u rfl
  have hregs : ∀ t, 3 ≤ t → v.regs t = contexto (m.k.tss (some t)) := fun t ht3 => by
    have hm := h.inv.propios_deja m.k m.regs m.guarda t
    rw [h.regs t ht3]
    exact hm.trans (if_neg (by simp only [Fase.corre]; omega))
  have hatr : atrapados m.k = (v.regs u).param := by
    rw [hregs u h3, atrapados, ht, h.inv.turnos.registro.tssOf hu.2]
  have hserv : sysCall basura m.k = despachar basura (v.regs u).param m.k := by
    rw [← hatr]
    rfl
  have hentra : Mismo m.k (entrar u (v.regs u).param v.k) := entrar_mismo h.mismo u _ ht
  have hturnos : Turns.Inv N (sysCall basura m.k, none) := by
    rw [← llamar_atrapados basura ht]
    exact h.inv.turnos.paso (.llamada basura)
  have hdeja : Deja m.k (sysCall basura m.k) := by
    rw [hserv]
    exact deja_marco (despachar_marco basura)
  have hinv := h.inv.deja hdeja hturnos (fun _ hu => by cases hu)
    (c := { c with eip := n.tras 1 }) ⟨hc.cs, hc.ss, hc.ds, hc.es, hc.fs, hc.gs, hc.abierta⟩
    (fun _ _ => Or.inr rfl) m.guarda
  obtain ⟨m', hm', hcam, hpro, hinv'⟩ := hinv.vuelve
  have hpro' (t : ℕ) (ht1 : t ≠ 1) :
      (vista m').propios t = contexto ((sysCall basura m.k).tss (some t)) := by
    rw [hpro, h.inv.propios_deja]
    exact if_neg ht1
  refine ⟨⟨ht, hatr⟩, m', hm', hinv', vuelta_congr h.vuelta rfl ?_ hcam.guarda, ?_,
    rfl, fun t ht3 => ?_⟩
  · rw [hpro' 0 (by omega)]
    have hm := h.inv.propios_deja m.k m.regs m.guarda 0
    rw [show (vista m).propios 0 = contexto (m.k.tss (some 0)) from
      hm.trans (if_neg (by simp only [Fase.corre]; omega))]
    exact hdeja.eip (some 0)
  · rw [llamar_eq]
    refine hcam.mismo.symm.trans ?_
    simp only
    rw [hserv]
    exact despachar_congr hentra basura _
  · rw [hpro' t (by omega), hserv, despachar_tss]
    simp only [tras, retorno_congr hentra]
    cases retorno basura (v.regs u).param m.k with
    | none => exact hregs t ht3
    | some w =>
      simp only
      by_cases hq : w.1 = some t
      · rw [if_pos hq, if_pos hq.symm, hregs t ht3, hq]
        rfl
      · rw [if_neg hq, if_neg (Ne.symm hq)]
        exact hregs t ht3

lemma Representa.control {c : Contexto} (h : Representa n N (.anidada u 2) m v)
    (hc : Sigue m.regs c) :
    ∃ m', saltar n 0x20 { m with regs := { c with eip := n.tras 2 } } = some m' ∧
      Representa n N (.base (some u)) m' v := by
  have hinv := h.inv.deja (deja_refl m.k) h.inv.turnos h.inv.indice
    (c := { c with eip := n.tras 2 }) ⟨hc.cs, hc.ss, hc.ds, hc.es, hc.fs, hc.gs, hc.abierta⟩
    (fun _ _ => Or.inr rfl) m.guarda
  obtain ⟨m', hm', hcam, hpro, hinv'⟩ := hinv.vuelve
  have hpro' (t : ℕ) (ht2 : t ≠ 2) : (vista m').propios t = (vista m).propios t := by
    rw [hpro, h.inv.propios_propio m.k _ m.guarda fun _ => rfl]
    exact Function.update_of_ne ht2 _ _
  refine ⟨m', hm', hinv', vuelta_congr h.vuelta rfl ?_ hcam.guarda,
    hcam.mismo.symm.trans h.mismo, h.turno, fun t ht3 => ?_⟩
  · rw [hpro' 0 (by omega)]
  · rw [hpro' t (by omega)]
    exact h.regs t ht3

lemma turno_base {o : Option ℕ} {c : Contexto} (h : Inv n N (.base none) o m) (hmis : Mismo m.k v.k)
    (hregs : ∀ t, 3 ≤ t → v.regs t = (vista m).propios t)
    (hu : Decide m.k.rTareas m.k.tIndice u) (hc : Sigue m.regs c) :
    ∃ m', saltar n (m.k.rTareas u).task { m with
          k := { m.k with tIndice := u }, regs := { c with eip := n.tras 0 },
          guarda := anotar m.k u } = some m' ∧
      Representa n N (.dentro u) m' ⟨{ v.k with tIndice := u }, .corre u, v.regs⟩ := by
  have hturnos : Turns.Inv N ({ m.k with tIndice := u }, some u) := h.turnos.paso (.turno hu)
  have hus : Turns.Usuario m.k u := (hturnos.turno u rfl).1
  have h3 : 3 ≤ u := hus.1
  obtain ⟨hn, hp⟩ := h.turnos.registro.tarea_iff.mp hus.2
  have hanota : anotar m.k u = (4 + 2 * u, 0x89) := by
    have hlibre : ocupado (m.k.gdt (4 + 2 * u)) = false := by
      have hmarca := (h.fase.marcas u).not.mpr (by simp only [Fase.Marca]; omega)
      exact Bool.eq_false_iff.mpr hmarca
    unfold anotar
    simp only
    rw [(h.turnos.registro.lugar u hn hp).1, Nat.mul_div_cancel_left _ (by decide),
      (h.tablas.puerta u hus.2).2, Nat.mul_div_cancel_left _ (by decide),
      (h.tablas.desc u hus.2).libre hlibre]
    rfl
  have hdeja : Deja m.k { m.k with tIndice := u } := deja_marco (marco_resto _ _ _ _)
  have hinv := h.deja hdeja hturnos (fun w hw => Option.some.inj hw)
    (c := { c with eip := n.tras 0 }) ⟨hc.cs, hc.ss, hc.ds, hc.es, hc.fs, hc.gs, hc.abierta⟩
    (fun h1 _ => absurd h1 (by simp only [Fase.corre]; omega)) (anotar m.k u)
  obtain ⟨m', hm', hcam, hpro, hinv'⟩ := hinv.entra hus hturnos rfl
  have hpro' : (vista m').propios =
      Function.update (vista m).propios 0 { c with eip := n.tras 0 } := by
    rw [hpro]
    exact h.propios_propio { m.k with tIndice := u } _ (anotar m.k u) fun _ => rfl
  refine ⟨m', hm', hinv', ⟨?_, ?_⟩, ?_, rfl, fun t ht3 => ?_⟩
  · rw [hpro', Function.update_self]
  · rw [hcam.guarda, hanota]
  · refine hcam.mismo.symm.trans ?_
    obtain ⟨T, G, hk, hT⟩ := Mismo.elim hmis
    simp only
    rw [hk]
    exact ⟨rfl, hT⟩
  · rw [hpro', Function.update_of_ne (by omega)]
    exact hregs t ht3

def Rel (n : Nucleo) (N : ℕ) (s : Option Maquina) (v : Propia) : Prop :=
  ∃ m e, s = some m ∧ Representa n N e m v

lemma setPort_tIndice (q : ℕ) (k : Kernel) : (setPort q k).2.tIndice = k.tIndice := by
  rw [Ports.setPort_eq]
  split <;> rfl

lemma unsetPort_tIndice (q : ℕ) (k : Kernel) : (unsetPort q k).2.tIndice = k.tIndice := by
  rw [Ports.unsetPort_eq]
  rfl

lemma setPort_contexto (q : ℕ) (k : Kernel) (q' : Ptr) :
    contexto ((setPort q k).2.tss q') = contexto (k.tss q') := by
  rw [Ports.setPort_eq]
  split
  · rfl
  · exact updTss_campo (f := contexto) (g := fun s => { s with iobp := erase s.iobp q })
      (fun _ => rfl) _ _ q'

lemma unsetPort_contexto (q : ℕ) (k : Kernel) (q' : Ptr) :
    contexto ((unsetPort q k).2.tss q') = contexto (k.tss q') := by
  rw [Ports.unsetPort_eq]
  exact updTss_campo (f := contexto) (g := fun s => { s with iobp := mark s.iobp q })
    (fun _ => rfl) _ _ q'

lemma Representa.puerto {k' K' : Kernel} {w : ℕ} (h : Representa n N (.dentro u) m v)
    (hk : Deja m.k k') (hreg : ∀ q, contexto (k'.tss q) = contexto (m.k.tss q))
    (hturnos : Turns.Inv N (k', some u)) (hindice : k'.tIndice = m.k.tIndice)
    (hmis : Mismo k' K') :
    Representa n N (.dentro u) { m with k := k', regs := m.regs.conEax w }
      ⟨K', .corre u, Function.update v.regs u ((v.regs u).conEax w)⟩ := by
  have hu : v.regs u = m.regs := (h.regs u (h.inv.ultima u rfl).1).trans h.inv.fase.regs
  rw [hu]
  exact h.deja hk (fun t => hreg (some t)) hturnos hindice
    ⟨rfl, rfl, rfl, rfl, rfl, rfl, Iff.rfl⟩ hmis

lemma Representa.cr3 (h : Representa n N (.dentro u) m v) : m.cr3 = (m.k.tssOf u).cr3 := by
  rw [h.inv.turnos.registro.tssOf (h.inv.ultima u rfl).2]
  exact h.inv.cr3

lemma Representa.guarda {w : ℕ} (h : Representa n N (.dentro u) m v)
    (hf : Fuera n.kernelFin (phys m.k.mem m.cr3 w)) (ht : ¬ EnTablas m.k (phys m.k.mem m.cr3 w)) :
    Guarda n.kernelFin u w v.k := by
  intro _
  rw [Kernel.tssOf, h.mismo.rTareas, h.mismo.cr3, h.mismo.mem, ← Kernel.tssOf, ← h.cr3]
  exact ⟨hf, fun hx => ht (enTablas_congr h.mismo hx)⟩

lemma Representa.escritura {w : ℕ} {b : Byte} (h : Representa n N (.dentro u) m v)
    (hw : UserWrite m.k.mem m.cr3 w) :
    Representa n N (.dentro u)
      { m with k := { m.k with mem := wr8 m.k.mem (phys m.k.mem m.cr3 w) b } }
      ⟨escribir u w b v.k, .corre u, v.regs⟩ := by
  have hus := h.inv.ultima u rfl
  have hu : v.regs u = m.regs := (h.regs u hus.1).trans h.inv.fase.regs
  have hcr3 := h.cr3
  have heq : escribir u w b m.k =
      { m.k with mem := wr8 m.k.mem (phys m.k.mem m.cr3 w) b } := by
    unfold escribir
    rw [← hcr3, if_pos hw]
  have hmis := escribir_congr h.mismo u w b
  have hturnos : Turns.Inv N (escribir u w b m.k, some u) := h.inv.turnos.paso .escritura
  rw [heq] at hmis hturnos
  have hdeja : Deja m.k { m.k with mem := wr8 m.k.mem (phys m.k.mem m.cr3 w) b } :=
    deja_marco (marco_resto _ _ _ _)
  have hrep := h.deja hdeja (fun _ => rfl) hturnos rfl (sigue_refl m.regs) hmis
  have hself : Function.update v.regs u m.regs = v.regs := by
    rw [← hu]
    exact Function.update_eq_self u v.regs
  rwa [hself] at hrep

lemma idt_llamada (n : Nucleo) (p : ℕ → Idtp) :
    pedida (n.idt p) 3 0x40 = some (.tarea (8 * (4 + 2 * 1))) := by
  unfold pedida Nucleo.idt
  rw [idtMain_apply (by omega)]
  simp [Idtp.nivel, Idtp.destino, selector]

lemma idt_reloj (n : Nucleo) (p : ℕ → Idtp) :
    (n.idt p 16).destino = some (.tarea (8 * (4 + 2 * 2))) := by
  unfold Nucleo.idt
  rw [idtMain_apply (by omega)]
  simp [Idtp.destino, selector]

/-- **The step lemma**: no change of task fails, and a step that is seen is one of the machine of
its own. -/
theorem Rel.paso {s : Option Maquina} (h : Rel n N s v) (hs : Processor.Paso n p s a s') :
    match visible a with
    | some b => ∃ v', Paso n.kernelFin v b v' ∧ Rel n N s' v'
    | none => Rel n N s' v := by
  obtain ⟨m₀, e, hm₀, h⟩ := h
  obtain ⟨k, o, regs⟩ := v
  cases hs with
  | @usuario m c h3 hc =>
    obtain rfl := Option.some.inj hm₀
    obtain ⟨u, rfl⟩ := h.de_usuario h3
    obtain rfl : o = .corre u := h.turno
    exact ⟨_, .usuario c, _, _, rfl, h.usuario hc⟩
  | @setPort m q h3 hq =>
    obtain rfl := Option.some.inj hm₀
    obtain ⟨u, rfl⟩ := h.de_usuario h3
    obtain rfl : o = .corre u := h.turno
    obtain ⟨hval, hmis⟩ := setPort_congr h.mismo q
    refine ⟨_, .setPort (p := q) hq, _, .dentro u, rfl, ?_⟩
    rw [hval]
    exact h.puerto (deja_setPort q m.k) (setPort_contexto q m.k) (h.inv.turnos.paso .setPort)
      (setPort_tIndice q m.k) hmis
  | @unsetPort m q h3 hq =>
    obtain rfl := Option.some.inj hm₀
    obtain ⟨u, rfl⟩ := h.de_usuario h3
    obtain rfl : o = .corre u := h.turno
    obtain ⟨hval, hmis⟩ := unsetPort_congr h.mismo q
    refine ⟨_, .unsetPort (p := q) hq, _, .dentro u, rfl, ?_⟩
    rw [hval]
    exact h.puerto (deja_unsetPort q m.k) (unsetPort_contexto q m.k) (h.inv.turnos.paso .unsetPort)
      (unsetPort_tIndice q m.k) hmis
  | @escritura m w b h3 hw hf htab =>
    obtain rfl := Option.some.inj hm₀
    obtain ⟨u, rfl⟩ := h.de_usuario h3
    obtain rfl : o = .corre u := h.turno
    exact ⟨_, .escritura (v := w) (b := b) (h.guarda hf htab), _, .dentro u, rfl, h.escritura hw⟩
  | @trampa m h3 =>
    obtain rfl := Option.some.inj hm₀
    obtain ⟨u, rfl⟩ := h.de_usuario h3
    obtain rfl : o = .corre u := h.turno
    obtain ⟨m', hm', hrep⟩ := h.anida (Or.inl rfl)
    rw [h3, idt_llamada, hm']
    exact ⟨_, .trampa, m', _, rfl, hrep⟩
  | @reloj m hi =>
    obtain rfl := Option.some.inj hm₀
    obtain ⟨u, rfl⟩ := h.de_abierta hi
    obtain rfl : o = .corre u := h.turno
    obtain ⟨m', hm', hrep⟩ := h.anida (Or.inr rfl)
    rw [idt_reloj, hm']
    exact ⟨_, .reloj, m', _, rfl, hrep⟩
  | @llamada m c basura he hc hl =>
    obtain rfl := Option.some.inj hm₀
    obtain ⟨u, rfl⟩ := h.de_llamada he.1 he.2
    obtain rfl : o = .pide u := h.turno
    obtain ⟨⟨ht, hatr⟩, m', hm', hrep⟩ := h.llamada basura hc
    have hcon := contenida_congr (entrar_mismo h.mismo u (regs u).param ht) (hatr ▸ hl)
    rw [hm', ht, hatr]
    exact ⟨_, .llamada basura hcon, m', _, rfl, hrep⟩
  | @control m c he hc =>
    obtain rfl := Option.some.inj hm₀
    obtain ⟨u, rfl⟩ := h.de_control he.1 he.2
    obtain ⟨m', hm', hrep⟩ := h.control hc
    rw [hm']
    exact ⟨m', _, rfl, hrep⟩
  | @turno m c u k' he hk hu hc =>
    obtain rfl := Option.some.inj hm₀
    have hv {k' : Kernel} (hmis : Mismo k' k) (hu : Decide k'.rTareas k'.tIndice u) :
        Decide k.rTareas k.tIndice u := by
      rwa [hmis.rTareas, hmis.tIndice]
    rcases hk with ⟨hb, rfl⟩ | ⟨hb, rfl⟩
    · obtain rfl := h.de_bucle he hb
      obtain rfl : o = .nadie := h.turno
      obtain ⟨m', hm', hrep⟩ := turno_base h.inv h.mismo h.regs hu hc
      rw [hm']
      exact ⟨_, .turno (hv h.mismo hu), m', _, rfl, hrep⟩
    · obtain ⟨w, rfl, hg⟩ := h.de_tras he hb
      obtain rfl : o = .nadie := h.turno
      obtain ⟨hinv, hvista, hmis⟩ := h.inv.suelta hg
      have hmis' := hmis.symm.trans h.mismo
      obtain ⟨m', hm', hrep⟩ := turno_base hinv hmis' (fun t ht3 => by
        rw [hvista, Cpu.soltar_propios]
        exact h.regs t ht3) hu hc
      rw [hm']
      exact ⟨_, .turno (hv hmis' hu), m', _, rfl, hrep⟩

end Silicio.Virtual
