import Silicio.Virtual

/-!
The runs of the machine.

Every one of them is a run of the machine where each task has its processor, and so one of the
turns: it meets no fault, a program finds its registers as it left them, and the kernel is what the
calls made of it. The runs are of steps that keep out of the kernel's tables: ports and pages are in
their maps, and no call or store moves a byte of the image.
-/

namespace Silicio.Intact

open Silicio.Bitmap Silicio.Bytes Silicio.Defs Silicio.Mm Silicio.Mmu Silicio.Paging Silicio.Tasks
open Silicio.Registry Silicio.Gates Silicio.Runs Silicio.Sched Silicio.Syscall
open Silicio.Vectors Silicio.Switching Silicio.Processor Silicio.Contexts Silicio.Startup
open Silicio.Congruence Silicio.Phases Silicio.Virtual
open Silicio.Contained (Contenida)

variable {n : Nucleo} {p : ℕ → Idtp} {N : ℕ} {e : Fase ℕ} {m m' : Maquina} {s s' : Option Maquina}
variable {v v' : Propia} {a : Processor.Evento} {es : List Processor.Evento} {kernelFin u t : ℕ}

/-! ### The start -/

def Propia.Inicial (l : Link) (v : Propia) : Prop :=
  Turns.Inicial l (v.k, none) ∧ v.turno = .nadie

lemma tabla_decide {r : ℕ → Run} {c : ℕ} (h : Tabla c r) (ht : t < MAX_TASK)
    (hr : ∃ w, 1 ≤ w ∧ w < c ∧ Ejecutable r w) : ∃ u, Decide r t u := by
  have hbusca (t : ℕ) (ht : t < c) : ∃ u, Decide r t u := by
    obtain ⟨u, hu⟩ := (h.decision ht hr).1
    exact ⟨u, _, hu⟩
  rcases Nat.lt_or_ge t c with hlt | hge
  · exact hbusca t hlt
  · -- past the last task it goes on at the first
    have hsig : siguiente r t = 1 := by
      unfold siguiente
      simp only
      split_ifs with h1 h2
      · rfl
      · rfl
      · exact absurd ((h.ocupadas (t + 1) (by omega)).mp h2) (by omega)
    by_cases he : Ejecutable r 1
    · exact ⟨1, Turns.decide_siguiente hsig he⟩
    · obtain ⟨u, hu⟩ := hbusca 1 h.dos
      exact ⟨u, Turns.decide_pasa hsig he hu⟩

def deTurnos : Processor.Evento → Option Turns.Evento
  | .turno u => some (.turno u)
  | .llamada t r => some (.llamada t r)
  | .puerto => some .puerto
  | .escritura => some .escritura
  | _ => none

def Turno.tarea : Turno → Option ℕ
  | .nadie => none
  | .corre t => some t
  | .pide t => some t

/-- The same kernel; who has the turn there has it here, where it may have been lost to the
clock. -/
def RelTurnos (v : Propia) (s : Turns.Maquina) : Prop :=
  s.1 = v.k ∧ ∀ t, Turno.tarea v.turno = some t → s.2 = some t

lemma RelTurnos.paso {s : Turns.Maquina} (h : RelTurnos v s)
    (hs : Virtual.Paso kernelFin v a v') :
    (∀ b, deTurnos a = some b → ∃ s', Turns.Contenido kernelFin s b s' ∧ RelTurnos v' s') ∧
    (deTurnos a = none → RelTurnos v' s) := by
  obtain ⟨k, o⟩ := s
  obtain ⟨rfl, ho⟩ := h
  simp only at ho
  cases hs with
  | usuario c => exact ⟨nofun, fun _ => ⟨rfl, ho⟩⟩
  | trampa => exact ⟨nofun, fun _ => ⟨rfl, ho⟩⟩
  | reloj => exact ⟨nofun, fun _ => ⟨rfl, nofun⟩⟩
  | setPort hp =>
    obtain rfl := ho _ rfl
    refine ⟨fun b hb => ?_, nofun⟩
    obtain rfl := Option.some.inj hb
    exact ⟨_, .setPort hp, rfl, fun _ ht => ht⟩
  | unsetPort hp =>
    obtain rfl := ho _ rfl
    refine ⟨fun b hb => ?_, nofun⟩
    obtain rfl := Option.some.inj hb
    exact ⟨_, .unsetPort hp, rfl, fun _ ht => ht⟩
  | escritura hg =>
    obtain rfl := ho _ rfl
    refine ⟨fun b hb => ?_, nofun⟩
    obtain rfl := Option.some.inj hb
    exact ⟨_, .escritura hg, rfl, fun _ ht => ht⟩
  | llamada basura hc =>
    obtain rfl := ho _ rfl
    refine ⟨fun b hb => ?_, nofun⟩
    obtain rfl := Option.some.inj hb
    exact ⟨_, .llamada basura hc, rfl, nofun⟩
  | turno hu =>
    refine ⟨fun b hb => ?_, nofun⟩
    obtain rfl := Option.some.inj hb
    exact ⟨_, .turno hu, rfl, fun _ ht => ht⟩

end Silicio.Intact
