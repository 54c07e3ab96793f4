import Silicio.Intact

/-!
How long a program waits.

A program that is ready stays ready until it has had a turn: what the others call may wake a task,
but puts none to sleep but the caller. Each turn of another brings the search nearer to it, so
while it waits nobody has two turns.
-/

namespace Silicio.Waiting

open Silicio.Defs Silicio.Registry Silicio.Runs Silicio.Rotation Silicio.Sched Silicio.Syscall
open Silicio.Effects Silicio.Switching Silicio.Processor Silicio.Contexts Silicio.Phases
open Silicio.Vectors Silicio.Virtual Silicio.Intact

variable {n : Nucleo} {p : ℕ → Idtp} {N : ℕ} {k k' : Kernel} {m : Maquina}
variable {s : Option Maquina} {σ σ' : Turns.Maquina} {r : Regs} {t u : ℕ}

/-! ### What a step leaves -/

/-- The task a step of the turns chooses. -/
def elegida : Turns.Evento → Option ℕ
  | .turno u => some u
  | _ => none

def Ultima (σ : Turns.Maquina) : Prop := ∀ t, σ.2 = some t → σ.1.tIndice = t

lemma inv_tabla {o : Option ℕ} (h : Turns.Inv N (k, o)) (ht : Turns.Usuario k t) :
    Tabla (min N PARES) k.rTareas ∧ t < min N PARES := by
  have hlt := h.registro.tarea_iff.mp ht.2
  have h3 : 3 ≤ t := ht.1
  refine ⟨⟨by omega, by simp only [PARES, MAX_GDT, MAX_TASK]; omega, fun i hi => ?_⟩, by omega⟩
  have hiff := h.registro.tarea_iff (t := i)
  rw [lt_min_iff, ← hiff]
  exact ⟨fun h0 => ⟨hi, h0⟩, And.right⟩

end Silicio.Waiting
