import Silicio.Driver

/-!
Calls that are refused.

A handler makes all its checks before it changes anything: an error is returned from a state
that is still the one the call found. Only what the dispatcher does next is left, and that is
one register of the caller.
-/

namespace Silicio.Rejects

open Silicio.Bitmap Silicio.Bytes Silicio.Defs Silicio.Strings Silicio.Registry Silicio.Syscall
open Silicio.Layout Silicio.Driver

inductive Manejador
  | sysReg | sysOpen | sysRead | sysWrite | sysSeek | sysRet

def Manejador.atender (basura : ℕ → ℕ) (r : Regs) (k : Kernel) : Manejador → ℤ × Kernel
  | .sysReg => Syscall.sysReg r.ebx k
  | .sysOpen => Syscall.sysOpen basura r.ebx r.ecx k
  | .sysRead => Syscall.sysRead r.eax r.ebx r.ecx r.edx k
  | .sysWrite => Syscall.sysWrite r.eax r.ebx r.ecx r.edx k
  | .sysSeek => Syscall.sysSeek r.eax r.ebx k
  | .sysRet => Syscall.sysRet r.ebx k

def Manejador.numero : Manejador → ℕ
  | .sysReg => SYS_REG
  | .sysOpen => SYS_OPEN
  | .sysRead => SYS_READ
  | .sysWrite => SYS_WRITE
  | .sysSeek => SYS_SEEK
  | .sysRet => SYS_RET

/-- A call that fails, or a transfer of nothing. -/
def Vana (m : Manejador) (r : Regs) (e : ℤ) : Prop :=
  e < 0 ∨ (m = .sysRead ∨ m = .sysWrite) ∧ r.edx = 0 ∧ e = 0

variable {basura : ℕ → ℕ} {r : Regs} {k : Kernel}

/-! ### One handler at a time -/

lemma sysReg_rechazo {ebx : ℕ} {e : ℤ} (h : revisarReg ebx k = .inl e) :
    sysReg ebx k = (e, k) := by
  unfold sysReg
  rw [h]

lemma sysReg_acepta {ebx i : ℕ} (h : revisarReg ebx k = .inr i) : (sysReg ebx k).1 = i := by
  unfold sysReg
  rw [h]

lemma sysReg_vana {ebx : ℕ} (h : (sysReg ebx k).1 < 0) : (sysReg ebx k).2 = k := by
  cases hrev : revisarReg ebx k with
  | inl e => rw [sysReg_rechazo hrev]
  | inr i =>
    rw [sysReg_acepta hrev] at h
    omega

lemma sysRet_vana {ebx : ℕ} (h : (sysRet ebx k).1 < 0) : (sysRet ebx k).2 = k := by
  cases hrev : revisarRet ebx k with
  | some e => rw [sysRet_rechazo hrev]
  | none =>
    rw [sysRet_fst, hrev, Option.getD_none] at h
    omega

/-- Whatever stands in `eax`, a seek that fails a check of the slot does nothing. -/
lemma sysSeek_vana {eax ebx : ℕ} (h : (sysSeek eax ebx k).1 < 0) : (sysSeek eax ebx k).2 = k := by
  unfold sysSeek at h ⊢
  cases hd : revisarDrv ebx k with
  | some e => rfl
  | none =>
    rw [hd] at h
    simp only at h
    omega

/-- The checks of a buffer end the call of a transfer of nothing. -/
lemma revisarBuf_cero (ecx : ℕ) (k : Kernel) : revisarBuf ecx 0 k ≠ none := by
  unfold revisarBuf
  by_cases h : checkAddr ecx k.tIndice k = 0
  · rw [if_pos h]
    exact Option.some_ne_none _
  · rw [if_neg h, if_neg (by omega), if_pos rfl]
    exact Option.some_ne_none _

lemma transferencia_vana (ecx : ℕ) {ebx edx : ℕ} {s : ℤ × Kernel} {acepta : Kernel}
    (hs : s = match revisarDrv ebx k with
      | some e => (e, k)
      | none =>
        match revisarBuf ecx edx k with
        | some e => (e, k)
        | none => (0, acepta))
    (h : s.1 < 0 ∨ edx = 0) : s.2 = k := by
  cases hd : revisarDrv ebx k with
  | some e => rw [hs, hd]
  | none =>
    cases hb : revisarBuf ecx edx k with
    | some e => rw [hs, hd, hb]
    | none =>
      rcases h with h | rfl
      · rw [hs, hd, hb] at h
        simp only at h
        omega
      · exact absurd hb (revisarBuf_cero ecx k)

/-- **A refused call changes nothing**: whatever the state, the calling task and the registers,
a handler that returns a negative number leaves the state as it found it, and so does
`sys_read` or `sys_write` that returns 0 for a transfer of nothing. -/
theorem rechazo_sin_cambio {m : Manejador} (h : Vana m r (m.atender basura r k).1) :
    (m.atender basura r k).2 = k := by
  cases m with
  | sysReg => exact sysReg_vana (h.resolve_right (by simp))
  | sysOpen => exact sysOpen_snd basura r.ebx r.ecx
  | sysRead => exact transferencia_vana r.ecx rfl (h.imp_right fun hz => hz.2.1)
  | sysWrite => exact transferencia_vana r.ecx rfl (h.imp_right fun hz => hz.2.1)
  | sysSeek => exact sysSeek_vana (h.resolve_right (by simp))
  | sysRet => exact sysRet_vana (h.resolve_right (by simp))

/-- What `sys_call` makes of a handler: it calls the one whose number is in `eax`, and at most
stores the result. -/
lemma despachar_numero {m : Manejador} (hm : r.eax = m.numero) :
    despachar basura r k = (m.atender basura r k).2 ∨
      despachar basura r k = guardar (m.atender basura r k) := by
  cases m with
  | sysReg => exact Or.inr (by simp [despachar, hm, Manejador.numero, Manejador.atender])
  | sysOpen => exact Or.inr (by simp [despachar, hm, Manejador.numero, Manejador.atender])
  | sysRead => exact Or.inl (by simp [despachar, hm, Manejador.numero, Manejador.atender])
  | sysWrite => exact Or.inl (by simp [despachar, hm, Manejador.numero, Manejador.atender])
  | sysSeek => exact Or.inl (by simp [despachar, hm, Manejador.numero, Manejador.atender])
  | sysRet => exact Or.inl (by simp [despachar, hm, Manejador.numero, Manejador.atender])

/-- **A refused system call**: task `t` traps and is refused, and then memory, the slots of the
drivers and the statuses are as they were, and so are the registers of every task but `t`. -/
theorem llamar_rechazo {m : Manejador} {t : ℕ} (hm : r.eax = m.numero)
    (h : Vana m r (m.atender basura r (entrar t r k)).1) :
    (llamar basura t r k).mem = k.mem ∧ (llamar basura t r k).rDrv = k.rDrv ∧
      (llamar basura t r k).rTareas = k.rTareas ∧
      ∀ q ≠ (k.rTareas t).taskTss, (llamar basura t r k).tss q = k.tss q := by
  have hk := rechazo_sin_cambio h
  have hent : ∀ q ≠ (k.rTareas t).taskTss, (entrar t r k).tss q = k.tss q := fun q hq => by
    rw [entrar_tss, if_neg hq]
  rw [llamar_eq]
  rcases despachar_numero hm with he | he
  · rw [he, hk]
    exact ⟨rfl, rfl, rfl, hent⟩
  · rw [he]
    unfold guardar
    rw [hk]
    refine ⟨rfl, rfl, rfl, fun q hq => ?_⟩
    rw [updTss_tss, entrar_tIndice, entrar_rTareas, if_neg hq]
    exact hent q hq

/-- Task 3 writes to a slot that does not exist. -/
theorem rechazo_sin_cambio_escritura :
    (Manejador.sysWrite.atender (fun _ => 0) ⟨SYS_WRITE, 10, 0x300000, 1⟩
      (entrar 3 ⟨SYS_WRITE, 10, 0x300000, 1⟩ (nucleoTres 3))).2 =
      entrar 3 ⟨SYS_WRITE, 10, 0x300000, 1⟩ (nucleoTres 3) := by
  refine rechazo_sin_cambio (Or.inl ?_)
  have hd : revisarDrv 10 (entrar 3 ⟨SYS_WRITE, 10, 0x300000, 1⟩ (nucleoTres 3)) = some (-1) :=
    if_pos (by decide)
  unfold Manejador.atender sysWrite
  simp only
  rw [hd]
  decide

end Silicio.Rejects
