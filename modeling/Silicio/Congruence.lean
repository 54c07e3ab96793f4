import Silicio.Contexts

/-!
The calls do not see the registers and the marks of the tasks.

Of a TSS a call reads the page directory, and `set_port` writes the map of ports; what a change of
task saves is never looked at, but for the four registers of the task that calls, which `sys_call`
reads first. So two kernels that differ in nothing else take the same call to kernels that differ
in nothing else, with the same answer.
-/

namespace Silicio.Congruence

open Silicio.Bitmap Silicio.Bytes Silicio.Defs Silicio.Mm Silicio.Mmu Silicio.Paging Silicio.Strings
open Silicio.Ports Silicio.Syscall Silicio.Contexts Silicio.Contained

variable {k k' : Kernel} {r : Regs} {t : ℕ}

/-- The other kernel is this one with other TSSs and another GDT. -/
lemma Mismo.elim (h : Mismo k k') :
    ∃ T G, k' = { k with tss := T, gdt := G } ∧ ∀ q, vaciar (T q) = vaciar (k.tss q) :=
  ⟨k'.tss, k'.gdt, h.resto, h.tss⟩

lemma mismo_updTss (h : Mismo k k') (q : Ptr) {f : Tss → Tss}
    (hf : ∀ s s', vaciar s' = vaciar s → vaciar (f s') = vaciar (f s)) :
    Mismo (k.updTss q f) (k'.updTss q f) := by
  obtain ⟨T, G, rfl, hT⟩ := Mismo.elim h
  refine ⟨rfl, fun q' => ?_⟩
  simp only [updTss_tss]
  split
  · exact hf _ _ (hT q)
  · exact hT q'

lemma mismo_updStatus (h : Mismo k k') (t : ℕ) (e : Status) :
    Mismo (k.updStatus t e) (k'.updStatus t e) := by
  obtain ⟨T, G, rfl, hT⟩ := Mismo.elim h
  exact ⟨rfl, hT⟩

lemma mismo_conEax (h : Mismo k k') (q : Ptr) (v : ℕ) :
    Mismo (k.updTss q (conEax v)) (k'.updTss q (conEax v)) :=
  mismo_updTss (f := conEax v) h q fun _ _ hs => hs

lemma mismo_guardar {s s' : ℤ × Kernel} (h1 : s'.1 = s.1) (h2 : Mismo s.2 s'.2) :
    Mismo (guardar s) (guardar s') := by
  unfold guardar
  rw [h1, h2.rTareas, h2.tIndice]
  exact mismo_conEax h2 _ _

section
variable (h : Mismo k k')
include h

/-! ### The checks -/

lemma checkAddr_congr (addr t : ℕ) : checkAddr addr t k' = checkAddr addr t k := by
  unfold checkAddr Kernel.tssOf
  rw [h.rTareas, h.cr3, h.mem]

lemma revisarDrv_congr (ebx : ℕ) : revisarDrv ebx k' = revisarDrv ebx k := by
  unfold revisarDrv
  rw [h.rDrv, h.rTareas]

lemma revisarBuf_congr (ecx edx : ℕ) : revisarBuf ecx edx k' = revisarBuf ecx edx k := by
  unfold revisarBuf
  simp only [checkAddr_congr h, h.tIndice]

lemma revisarReg_congr (ebx : ℕ) : revisarReg ebx k' = revisarReg ebx k := by
  unfold revisarReg
  simp only [checkAddr_congr h, h.tIndice, h.mem, h.rDrv]

lemma revisarRet_congr (ebx : ℕ) : revisarRet ebx k' = revisarRet ebx k := by
  unfold revisarRet
  rw [checkAddr_congr h, h.tIndice, h.rDrv]

lemma campoRet_congr (ebx : ℕ) : campoRet ebx k' = campoRet ebx k := by
  unfold campoRet
  rw [checkAddr_congr h, h.tIndice, h.mem]

/-! ### The calls -/

lemma sysOpen_congr (basura : ℕ → ℕ) (ebx ecx : ℕ) :
    (sysOpen basura ebx ecx k').1 = (sysOpen basura ebx ecx k).1 := by
  unfold sysOpen
  simp only [checkAddr_congr h, h.tIndice, h.mem, h.rDrv]
  split_ifs <;> rfl

lemma sysReg_congr (ebx : ℕ) : (sysReg ebx k').1 = (sysReg ebx k).1 ∧
    Mismo (sysReg ebx k).2 (sysReg ebx k').2 := by
  unfold sysReg
  rw [revisarReg_congr h]
  cases revisarReg ebx k with
  | inl e => exact ⟨rfl, h⟩
  | inr i =>
    simp only [checkAddr_congr h, h.tIndice, h.mem, h.rDrv]
    refine ⟨trivial, mismo_updStatus ?_ _ _⟩
    obtain ⟨T, G, rfl, hT⟩ := Mismo.elim h
    exact ⟨rfl, hT⟩

lemma sysMem_congr (ebx : ℕ) : (sysMem ebx k').1 = (sysMem ebx k).1 ∧
    Mismo (sysMem ebx k).2 (sysMem ebx k').2 := by
  have hcon (pedido : ℕ) : conceder pedido k' = conceder pedido k := by
    unfold conceder Kernel.tssOf
    rw [h.rTareas, h.tIndice, h.cr3, h.mem]
  have hmm : k'.mm = k.mm := by rw [h.resto]
  unfold sysMem
  simp only [hcon, hmm]
  generalize (if ebx = 0 then buscarMem k.mm else ebx) = pedido
  split_ifs
  · exact ⟨rfl, h⟩
  · refine ⟨rfl, ?_⟩
    obtain ⟨T, G, rfl, hT⟩ := Mismo.elim h
    exact ⟨rfl, hT⟩
  · exact ⟨rfl, h⟩

lemma aceptar_congr (ebx call : ℕ) (f : Drv → Drv) (mem : Mem) :
    Mismo (aceptar ebx call f mem k) (aceptar ebx call f mem k') := by
  obtain ⟨T, G, rfl, hT⟩ := Mismo.elim h
  exact ⟨rfl, hT⟩

lemma respuesta_congr (i : ℕ) : respuesta i k' = respuesta i k := by
  unfold respuesta
  rw [h.rDrv, h.mem]

lemma sysRet_congr (ebx : ℕ) : Mismo (sysRet ebx k).2 (sysRet ebx k').2 := by
  cases hr : revisarRet ebx k with
  | some e =>
    rw [sysRet_rechazo hr, sysRet_rechazo ((revisarRet_congr h ebx).trans hr)]
    exact h
  | none =>
    rw [sysRet_acepta hr, sysRet_acepta ((revisarRet_congr h ebx).trans hr), h.rDrv, h.tIndice,
      h.rTareas, respuesta_congr h, campoRet_congr h]
    refine mismo_updStatus (mismo_updStatus ?_ _ _) _ _
    obtain ⟨T, G, hk, hT⟩ := Mismo.elim (mismo_conEax h
      (k.rTareas (k.rDrv (slotDe k.tIndice k.rDrv)).idRet).taskTss (campoRet ebx k))
    rw [hk]
    exact ⟨rfl, hT⟩

lemma pedido_congr (r : Regs) : Mismo (pedido r k).2 (pedido r k').2 := by
  unfold pedido sysRead sysWrite sysSeek
  simp only [revisarDrv_congr h, revisarBuf_congr h, checkAddr_congr h, h.rDrv, h.mem, h.tIndice]
  cases revisarDrv r.ebx k with
  | some e =>
    split_ifs
    · exact h
    · exact h
    · exact h
  | none =>
    cases revisarBuf r.ecx r.edx k with
    | some e =>
      split_ifs
      · exact h
      · exact h
      · exact aceptar_congr h _ _ _ _
    | none =>
      split_ifs
      · dsimp only
        exact aceptar_congr h r.ebx SYS_READ _ _
      · dsimp only
        exact aceptar_congr h r.ebx SYS_WRITE _ _
      · exact aceptar_congr h _ _ _ _

lemma sysOpen_guardar_congr (basura : ℕ → ℕ) (ebx ecx : ℕ) :
    Mismo (guardar (sysOpen basura ebx ecx k)) (guardar (sysOpen basura ebx ecx k')) := by
  refine mismo_guardar (sysOpen_congr h basura ebx ecx) ?_
  rw [sysOpen_snd, sysOpen_snd]
  exact h

/-- **A call does the same in both.** -/
theorem despachar_congr (basura : ℕ → ℕ) (r : Regs) :
    Mismo (despachar basura r k) (despachar basura r k') := by
  by_cases hp : Pide r.eax
  · rw [despachar_pide basura hp, despachar_pide basura hp]
    exact pedido_congr h r
  · simp only [Pide, not_or] at hp
    unfold despachar
    simp only [if_neg hp.1, if_neg hp.2.1, if_neg hp.2.2]
    split_ifs
    · exact sysOpen_guardar_congr h basura _ _
    · exact mismo_guardar (sysReg_congr h _).1 (sysReg_congr h _).2
    · exact sysRet_congr h _
    · unfold sysWait
      rw [h.tIndice]
      exact mismo_updStatus h _ _
    · exact mismo_guardar (sysMem_congr h _).1 (sysMem_congr h _).2
    · exact h

theorem retorno_congr (basura : ℕ → ℕ) (r : Regs) : retorno basura r k' = retorno basura r k := by
  unfold retorno
  simp only [h.rTareas, h.tIndice, h.rDrv, sysOpen_congr h, (sysReg_congr h _).1,
    (sysMem_congr h _).1, revisarRet_congr h, campoRet_congr h]

lemma setPort_congr (p : ℕ) : (setPort p k').1 = (setPort p k).1 ∧
    Mismo (setPort p k).2 (setPort p k').2 := by
  have hport : k'.rPort = k.rPort := by rw [h.resto]
  rw [setPort_eq, setPort_eq, hport, h.rTareas, h.tIndice]
  split
  · exact ⟨rfl, h⟩
  · refine ⟨rfl, mismo_updTss (f := fun s => { s with iobp := erase s.iobp p }) ?_ _
      fun s s' hs => ?_⟩
    · obtain ⟨T, G, rfl, hT⟩ := Mismo.elim h
      exact ⟨rfl, hT⟩
    · exact congrArg (fun s : Tss => { s with iobp := erase s.iobp p }) hs

lemma unsetPort_congr (p : ℕ) : (unsetPort p k').1 = (unsetPort p k).1 ∧
    Mismo (unsetPort p k).2 (unsetPort p k').2 := by
  have hport : k'.rPort = k.rPort := by rw [h.resto]
  rw [unsetPort_eq, unsetPort_eq, hport, h.rTareas, h.tIndice]
  refine ⟨rfl, mismo_updTss (f := fun s => { s with iobp := mark s.iobp p }) ?_ _
    fun s s' hs => ?_⟩
  · obtain ⟨T, G, rfl, hT⟩ := Mismo.elim h
    exact ⟨rfl, hT⟩
  · exact congrArg (fun s : Tss => { s with iobp := mark s.iobp p }) hs

lemma escribir_congr (t v : ℕ) (b : Byte) : Mismo (escribir t v b k) (escribir t v b k') := by
  unfold escribir Kernel.tssOf
  rw [h.rTareas, h.cr3, h.mem]
  split
  · obtain ⟨T, G, rfl, hT⟩ := Mismo.elim h
    exact ⟨rfl, hT⟩
  · exact h

lemma entrar_mismo (t : ℕ) (r : Regs) (ht : k.tIndice = t) : Mismo k (entrar t r k') := by
  obtain ⟨T, G, rfl, hT⟩ := Mismo.elim h
  subst ht
  refine ⟨rfl, fun q => ?_⟩
  rw [entrar_tss]
  split
  · next hq =>
    rw [hq]
    exact hT _
  · exact hT q

/-! ### What is touched -/

lemma revisar_congr (r : Regs) : revisar r k' = revisar r k := by
  unfold revisar
  rw [revisarDrv_congr h, revisarBuf_congr h]

lemma dirDe_congr (p : ℕ) : dirDe p k' = dirDe p k := by
  unfold dirDe Kernel.tssOf
  rw [h.rTareas, h.tIndice, h.cr3]

lemma tabDe_congr (p : ℕ) : tabDe p k' = tabDe p k := by
  unfold tabDe
  rw [dirDe_congr h, h.mem]

lemma toca_congr {x : ℕ} (hx : Toca r k' x) : Toca r k x := by
  have hmm : k'.mm = k.mm := by rw [h.resto]
  cases hx with
  | campo hp hr ho hj =>
    rw [revisar_congr h] at hr
    rw [h.rDrv]
    exact .campo hp hr ho hj
  | origen hw hr hj =>
    rw [revisar_congr h] at hr
    rw [h.rDrv] at hj
    rw [checkAddr_congr h, h.tIndice]
    exact .origen hw hr hj
  | destino hw hr hj =>
    rw [revisar_congr h] at hr
    rw [h.rDrv] at hj ⊢
    exact .destino hw hr hj
  | lee hret hr ha =>
    rw [revisarRet_congr h] at hr
    rw [respuesta_congr h, h.tIndice, h.rDrv] at ha
    exact .lee hret hr ha
  | copia hret hr ha =>
    rw [revisarRet_congr h] at hr
    rw [respuesta_congr h, h.tIndice, h.rDrv] at ha
    exact .copia hret hr ha
  | dir hm hp hj =>
    rw [hmm] at hp
    rw [dirDe_congr h]
    exact .dir hm hp hj
  | tabla hm hp hj =>
    rw [hmm] at hp
    rw [tabDe_congr h]
    exact .tabla hm hp hj

lemma enTablas_congr {x : ℕ} (hx : EnTablas k' x) : EnTablas k x := by
  unfold EnTablas Registry.Tarea Kernel.tssOf at hx
  simp only [h.rTareas, h.cr3, h.mem] at hx
  exact hx

/-- **A call touches the same bytes in both.** -/
theorem contenida_congr {kernelFin : ℕ} (hc : Contenida kernelFin r k) : Contenida kernelFin r k' :=
  ⟨hc.mapa, fun x hx => hc.imagen x (toca_congr h hx),
    fun hr x hx ht => hc.tablas hr x (toca_congr h hx) (enTablas_congr h ht)⟩

end

end Silicio.Congruence
