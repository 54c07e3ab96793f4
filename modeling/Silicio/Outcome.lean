import Silicio.Contained
import Silicio.Ports

/-!
What a task finds in `eax` after a call.

The dispatcher writes the results of three handlers to the caller's saved `eax` and drops the
others; besides, every answer writes to the `eax` of the task it is addressed to. So what the
task reads when it runs again is the last answer addressed to it, and only if there is none
what the dispatcher wrote. A request that is refused, or is for nothing, ends like one that has
been accepted and never answered.
-/

namespace Silicio.Outcome

open Silicio.Bitmap Silicio.Bytes Silicio.Defs Silicio.Registry Silicio.Runs Silicio.Syscall
open Silicio.Boot Silicio.Layout Silicio.Contained
open Silicio.View (tres_inv)
open Silicio.Ports (setPort unsetPort)

/-- What the handler of the call returns; `sys_wait` returns nothing. -/
def resultado (basura : ℕ → ℕ) (r : Regs) (k : Kernel) : Option ℤ :=
  if Pide r.eax then some (pedido r k).1
  else if r.eax = SYS_OPEN then some (sysOpen basura r.ebx r.ecx k).1
  else if r.eax = SYS_REG then some (sysReg r.ebx k).1
  else if r.eax = SYS_RET then some (sysRet r.ebx k).1
  else if r.eax = SYS_MEM then some (sysMem r.ebx k).1
  else none

/-- The slot and the `ret` field of the answer that task `u` gives by a call, if it gives one and
to a task on the TSS of `t`. -/
def dirigida (t u : ℕ) (r : Regs) (k : Kernel) : List (ℕ × ℕ) :=
  let i := slotDe u k.rDrv
  if r.eax = SYS_RET ∧ revisarRet r.ebx (entrar u r k) = none ∧
      (k.rTareas (k.rDrv i).idRet).taskTss = (k.rTareas t).taskTss then
    [(i, campoRet r.ebx (entrar u r k))]
  else []

/-- A step while task `t` does not run: another gets the processor; a task on another TSS calls;
a port is asked for or given back; a byte is stored. It keeps out of the tables of the kernel, and
is labelled with the answer to `t` that it gives. -/
inductive Otro (kernelFin t : ℕ) (k : Kernel) : List (ℕ × ℕ) → Kernel → Prop
  | turno (u : ℕ) : Otro kernelFin t k [] { k with tIndice := u }
  | llamada (basura : ℕ → ℕ) {u : ℕ} (r : Regs)
      (hu : (k.rTareas u).taskTss ≠ (k.rTareas t).taskTss)
      (hc : Contenida kernelFin r (entrar u r k)) :
      Otro kernelFin t k (dirigida t u r k) (llamar basura u r k)
  | setPort {p : ℕ} (hp : p < 8 * TSS_PORT) : Otro kernelFin t k [] (setPort p k).2
  | unsetPort {p : ℕ} (hp : p < 8 * TSS_PORT) : Otro kernelFin t k [] (unsetPort p k).2
  | escritura {u v : ℕ} (b : Byte) (hg : Guarda kernelFin u v k) :
      Otro kernelFin t k [] (escribir u v b k)

/-- Task `t` calls in `k`, keeping out of the tables as well, and runs again in `k'`, after the
answers `l` to it. -/
structure Vuelve (kernelFin : ℕ) (basura : ℕ → ℕ) (t : ℕ) (r : Regs) (k : Kernel)
    (l : List (ℕ × ℕ)) (k' : Kernel) : Prop where
  contenida : Contenida kernelFin r (entrar t r k)
  pasos : ∃ ls, Steps (Otro kernelFin t) (llamar basura t r k) ls k' ∧ ls.flatten = l
  corre : (k'.rTareas t).status = .running

def Aceptada (t : ℕ) (r : Regs) (k : Kernel) : Prop :=
  Pide r.eax ∧ revisar r (entrar t r k) = none

instance (t : ℕ) (r : Regs) (k : Kernel) : Decidable (Aceptada t r k) :=
  inferInstanceAs (Decidable (_ ∧ _))

/-- The call tells task `t` how it ended: `eax` holds the `ret` field of the first answer on the
slot that was asked, or, if no driver had to answer, what the handler returned. -/
def Informa (basura : ℕ → ℕ) (t : ℕ) (r : Regs) (k : Kernel) (l : List (ℕ × ℕ)) (k' : Kernel) :
    Prop :=
  match resultado basura r (entrar t r k) with
  | none => True
  | some e =>
    if Aceptada t r k then
      (l.find? fun a => a.1 == r.ebx).map Prod.snd = some (k'.tssOf t).eax
    else (k'.tssOf t).eax = registro e

/-- When the call tells how it ended: the last answer to `t`, of its own or of another's, says
what it should, or there is none and the dispatcher wrote the result. -/
def Llega (basura : ℕ → ℕ) (t : ℕ) (r : Regs) (k : Kernel) (l : List (ℕ × ℕ)) : Prop :=
  match resultado basura r (entrar t r k) with
  | none => True
  | some e =>
    if Aceptada t r k then
      ∃ a ∈ l.getLast?, (l.find? fun a => a.1 == r.ebx).map Prod.snd = some a.2
    else
      (∃ a ∈ (dirigida t t r k ++ l).getLast?, a.2 = registro e) ∨
        dirigida t t r k ++ l = [] ∧ ¬ Pide r.eax ∧ r.eax ≠ SYS_RET

variable {basura : ℕ → ℕ} {kernelFin t u : ℕ} {r : Regs} {k k' : Kernel} {l : List (ℕ × ℕ)}

def ultima (l : List (ℕ × ℕ)) (v : ℕ) : ℕ := (l.getLast?.map Prod.snd).getD v

@[simp] lemma ultima_nil (v : ℕ) : ultima [] v = v := rfl

lemma ultima_append (l l' : List (ℕ × ℕ)) (v : ℕ) :
    ultima (l ++ l') v = ultima l' (ultima l v) := by
  unfold ultima
  cases h : l'.getLast? with
  | none => rw [List.getLast?_eq_none_iff.mp h, List.append_nil]; rfl
  | some a => rw [List.getLast?_append, h]; rfl

/-! ### What is written to `eax` -/

lemma llamar_taskTss (basura : ℕ → ℕ) (u : ℕ) (r : Regs) (k : Kernel) (t : ℕ) :
    ((llamar basura u r k).rTareas t).taskTss = (k.rTareas t).taskTss :=
  (llamar_marco basura u r k).taskTss t

lemma llamar_otro (hu : (k.rTareas u).taskTss ≠ (k.rTareas t).taskTss) :
    ((llamar basura u r k).tssOf t).eax = ultima (dirigida t u r k) (k.tssOf t).eax := by
  have hent : (entrar u r k).tss (k.rTareas t).taskTss = k.tssOf t := by
    rw [entrar_tss, if_neg hu.symm]
    rfl
  rw [Kernel.tssOf, llamar_taskTss, llamar_eq, despachar_tss]
  unfold dirigida retorno
  by_cases hret : r.eax = SYS_RET
  · rw [if_neg (by rw [hret]; decide), if_neg (by rw [hret]; decide), if_neg (by rw [hret]; decide)]
    cases hrev : revisarRet r.ebx (entrar u r k) with
    | some e => simp [hent]
    | none =>
      simp only [hret, true_and, if_true, entrar_tIndice, entrar_rDrv, entrar_rTareas]
      by_cases hq : (k.rTareas (k.rDrv (slotDe u k.rDrv)).idRet).taskTss = (k.rTareas t).taskTss
      · rw [if_pos hq.symm, if_pos hq]
        rfl
      · rw [if_neg (Ne.symm hq), if_neg hq, hent]
        rfl
  · simp only [hret, false_and, if_false, entrar_tIndice, entrar_rTareas]
    split_ifs <;> simp [hu.symm, hent]

/-- A port changes the map of a TSS only. -/
lemma puerto_eax (q : Ptr) (m : ℕ → Byte) (f : (ℕ → Byte) → ℕ → Byte) (t : ℕ) :
    (({ k with rPort := m }.updTss q fun s => { s with iobp := f s.iobp }).tssOf t).eax =
      (k.tssOf t).eax := by
  simp only [Kernel.tssOf, updTss_tss, updTss_rTareas]
  split
  · next hq => rw [hq]
  · rfl

lemma otro_tssOf {a : List (ℕ × ℕ)} (h : Otro kernelFin t k a k') :
    (k'.tssOf t).eax = ultima a (k.tssOf t).eax := by
  cases h with
  | turno => rfl
  | llamada basura r hu => exact llamar_otro hu
  | @setPort p =>
    rw [Ports.setPort_eq]
    split
    · rfl
    · exact puerto_eax _ _ (fun m => erase m p) t
  | @unsetPort p =>
    rw [Ports.unsetPort_eq]
    exact puerto_eax _ _ (fun m => mark m p) t
  | escritura b =>
    unfold escribir
    split <;> rfl

lemma steps_tssOf {ls : List (List (ℕ × ℕ))} (h : Steps (Otro kernelFin t) k ls k') :
    (k'.tssOf t).eax = ultima ls.flatten (k.tssOf t).eax := by
  induction h with
  | nil => rfl
  | cons hs _ ih => rw [ih, otro_tssOf hs, List.flatten_cons, ultima_append]

lemma llamar_propio {e : ℤ} (he : resultado basura r (entrar t r k) = some e) :
    ((llamar basura t r k).tssOf t).eax =
      if Pide r.eax ∨ r.eax = SYS_RET then ultima (dirigida t t r k) r.eax else registro e := by
  have hent : ((entrar t r k).tss (k.rTareas t).taskTss).eax = r.eax := by
    rw [entrar_tss, if_pos rfl]
    rfl
  rw [Kernel.tssOf, llamar_taskTss, llamar_eq, despachar_tss]
  unfold resultado at he
  by_cases hp : Pide r.eax
  · have hno : retorno basura r (entrar t r k) = none ∧ dirigida t t r k = [] := by
      unfold retorno dirigida
      rcases hp with h | h | h <;> simp [h]
    rw [if_pos (Or.inl hp), hno.1, hno.2]
    exact hent
  · rw [if_neg hp] at he
    by_cases hret : r.eax = SYS_RET
    · rw [if_pos (Or.inr hret)]
      unfold retorno dirigida
      rw [if_neg (by rw [hret]; decide), if_neg (by rw [hret]; decide),
        if_neg (by rw [hret]; decide)]
      cases hrev : revisarRet r.ebx (entrar t r k) with
      | some e => simp [hent]
      | none =>
        simp only [hret, true_and, if_true, entrar_tIndice, entrar_rDrv, entrar_rTareas]
        by_cases hq : (k.rTareas (k.rDrv (slotDe t k.rDrv)).idRet).taskTss = (k.rTareas t).taskTss
        · rw [if_pos hq.symm, if_pos hq]
          rfl
        · rw [if_neg (Ne.symm hq), if_neg hq]
          exact hent.trans hret
    · rw [if_neg (not_or.mpr ⟨hp, hret⟩)]
      rw [if_neg hret] at he
      unfold retorno
      simp only [hret, false_and, if_false, entrar_tIndice, entrar_rTareas]
      split_ifs at he ⊢ <;> simp_all [conEax]

/-! ### The results of the calls whose result is dropped -/

lemma revisar_bounds (r : Regs) (k : Kernel) :
    -7 ≤ (revisar r k).getD 0 ∧ (revisar r k).getD 0 ≤ 0 := by
  unfold revisar revisarDrv revisarBuf
  split
  · next hd => split_ifs at hd <;> obtain rfl := Option.some.inj hd <;> decide
  · split_ifs <;> decide

lemma revisarRet_bounds (ebx : ℕ) (k : Kernel) :
    -7 ≤ (revisarRet ebx k).getD 0 ∧ (revisarRet ebx k).getD 0 ≤ 0 := by
  unfold revisarRet
  split_ifs <;> decide

/-- No result of a request or an answer is the number of the call. -/
lemma registro_ne {e : ℤ} (he : resultado basura r k = some e) (h : Pide r.eax ∨ r.eax = SYS_RET) :
    r.eax ≠ registro e := by
  have hb : -7 ≤ e ∧ e ≤ 0 := by
    unfold resultado at he
    rcases h with hp | hret
    · rw [if_pos hp, pedido_fst hp] at he
      obtain rfl := Option.some.inj he
      exact revisar_bounds r k
    · rw [if_neg (by rw [hret]; decide), if_neg (by rw [hret]; decide),
        if_neg (by rw [hret]; decide), if_pos hret, sysRet_fst] at he
      obtain rfl := Option.some.inj he
      exact revisarRet_bounds r.ebx k
  have hr : r.eax = 5 ∨ r.eax = 6 ∨ r.eax = 8 ∨ r.eax = 102 := by
    rcases h with (h | h | h) | h
    · exact Or.inl h
    · exact Or.inr (Or.inl h)
    · exact Or.inr (Or.inr (Or.inl h))
    · exact Or.inr (Or.inr (Or.inr h))
  unfold registro
  omega

/-- **The outcome of a call.** A task finds in `eax` what the call came to just when the last
answer addressed to it says so, or there is none and the dispatcher wrote it there. -/
theorem informa_iff (h : Vuelve kernelFin basura t r k l k') :
    Informa basura t r k l k' ↔ Llega basura t r k l := by
  obtain ⟨ls, hs, rfl⟩ := h.pasos
  unfold Informa Llega
  cases he : resultado basura r (entrar t r k) with
  | none => exact Iff.rfl
  | some e =>
    simp only
    rw [steps_tssOf hs, llamar_propio he]
    generalize ls.flatten = l
    by_cases hac : Aceptada t r k
    · have hno : dirigida t t r k = [] := by
        unfold dirigida
        rcases hac.1 with h | h | h <;> simp [h]
      rw [if_pos hac, if_pos hac, if_pos (Or.inl hac.1), hno, ultima_nil]
      unfold ultima
      cases hl : l.getLast? with
      | none => simp [List.getLast?_eq_none_iff.mp hl]
      | some a => simp
    · rw [if_neg hac, if_neg hac]
      by_cases hp : Pide r.eax ∨ r.eax = SYS_RET
      · have hne := registro_ne he hp
        rw [if_pos hp, ← ultima_append]
        unfold ultima
        cases hl : (dirigida t t r k ++ l).getLast? with
        | none =>
          refine iff_of_false hne ?_
          rintro (⟨a, ha, -⟩ | ⟨-, h1, h2⟩)
          · cases ha
          · exact hp.elim h1 h2
        | some a =>
          have hcons : dirigida t t r k ++ l ≠ [] := fun hx => by rw [hx] at hl; cases hl
          simp [hcons]
      · rw [if_neg hp]
        rw [not_or] at hp
        have hno : dirigida t t r k = [] := by
          unfold dirigida
          simp [hp.2]
        rw [hno, List.nil_append]
        unfold ultima
        cases hl : l.getLast? with
        | none => simp [List.getLast?_eq_none_iff.mp hl, hp.1, hp.2]
        | some a =>
          have hcons : l ≠ [] := fun hx => by rw [hx] at hl; cases hl
          simp [hcons]

/-! ### A call that reports and one that does not -/

/-- A call that leaves the caller running comes back to it at once. -/
lemma vuelve_enseguida (hc : Contenida kernelFin r (entrar t r k))
    (h : ((llamar basura t r k).rTareas t).status = .running) :
    Vuelve kernelFin basura t r k [] (llamar basura t r k) := ⟨hc, ⟨[], .nil _, rfl⟩, h⟩

lemma pedirMem_status (h : r.eax = SYS_MEM) (u : ℕ) :
    ((llamar basura t r k).rTareas u).status = (k.rTareas u).status := by
  rw [llamar_mem _ _ _ h, guardar, updTss_rTareas, (sysMem_resto _).2.2.1, entrar_rTareas]

lemma llega_enseguida (hp : ¬ Pide r.eax) (hr : r.eax ≠ SYS_RET) : Llega basura t r k [] := by
  unfold Llega
  cases resultado basura r (entrar t r k) with
  | none => exact trivial
  | some e =>
    have hno : dirigida t t r k = [] := if_neg fun h => hr h.1
    simp only [if_neg fun h : Aceptada t r k => hp h.1]
    exact Or.inr ⟨by rw [hno, List.append_nil], hp, hr⟩

/-- A task that asks for a page finds it in `eax`. -/
theorem informa_pagina : Informa (fun _ => 0) 3 ⟨SYS_MEM, 5000, 0, 0⟩ (nucleoTres 3) []
    (llamar (fun _ => 0) 3 ⟨SYS_MEM, 5000, 0, 0⟩ (nucleoTres 3)) := by
  have hst : ((nucleoTres 3).rTareas 3).status = .running :=
    (nucleoTres_spec le_rfl).2.2.2 0 (by decide)
  refine (informa_iff (vuelve_enseguida (contenida_mem tres_inv tres_ventana
    (tres_tarea (by decide)) rfl (by decide)) ?_)).mpr (llega_enseguida (by decide) (by decide))
  rw [pedirMem_status rfl]
  exact hst

lemma pedido_sin_aviso (h : Pide r.eax) {e : ℤ} (hrev : revisar r (entrar t r k) = some e) :
    resultado basura r (entrar t r k) = some e ∧
      ((llamar basura t r k).rTareas t).status = (k.rTareas t).status ∧
      ((llamar basura t r k).tssOf t).eax = r.eax ∧
      ¬ Informa basura t r k [] (llamar basura t r k) := by
  have he : resultado basura r (entrar t r k) = some e := by
    rw [resultado, if_pos h, pedido_rechazo h hrev]
  have hno : dirigida t t r k = [] := by
    unfold dirigida
    rcases h with h | h | h <;> simp [h]
  have heax : ((llamar basura t r k).tssOf t).eax = r.eax := by
    rw [llamar_propio he, if_pos (Or.inl h), hno, ultima_nil]
  refine ⟨he, ?_, heax, fun hi => registro_ne he (Or.inl h) ?_⟩
  · rw [llamar_eq, despachar_pide _ h, pedido_rechazo h hrev, entrar_rTareas]
  · unfold Informa at hi
    rw [he] at hi
    simp only at hi
    rw [if_neg fun ha => by rw [ha.2] at hrev; cases hrev] at hi
    exact heax.symm.trans hi

/-- Task 3 reads from a slot that does not exist: `sys_read` returns -1, and the task finds the
number of the call. -/
theorem lectura_sin_aviso : Arranque enlace (nucleoTres 3) ∧ Tarea (nucleoTres 3) 3 ∧
    resultado (fun _ => 0) ⟨SYS_READ, 10, 0, 0⟩
      (entrar 3 ⟨SYS_READ, 10, 0, 0⟩ (nucleoTres 3)) = some (-1) ∧
    Vuelve 0x16cb61 (fun _ => 0) 3 ⟨SYS_READ, 10, 0, 0⟩ (nucleoTres 3) []
      (llamar (fun _ => 0) 3 ⟨SYS_READ, 10, 0, 0⟩ (nucleoTres 3)) ∧
    ((llamar (fun _ => 0) 3 ⟨SYS_READ, 10, 0, 0⟩ (nucleoTres 3)).tssOf 3).eax = SYS_READ ∧
    ¬ Informa (fun _ => 0) 3 ⟨SYS_READ, 10, 0, 0⟩ (nucleoTres 3) []
      (llamar (fun _ => 0) 3 ⟨SYS_READ, 10, 0, 0⟩ (nucleoTres 3)) := by
  obtain ⟨-, harr, -, hst⟩ := nucleoTres_spec le_rfl
  have hrev : revisar ⟨SYS_READ, 10, 0, 0⟩ (entrar 3 ⟨SYS_READ, 10, 0, 0⟩ (nucleoTres 3)) =
      some (-1) := rfl
  obtain ⟨he, hs, heax, hno⟩ := @pedido_sin_aviso (fun _ => 0) _ _ _ (Or.inl rfl) _ hrev
  have hc : Contenida 0x16cb61 ⟨SYS_READ, 10, 0, 0⟩
      (entrar 3 ⟨SYS_READ, 10, 0, 0⟩ (nucleoTres 3)) := contenida_rechazo (Or.inl rfl) hrev
  exact ⟨harr, tres_tarea (by decide), he, vuelve_enseguida hc (hs.trans (hst 0 (by decide))), heax,
    hno⟩

end Silicio.Outcome
