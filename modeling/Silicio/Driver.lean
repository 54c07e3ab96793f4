import Silicio.Protocol
import Silicio.View

/-!
The driver slots as an instance of the request protocol.

A slot of `r_drv` is served by the task in `id_drv` and answers the task in `id_ret`; the
status of a task is its phase. Each system call is one step of the protocol, and what a run
remembers tells the drivers that wait for a request, because they registered or have answered
the last one, from the tasks that wait for anything else. `sys_read`, `sys_write` and
`sys_seek` look at the status only, so they also take a driver that waits in the middle of a
request for one that is free.
-/

namespace Silicio.Driver

open Silicio.Loop Silicio.Bitmap Silicio.Bytes Silicio.Defs Silicio.Mm Silicio.Mmu
open Silicio.Registry Silicio.Runs Silicio.Protocol Silicio.Syscall Silicio.Layout Silicio.View

/-! ### The abstraction -/

def faseDe : Status → Fase
  | .running => .corre
  | .waiting => .espera
  | _ => .otra

def estado (k : Kernel) : Estado ℕ ℕ where
  fase t := faseDe (k.rTareas t).status
  dueno i := if i < MAX_DRIVERS ∧ (k.rDrv i).idDrv ≠ 0 then some (k.rDrv i).idDrv else none
  cliente i := (k.rDrv i).idRet

def accion (r : Regs) (k : Kernel) : Accion ℕ ℕ :=
  if Pide r.eax then
    match revisar r k with
    | none => .pedir r.ebx (k.rDrv r.ebx).idDrv
    | some _ => .nada
  else if r.eax = SYS_REG then
    match revisarReg r.ebx k with
    | .inr i => .registrar i
    | .inl _ => .nada
  else if r.eax = SYS_RET then
    match revisarRet r.ebx k with
    | none => .contestar (slotDe k.tIndice k.rDrv)
    | some _ => .nada
  else if r.eax = SYS_WAIT then .dormir
  else .nada

variable {k k' : Kernel} {r : Regs} {t : ℕ}

lemma faseDe_corre {e : Status} : faseDe e = .corre ↔ e = .running := by
  cases e <;> simp [faseDe]

lemma faseDe_espera {e : Status} : faseDe e = .espera ↔ e = .waiting := by
  cases e <;> simp [faseDe]

lemma dueno_eq_some {i d : ℕ} :
    (estado k).dueno i = some d ↔ i < MAX_DRIVERS ∧ d ≠ 0 ∧ (k.rDrv i).idDrv = d := by
  simp only [estado]
  constructor
  · intro h
    split at h
    · next hi =>
      obtain rfl := Option.some.inj h
      exact ⟨hi.1, hi.2, rfl⟩
    · cases h
  · rintro ⟨hi, hd, rfl⟩
    exact if_pos ⟨hi, hd⟩

lemma fase_updStatus (k : Kernel) (t : ℕ) (e : Status) :
    (estado (k.updStatus t e)).fase = Function.update (estado k).fase t (faseDe e) := by
  funext u
  simp only [estado, updStatus_status, Function.update_apply]
  split <;> rfl

lemma estado_congr (hst : k'.rTareas = k.rTareas) (hd : k'.rDrv = k.rDrv) :
    estado k' = estado k := by
  unfold estado
  rw [hst, hd]

lemma estado_aceptar {ebx call : ℕ} {f : Drv → Drv} {mem : Mem} (hf : ∀ d, (f d).idDrv = d.idDrv) :
    estado (aceptar ebx call f mem k) =
      paso (estado k) k.tIndice (.pedir ebx (k.rDrv ebx).idDrv) := by
  refine Estado.ext ?_ (funext fun i => ?_) (funext fun i => ?_)
  · calc (estado (aceptar ebx call f mem k)).fase
        = (estado ((k.updStatus k.tIndice .waiting).updStatus (k.rDrv ebx).idDrv .running)).fase :=
          rfl
      _ = _ := by rw [fase_updStatus, fase_updStatus]; rfl
  · have hi : ((aceptar ebx call f mem k).rDrv i).idDrv = (k.rDrv i).idDrv := by
      unfold aceptar
      rw [updDrv_rDrv]
      split
      · next h => rw [h]; exact hf _
      · rfl
    simp only [estado, hi, paso]
  · unfold aceptar
    simp only [estado, updDrv_rDrv, paso, Function.update_apply]
    split <;> rfl

/-! ### A call is a step -/

/-- A slot that `sys_reg` takes is free, and not one of the first three. -/
lemma revisarReg_inr {ebx i : ℕ} (h : revisarReg ebx k = .inr i) :
    3 ≤ i ∧ i < MAX_DRIVERS ∧ (k.rDrv i).idDrv = 0 ∧
      ∀ j, 3 ≤ j → j < MAX_DRIVERS → (k.rDrv j).idDrv ≠ k.tIndice := by
  unfold revisarReg at h
  simp only at h
  split_ifs at h with h1 h2
  obtain rfl := Sum.inr.inj h
  set p : ℕ → Bool := fun i => (k.rDrv i).idDrv == 0 with hp
  have hle := scan_le (p := p) (MAX_DRIVERS - 3) 3
  have hlt : scan p (MAX_DRIVERS - 3) 3 < 3 + (MAX_DRIVERS - 3) := by
    simp only [MAX_DRIVERS] at h2 hle ⊢
    omega
  refine ⟨le_scan _ _, hlt, ?_, fun j h3 hj => ?_⟩
  · have := at_scan hlt
    rw [hp] at this
    simpa using this
  · have := before_scan (p := fun i => (k.rDrv i).idDrv == k.tIndice) (n := MAX_DRIVERS - 3) h3
      (lt_of_lt_of_le hj (not_lt.mp h1))
    simpa using this

lemma revisarReg_visto {ebx i : ℕ} (h : revisarReg ebx k = .inr i) :
    checkAddr ebx k.tIndice k ≠ 0 ∧
      checkAddr (rd32 k.mem (checkAddr ebx k.tIndice k + PARAM_ARCH)) k.tIndice k ≠ 0 ∧
      checkAddr (rd32 k.mem (checkAddr ebx k.tIndice k + PARAM_BUF)) k.tIndice k ≠ 0 ∧
      rd32 k.mem (checkAddr ebx k.tIndice k + PARAM_SIZE) ≤ 4096 := by
  unfold revisarReg at h
  simp only at h
  split_ifs at h with h1 h2 h3 h4 h5 h6 h7
  exact ⟨h3, h4, h5, by omega⟩

lemma estado_sysReg {ebx i : ℕ} (ht : k.tIndice ≠ 0) (h : revisarReg ebx k = .inr i) :
    estado (sysReg ebx k).2 = paso (estado k) k.tIndice (.registrar i) := by
  have hi := (revisarReg_inr h).2.1
  unfold sysReg
  rw [h]
  refine Estado.ext ?_ (funext fun j => ?_) (funext fun j => ?_)
  · rw [fase_updStatus]
    rfl
  · simp only [estado, paso, Function.update_apply, Kernel.updStatus, updRun_rDrv, updDrv_rDrv]
    rcases eq_or_ne j i with rfl | hne
    · rw [if_pos rfl, if_pos rfl]
      exact if_pos ⟨hi, ht⟩
    · rw [if_neg hne, if_neg hne]
  · simp only [estado, paso, Function.update_apply, Kernel.updStatus, updRun_rDrv, updDrv_rDrv]
    split <;> rfl

lemma estado_sysRet {ebx : ℕ} (h : revisarRet ebx k = none) : estado (sysRet ebx k).2 =
    paso (estado k) k.tIndice (.contestar (slotDe k.tIndice k.rDrv)) := by
  rw [sysRet_acepta h]
  refine Estado.ext ?_ rfl rfl
  rw [fase_updStatus, fase_updStatus]
  rfl

/-- **Each call is a step of the protocol.** -/
theorem estado_despachar (basura : ℕ → ℕ) (ht : k.tIndice ≠ 0) :
    estado (despachar basura r k) = paso (estado k) k.tIndice (accion r k) := by
  by_cases hp : Pide r.eax
  · rw [despachar_pide basura hp, accion, if_pos hp]
    cases hr : revisar r k with
    | some e => rw [pedido_rechazo hp hr]; rfl
    | none =>
      obtain ⟨mem, buf, he⟩ := pedido_aceptado hp hr
      simp only [he]
      exact estado_aceptar fun _ => rfl
  · rw [accion, if_neg hp]
    simp only [Pide, not_or] at hp
    unfold despachar
    rw [if_neg hp.1, if_neg hp.2.1, if_neg hp.2.2]
    by_cases h1 : r.eax = SYS_OPEN
    · rw [if_pos h1, if_neg (by rw [h1]; decide), if_neg (by rw [h1]; decide),
        if_neg (by rw [h1]; decide)]
      exact estado_congr (by rw [guardar, updTss_rTareas, sysOpen_snd])
        (by rw [guardar, updTss_rDrv, sysOpen_snd])
    · rw [if_neg h1]
      by_cases h2 : r.eax = SYS_REG
      · rw [if_pos h2, if_pos h2]
        calc estado (guardar (sysReg r.ebx k)) = estado (sysReg r.ebx k).2 := rfl
          _ = _ := by
            cases hr : revisarReg r.ebx k with
            | inl e => unfold sysReg; rw [hr]; rfl
            | inr i => exact estado_sysReg ht hr
      · rw [if_neg h2, if_neg h2]
        by_cases h3 : r.eax = SYS_RET
        · rw [if_pos h3, if_pos h3]
          cases hr : revisarRet r.ebx k with
          | some e => rw [sysRet_rechazo hr]; rfl
          | none => exact estado_sysRet hr
        · rw [if_neg h3, if_neg h3]
          by_cases h4 : r.eax = SYS_WAIT
          · rw [if_pos h4, if_pos h4]
            exact Estado.ext (fase_updStatus _ _ _) rfl rfl
          · rw [if_neg h4, if_neg h4]
            obtain ⟨-, hd, hst, -⟩ := sysMem_resto (k := k) r.ebx
            split
            · exact estado_congr hst hd
            · rfl

/-! ### The calls in a run -/

/-- A call of task `t` is an accepted request on slot `i`. -/
def Acepta (t : ℕ) (r : Regs) (k : Kernel) (i : ℕ) : Prop :=
  Pide r.eax ∧ revisar r (entrar t r k) = none ∧ r.ebx = i

def Responde (t : ℕ) (r : Regs) (k : Kernel) (i : ℕ) : Prop :=
  r.eax = SYS_RET ∧ revisarRet r.ebx (entrar t r k) = none ∧ slotDe t k.rDrv = i

lemma accion_pedir {i d : ℕ} :
    accion r k = .pedir i d ↔
      Pide r.eax ∧ revisar r k = none ∧ r.ebx = i ∧ (k.rDrv i).idDrv = d := by
  unfold accion
  constructor
  · intro h
    split at h
    · next hp =>
      split at h
      · next hr =>
        obtain ⟨rfl, rfl⟩ := Accion.pedir.inj h
        exact ⟨hp, hr, rfl, rfl⟩
      · cases h
    · split_ifs at h <;> (try split at h) <;> cases h
  · rintro ⟨hp, hr, rfl, rfl⟩
    rw [if_pos hp, hr]

lemma accion_contestar {i : ℕ} : accion r k = .contestar i ↔
    r.eax = SYS_RET ∧ revisarRet r.ebx k = none ∧ slotDe k.tIndice k.rDrv = i := by
  unfold accion
  constructor
  · intro h
    split at h
    · split at h <;> cases h
    · split_ifs at h with h1 h2
      · split at h <;> cases h
      · split at h
        · next hr => exact ⟨h2, hr, Accion.contestar.inj h⟩
        · cases h
  · rintro ⟨he, hr, rfl⟩
    have hp : ¬ Pide r.eax := by
      rw [he]
      decide
    rw [if_neg hp, if_neg (by rw [he]; decide), if_pos he, hr]

lemma accion_registrar {i : ℕ} :
    accion r k = .registrar i ↔ r.eax = SYS_REG ∧ revisarReg r.ebx k = .inr i := by
  unfold accion
  constructor
  · intro h
    split at h
    · split at h <;> cases h
    · split_ifs at h with h1
      · split at h
        · next hr => exact ⟨h1, by rw [hr, Accion.registrar.inj h]⟩
        · cases h
      · split at h <;> cases h
  · rintro ⟨he, hr⟩
    have hp : ¬ Pide r.eax := by
      rw [he]
      decide
    rw [if_neg hp, if_pos he, hr]

lemma estado_entrar (t : ℕ) (r : Regs) (k : Kernel) : estado (entrar t r k) = estado k :=
  estado_congr rfl rfl

lemma estado_llamar (basura : ℕ → ℕ) (ht : t ≠ 0) :
    estado (llamar basura t r k) = paso (estado k) t (accion r (entrar t r k)) := by
  rw [llamar_eq, estado_despachar basura (by rwa [entrar_tIndice])]
  rfl

abbrev Historia := Memoria ℕ ℕ

/-- What happens in a run: task `t` calls with registers `r`, or a task stores a byte. -/
inductive Evento
  | llamada (t : ℕ) (r : Regs)
  | escritura

inductive Paso : Kernel × Historia → Evento → Kernel × Historia → Prop
  | llamada {k : Kernel} {g : Historia} {t : ℕ} {r : Regs} (basura : ℕ → ℕ) (ht : Tarea k t)
      (hr : (k.rTareas t).status = .running) :
      Paso (k, g) (.llamada t r) (llamar basura t r k, g.anotar t (accion r (entrar t r k)))
  | escritura {k : Kernel} {g : Historia} {t : ℕ} (v : ℕ) (b : Byte) (ht : Tarea k t)
      (hr : (k.rTareas t).status = .running) : Paso (k, g) .escritura (escribir t v b k, g)

def Inicial (l : Link) (s : Kernel × Historia) : Prop := Arranque l s.1 ∧ s.2 = .vacia

/-- The call, if it is an accepted request, goes to a driver that waits for one: it waits
because it registered or answered. -/
def Libre (s : Kernel × Historia) : Evento → Prop
  | .llamada t r => ∀ i, Acepta t r s.1 i → s.2.ocioso (s.1.rDrv i).idDrv
  | .escritura => True

/-- What a call of task `t` may do while requests are pending: a request it does not answer
keeps its slot, its client and the client's `eax`; what it wakes or writes by an answer is the
client of the slot. -/
structure Cumple (g : Historia) (t : ℕ) (r : Regs) (k k' : Kernel) : Prop where
  sigue : ∀ i c, g.pend i = some c → ¬ Responde t r k i →
    (k'.rDrv i).idRet = c ∧ (k'.rTareas c).status = .waiting ∧ ¬ Acepta t r k i ∧
      (k'.tssOf c).eax = (k.tssOf c).eax
  contesta : ∀ i, Responde t r k i → g.pend i = some (k.rDrv i).idRet
  toca : r.eax = SYS_RET → ∀ u, Tarea k u → u ≠ t →
    (k'.rTareas u).status ≠ (k.rTareas u).status ∨ (k'.tssOf u).eax ≠ (k.tssOf u).eax →
      g.pend (slotDe t k.rDrv) = some u

/-! ### The invariant -/

/-- After `n` loads: the slots are as the protocol wants them, the first three are nobody's,
slot 0 of the tasks does not run, and clients are tasks. -/
structure Inv (n : ℕ) (k : Kernel) (g : Historia) : Prop where
  registro : Registro n k
  proto : Protocol.Inv (estado k) g
  fijos : ∀ i < 3, (estado k).dueno i = none
  cero : Tarea k 0 → (estado k).fase 0 ≠ .corre
  clientes : ∀ i c, g.pend i = some c → Tarea k c ∧ c ≠ 0

variable {n : ℕ} {g : Historia}

lemma Inv.ne_zero (h : Inv n k g) (ht : Tarea k t) (hr : (k.rTareas t).status = .running) :
    t ≠ 0 := by
  rintro rfl
  exact h.cero ht (faseDe_corre.mpr hr)

lemma slotDe_lt {r : ℕ → Drv} (h : slotDe t r ≠ MAX_DRIVERS) :
    slotDe t r < MAX_DRIVERS ∧ (r (slotDe t r)).idDrv = t := by
  have hle := scan_le (p := fun i => (r i).idDrv == t) MAX_DRIVERS 0
  have hlt : scan (fun i => (r i).idDrv == t) MAX_DRIVERS 0 < 0 + MAX_DRIVERS := by
    unfold slotDe at h
    omega
  have := at_scan hlt
  refine ⟨by unfold slotDe; omega, by simpa [slotDe] using this⟩

lemma revisarDrv_none {ebx : ℕ} (h : revisarDrv ebx k = none) : ebx < MAX_DRIVERS ∧
    (k.rDrv ebx).idDrv ≠ 0 ∧ (k.rTareas (k.rDrv ebx).idDrv).status = .waiting := by
  unfold revisarDrv at h
  split_ifs at h with h1 h2 h3
  exact ⟨by omega, h2, by simpa using h3⟩

lemma revisarRet_none {ebx : ℕ} (h : revisarRet ebx k = none) :
    slotDe k.tIndice k.rDrv ≠ MAX_DRIVERS ∧ checkAddr ebx k.tIndice k ≠ 0 := by
  unfold revisarRet at h
  split_ifs at h with h1 h2
  exact ⟨h1, h2⟩

/-- The code's own checks make every call a step the protocol allows. -/
lemma Inv.puede (h : Inv n k g) (ht : Tarea k t) (hr : (k.rTareas t).status = .running) :
    Puede (estado k) t (accion r (entrar t r k)) := by
  have h0 := h.ne_zero ht hr
  refine ⟨faseDe_corre.mpr hr, fun i hi => ?_, fun i d hi => ?_, fun i hi => ?_⟩
  · obtain ⟨h3, h10, hz, hno⟩ := revisarReg_inr (accion_registrar.mp hi).2
    refine ⟨if_neg fun hc => hc.2 hz, fun j hj => ?_⟩
    obtain ⟨hj10, -, hjt⟩ := dueno_eq_some.mp hj
    rcases Nat.lt_or_ge j 3 with hlt | hge
    · rw [h.fijos j hlt] at hj
      cases hj
    · exact hno j hge hj10 hjt
  · obtain ⟨-, hrev, rfl, rfl⟩ := accion_pedir.mp hi
    obtain ⟨h10, hne, hw⟩ := revisarDrv_none (revisar_drv hrev)
    exact ⟨dueno_eq_some.mpr ⟨h10, hne, rfl⟩, faseDe_espera.mpr hw⟩
  · obtain ⟨-, hrev, rfl⟩ := accion_contestar.mp hi
    obtain ⟨h10, hid⟩ := slotDe_lt (revisarRet_none hrev).1
    exact dueno_eq_some.mpr ⟨h10, h0, hid⟩

lemma ociosa_iff : Ociosa g (accion r (entrar t r k)) ↔ Libre (k, g) (.llamada t r) := by
  constructor
  · intro h i ⟨hp, hr, hi⟩
    exact h i _ (accion_pedir.mpr ⟨hp, hr, hi, rfl⟩)
  · intro h i d hi
    obtain ⟨hp, hr, hi', rfl⟩ := accion_pedir.mp hi
    exact h i ⟨hp, hr, hi'⟩

/-- **The step lemma**: a call whose request, if it is one, goes to a driver that waits for
requests. -/
theorem Inv.llamada (h : Inv n k g) (ht : Tarea k t) (hr : (k.rTareas t).status = .running)
    (hl : Libre (k, g) (.llamada t r)) (basura : ℕ → ℕ) :
    Inv n (llamar basura t r k) (g.anotar t (accion r (entrar t r k))) := by
  have h0 := h.ne_zero ht hr
  have hp := h.puede (r := r) ht hr
  have he := estado_llamar (k := k) (r := r) basura h0
  have hm := llamar_marco basura t r k
  have hcli : ∀ i c, (g.anotar t (accion r (entrar t r k))).pend i = some c →
      Tarea k c ∧ c ≠ 0 := by
    intro i c hc
    cases hac : accion r (entrar t r k) with
    | pedir j d =>
      simp only [hac, Memoria.anotar, Function.update_apply] at hc
      split at hc
      · obtain rfl := Option.some.inj hc
        exact ⟨ht, h0⟩
      · exact h.clientes i c hc
    | contestar j =>
      simp only [hac, Memoria.anotar, Function.update_apply] at hc
      split at hc
      · cases hc
      · exact h.clientes i c hc
    | _ =>
      rw [hac] at hc
      exact h.clientes i c hc
  refine ⟨hm.registro h.registro, ?_, fun i hi => ?_, fun hz => ?_,
    fun i c hc => ⟨(hm.tarea c).mpr (hcli i c hc).1, (hcli i c hc).2⟩⟩
  · rw [he]
    exact h.proto.paso hp (ociosa_iff.mpr hl)
  · rw [he]
    cases hac : accion r (entrar t r k) with
    | registrar j =>
      have hj := (revisarReg_inr (accion_registrar.mp hac).2).1
      exact (Function.update_of_ne (by omega) _ _).trans (h.fijos i hi)
    | _ => exact h.fijos i hi
  · intro hc
    rw [he] at hc
    rcases paso_corre hc with h1 | ⟨i, h1⟩ | ⟨i, h1, h2⟩
    · exact h.cero ((hm.tarea 0).mp hz) h1
    · exact (dueno_eq_some.mp (hp.pedir i 0 h1).1).2.1 rfl
    · obtain ⟨c, hpc⟩ := h.proto.pend_of_corre (hp.contestar i h1) hp.corre
      exact (h.clientes i c hpc).2 ((h.proto.cliente i c hpc).1.symm.trans h2)

/-! ### One call while requests are pending -/

lemma accion_contestar_iff {i : ℕ} :
    accion r (entrar t r k) = .contestar i ↔ Responde t r k i := accion_contestar

lemma llamar_tssOf (basura : ℕ → ℕ) (h : Registro n k) (ht : Tarea k t) {u : ℕ} (hu : Tarea k u)
    (hne : u ≠ t) (hno : ∀ i, Responde t r k i → (k.rTareas (k.rDrv i).idRet).taskTss ≠ some u) :
    (llamar basura t r k).tssOf u = k.tssOf u := by
  have hq : (some u : Ptr) ≠ (k.rTareas t).taskTss := by
    rw [h.taskTss ht]
    simpa using hne
  rw [Kernel.tssOf, (llamar_marco basura t r k).taskTss, h.tssOf hu, h.taskTss hu, llamar_eq,
    despachar_tss]
  have hent : (entrar t r k).tss (some u) = k.tss (some u) := by rw [entrar_tss, if_neg hq]
  unfold retorno
  split
  · next p v hret =>
    have hp : some u ≠ p := by
      split_ifs at hret with h1 h2 h3 h4
      · rintro rfl
        exact hq (congrArg Prod.fst (Option.some.inj hret)).symm
      · rintro rfl
        exact hq (congrArg Prod.fst (Option.some.inj hret)).symm
      · rintro rfl
        exact hq (congrArg Prod.fst (Option.some.inj hret)).symm
      · rintro rfl
        exact hno _ ⟨h4.1, h4.2, rfl⟩ (congrArg Prod.fst (Option.some.inj hret))
    rw [if_neg hp, hent]
  · exact hent

lemma llamar_ret_status (basura : ℕ → ℕ) (h : r.eax = SYS_RET) (u : ℕ) :
    ((llamar basura t r k).rTareas u).status = (k.rTareas u).status ∨ u = t ∨
      ∃ i, Responde t r k i ∧ u = (k.rDrv i).idRet := by
  rw [llamar_eq, despachar_ret basura h]
  cases hrev : revisarRet r.ebx (entrar t r k) with
  | some e =>
    rw [sysRet_rechazo hrev]
    exact Or.inl rfl
  | none =>
    rw [sysRet_acepta hrev, updStatus_status]
    split
    · next hu => exact Or.inr (Or.inl hu)
    · rw [updStatus_status]
      split
      · next hu => exact Or.inr (Or.inr ⟨_, ⟨h, hrev, rfl⟩, hu⟩)
      · exact Or.inl rfl

/-- **One call**: it respects the pending requests just when its own, if it makes one, goes to
a driver that waits for requests. -/
theorem Inv.cumple_iff (h : Inv n k g) (ht : Tarea k t) (hr : (k.rTareas t).status = .running)
    (basura : ℕ → ℕ) :
    Cumple g t r k (llamar basura t r k) ↔ Libre (k, g) (.llamada t r) := by
  have h0 := h.ne_zero ht hr
  have hp := h.puede (r := r) ht hr
  have he := estado_llamar (k := k) (r := r) basura h0
  rw [← ociosa_iff, ← h.proto.segura_iff hp]
  constructor
  · intro hc
    refine ⟨fun i c hpi hne => ?_, fun i hi => hc.contesta i (accion_contestar_iff.mp hi)⟩
    obtain ⟨h1, h2, h3, -⟩ := hc.sigue i c hpi fun hx => hne (accion_contestar_iff.mpr hx)
    rw [← he]
    refine ⟨h1, faseDe_espera.mpr h2, h.proto.ne_of_corre hpi hp.corre, fun d hd => h3 ?_⟩
    obtain ⟨h4, h5, h6, -⟩ := accion_pedir.mp hd
    exact ⟨h4, h5, h6⟩
  · intro hs
    have hcont : ∀ i, Responde t r k i → g.pend i = some (k.rDrv i).idRet := fun i hi =>
      hs.contesta i (accion_contestar_iff.mpr hi)
    have htss : ∀ i, Responde t r k i →
        (k.rTareas (k.rDrv i).idRet).taskTss = some (k.rDrv i).idRet := fun i hi =>
      h.registro.taskTss (h.clientes i _ (hcont i hi)).1
    refine ⟨fun i c hpi hne => ?_, hcont, fun heax u hu hut hch => ?_⟩
    · obtain ⟨h1, h2, h3, h4⟩ := hs.sigue i c hpi fun hx => hne (accion_contestar_iff.mp hx)
      rw [← he] at h1 h2
      refine ⟨h1, faseDe_espera.mp h2, fun hx => ?_, ?_⟩
      · exact h4 _ (accion_pedir.mpr ⟨hx.1, hx.2.1, hx.2.2, rfl⟩)
      · rw [llamar_tssOf basura h.registro ht (h.clientes i c hpi).1 h3]
        -- another slot has another client
        intro j hj hjc
        rw [htss j hj] at hjc
        have hpj := hcont j hj
        rw [Option.some.inj hjc] at hpj
        obtain rfl := h.proto.solo i j c hpi hpj
        exact hne hj
    · by_contra hno
      have hother : ∀ i, Responde t r k i → u ≠ (k.rDrv i).idRet := by
        rintro i hi rfl
        exact hno ((congrArg g.pend hi.2.2).trans (hcont i hi))
      rcases hch with hch | hch
      · rcases llamar_ret_status basura heax u with h1 | h1 | ⟨i, hi, h1⟩
        · exact hch h1
        · exact hut h1
        · exact hother i hi h1
      · refine hch (congrArg Tss.eax (llamar_tssOf basura h.registro ht hu hut fun i hi hx => ?_))
        rw [htss i hi] at hx
        exact hother i hi (Option.some.inj hx).symm

/-! ### Runs -/

/-- What a boot leaves for the protocol: no driver, and slot 0 of the tasks not running. -/
lemma prepara_cero {l : Link} (hs : Prepara l k k') (hcero : Tarea k 0 → (estado k).fase 0 ≠ .corre)
    (hz : Tarea k' 0) : (estado k').fase 0 ≠ .corre := by
  have hcar : ∀ cs ds start fin name, k' = (Tasks.cargar cs ds l start fin name k).2 →
      k'.rTareas 0 = k.rTareas 0 := by
    rintro cs ds start fin name rfl
    by_cases ha : Tasks.Admite start fin k
    · rw [Tasks.cargar_rTareas _ _ _ _ ha, Function.update_of_ne (Ne.symm ha.1)]
    · rw [Tasks.cargar_rechazo _ _ _ _ ha]
  have hsame : k'.rTareas 0 = k.rTareas 0 → (estado k').fase 0 ≠ .corre := by
    intro he
    have hz' : Tarea k 0 := ⟨hz.1, he ▸ hz.2⟩
    simp only [estado, he]
    exact hcero hz'
  cases hs with
  | iniPag => exact hsame rfl
  | execs start pila name =>
    rcases eq_or_ne (Tasks.tareaLibre k.rTareas) 0 with h0 | h0
    · simp only [estado, Tasks.execs, h0, Function.update_self]
      decide
    · refine hsame ?_
      simp only [Tasks.execs]
      rw [Function.update_of_ne (Ne.symm h0)]
  | exec => exact hsame (hcar _ _ _ _ _ rfl)
  | execd => exact hsame (hcar _ _ _ _ _ rfl)

lemma arranque_inv {l : Link} (h : Arranque l k) : ∃ n, Inv n k .vacia := by
  have hdrv := Arranque.idDrv h
  obtain ⟨n, hreg, hcero⟩ : ∃ n, Registro n k ∧ (Tarea k 0 → (estado k).fase 0 ≠ .corre) := by
    refine h.invariant (P := fun k => ∃ n, Registro n k ∧ (Tarea k 0 → (estado k).fase 0 ≠ .corre))
      ?_ ?_
    · intro k hk
      refine ⟨0, hk.registro, fun hz => ?_⟩
      have := (hk.registro.tarea_iff.mp hz).1
      omega
    · rintro k - k' ⟨n, hreg, hcero⟩ hs
      obtain ⟨m, -, -, hreg'⟩ := hs.registro hreg
      exact ⟨m, hreg', prepara_cero hs hcero⟩
  have hno : ∀ i, (estado k).dueno i = none := fun i => if_neg fun hc => hc.2 (hdrv i hc.1)
  have hnos : ∀ i d, (estado k).dueno i ≠ some d := fun i d => by
    rw [hno]
    simp
  exact ⟨n, hreg, ⟨fun i _ d hi => absurd hi (hnos i d), fun _ _ => rfl,
    fun i d hi => absurd hi (hnos i d), fun i c hc => absurd hc (by simp [Memoria.vacia]),
    fun i _ c hc => absurd hc (by simp [Memoria.vacia])⟩, fun i _ => hno i, hcero,
    fun i c hc => absurd hc (by simp [Memoria.vacia])⟩

lemma Inv.escritura (h : Inv n k g) (u v : ℕ) (b : Byte) : Inv n (escribir u v b k) g := by
  unfold escribir
  split
  · exact ⟨h.registro.congr (fun _ => rfl) rfl (fun _ => rfl) fun _ => rfl, h.proto, h.fijos,
      h.cero, h.clientes⟩
  · exact h

/-- **Requests and answers.** In every run from boot whose accepted requests go to drivers that
wait for one, the client of each pending request waits and its slot answers it; and in each
state such a run reaches, the next call respects the pending requests just when its own, if it
makes one, goes to a driver that waits for requests. A `sys_mem` past the map, which could mark a
slot, is taken to mark none. -/
theorem pedidos_respetados {l : Link}
    (h : Reach (Inicial l) (fun s e s' => Paso s e s' ∧ Libre s e) (k, g)) :
    (∀ i c, g.pend i = some c → (k.rDrv i).idRet = c ∧ (k.rTareas c).status = .waiting) ∧
    ∀ t r basura, Tarea k t → (k.rTareas t).status = .running →
      (Cumple g t r k (llamar basura t r k) ↔ Libre (k, g) (.llamada t r)) := by
  obtain ⟨n, hn⟩ : ∃ n, Inv n k g := by
    refine h.invariant (P := fun s => ∃ n, Inv n s.1 s.2) ?_ ?_
    · rintro ⟨k, g⟩ ⟨hk, rfl⟩
      exact arranque_inv hk
    · rintro s e s' ⟨n, hn⟩ ⟨hs, hl⟩
      cases hs with
      | llamada basura ht hr => exact ⟨n, hn.llamada ht hr hl basura⟩
      | escritura v b ht hr => exact ⟨n, hn.escritura _ v b⟩
  refine ⟨fun i c hc => ?_, fun t r basura ht hr => hn.cumple_iff ht hr basura⟩
  obtain ⟨h1, h2, -⟩ := hn.proto.cliente i c hc
  exact ⟨h1, faseDe_espera.mp h2⟩

lemma llamar_registro (basura : ℕ → ℕ) {i : ℕ} (hr : r.eax = SYS_REG)
    (h : revisarReg r.ebx (entrar t r k) = .inr i) :
    (llamar basura t r k).mem = k.mem ∧ (∀ j ≠ i, (llamar basura t r k).rDrv j = k.rDrv j) ∧
    ∃ arch, (llamar basura t r k).rDrv i = { k.rDrv i with
      arch := arch, idDrv := t, idRet := 0, sys := checkAddr r.ebx t (entrar t r k)
      buf := checkAddr (rd32 k.mem (checkAddr r.ebx t (entrar t r k) + PARAM_BUF)) t (entrar t r k)
      size := rd32 k.mem (checkAddr r.ebx t (entrar t r k) + PARAM_SIZE) } := by
  rw [llamar_eq, despachar_reg basura hr]
  unfold guardar sysReg
  rw [h]
  refine ⟨rfl, fun j hj => ?_, ?_⟩
  · simp only [updTss_rDrv, Kernel.updStatus, updRun_rDrv, updDrv_rDrv, if_neg hj, entrar_rDrv]
  · simp only [updTss_rDrv, Kernel.updStatus, updRun_rDrv, updDrv_rDrv, if_true, entrar_rDrv,
      entrar_mem, entrar_tIndice]
    exact ⟨_, rfl⟩

/-! ### A driver and two clients -/

def correr (t : ℕ) (r : Regs) (s : Kernel × Historia) : Kernel × Historia :=
  (llamar (fun _ => 0) t r s.1, s.2.anotar t (accion r (entrar t r s.1)))

lemma correr_paso {s : Kernel × Historia} (ht : Tarea s.1 t) (hr : (estado s.1).fase t = .corre) :
    Paso s (.llamada t r) (correr t r s) := .llamada _ ht (faseDe_corre.mp hr)

lemma revisarDrv_ok {i d : ℕ} (hi : (estado k).dueno i = some d)
    (hd : (estado k).fase d = .espera) : revisarDrv i k = none := by
  obtain ⟨h10, h0, hid⟩ := dueno_eq_some.mp hi
  have hw := faseDe_espera.mp hd
  unfold revisarDrv
  rw [if_neg (by omega), hid, if_neg h0, if_neg (by simpa using hw)]

lemma accion_buscar {i d ecx edx : ℕ} (hi : (estado k).dueno i = some d)
    (hd : (estado k).fase d = .espera) : accion ⟨SYS_SEEK, i, ecx, edx⟩ k = .pedir i d := by
  refine accion_pedir.mpr ⟨Or.inr (Or.inr rfl), ?_, rfl, (dueno_eq_some.mp hi).2.2⟩
  unfold revisar
  rw [revisarDrv_ok hi hd]
  rfl

lemma accion_esperar {ebx ecx edx : ℕ} : accion ⟨SYS_WAIT, ebx, ecx, edx⟩ k = .dormir := rfl

lemma revisarReg_ok {ebx i s : ℕ}
    (hno : ∀ j, 3 ≤ j → j < MAX_DRIVERS → (k.rDrv j).idDrv ≠ k.tIndice)
    (hi : 3 ≤ i ∧ i < MAX_DRIVERS) (hlibre : (k.rDrv i).idDrv = 0)
    (hocc : ∀ j, 3 ≤ j → j < i → (k.rDrv j).idDrv ≠ 0)
    (hsys : checkAddr ebx k.tIndice k = s) (h0 : s ≠ 0)
    (harch : checkAddr (rd32 k.mem (s + PARAM_ARCH)) k.tIndice k ≠ 0)
    (hbuf : checkAddr (rd32 k.mem (s + PARAM_BUF)) k.tIndice k ≠ 0)
    (hsize : rd32 k.mem (s + PARAM_SIZE) ≤ 4096)
    (hlast : checkAddr ((rd32 k.mem (s + PARAM_BUF) + rd32 k.mem (s + PARAM_SIZE) +
      2 ^ 32 - 1) % 2 ^ 32) k.tIndice k ≠ 0) : revisarReg ebx k = .inr i := by
  have h1 : scan (fun j => (k.rDrv j).idDrv == k.tIndice) (MAX_DRIVERS - 3) 3 = MAX_DRIVERS :=
    scan_eq (by decide) (by decide) (fun j h3 hj => by simpa using hno j h3 hj)
      fun h => absurd h (lt_irrefl _)
  have h2 : scan (fun j => (k.rDrv j).idDrv == 0) (MAX_DRIVERS - 3) 3 = i :=
    scan_eq hi.1 (by simp only [MAX_DRIVERS] at hi ⊢; omega)
      (fun j h3 hj => by simpa using hocc j h3 hj) fun _ => by simpa using hlibre
  unfold revisarReg
  simp only
  rw [h1, if_neg (lt_irrefl _), h2, if_neg (Nat.ne_of_lt hi.2), hsys, if_neg h0, if_neg harch,
    if_neg hbuf, if_neg (Nat.not_lt.mpr hsize), if_neg hlast]

lemma revisarReg_tres (r : Regs) : revisarReg 0x300000 (entrar 3 r (nucleoTres 3)) = .inr 3 := by
  have hdrv := Arranque.idDrv (nucleoTres_spec le_rfl).2.1
  have hdir : ∀ off < 4096, checkAddr (0x300000 + off) 3 (entrar 3 r (nucleoTres 3)) =
      0x170000 + off := fun off hoff =>
    (tres_usuario (vecino_entrar 3 r) (c := 0) (by decide) hoff).2.2
  have harch : rd32 (nucleoTres 3).mem (0x170000 + PARAM_ARCH) = 0x300000 + 0x800 := by
    rw [tres_word (by decide) (by decide)]
    decide
  have hbuf : rd32 (nucleoTres 3).mem (0x170000 + PARAM_BUF) = 0x300000 + 0x400 := by
    rw [tres_word (by decide) (by decide)]
    decide
  have hsize : rd32 (nucleoTres 3).mem (0x170000 + PARAM_SIZE) = 16 := by
    rw [tres_word (by decide) (by decide)]
    decide
  have hlast : (0x300000 + 0x400 + 16 + 2 ^ 32 - 1) % 2 ^ 32 = 0x300000 + 0x40f := by decide
  refine revisarReg_ok (s := 0x170000) (fun j _ hj => ?_) ⟨le_rfl, by decide⟩ ?_
    (fun j h3 hj => by omega) (hdir 0 (by decide)) (by decide) ?_ ?_ ?_ ?_
  · rw [entrar_rDrv, hdrv j hj, entrar_tIndice]
    decide
  · rw [entrar_rDrv]
    exact hdrv 3 (by decide)
  · rw [entrar_mem, entrar_tIndice, harch, hdir _ (by decide)]
    decide
  · rw [entrar_mem, entrar_tIndice, hbuf, hdir _ (by decide)]
    decide
  · rw [entrar_mem, hsize]
    decide
  · rw [entrar_mem, entrar_tIndice, hbuf, hsize, hlast, hdir _ (by decide)]
    decide

/-- Three tasks have been loaded and run, and the first has all it takes to be a driver. -/
structure Escena (k : Kernel) : Prop where
  arranque : Arranque enlace k
  tarea : ∀ t, 3 ≤ t → t < 6 → Tarea k t
  corre : ∀ t, 3 ≤ t → t < 6 → (estado k).fase t = .corre
  registra : ∀ r, revisarReg 0x300000 (entrar 3 r k) = .inr 3

lemma escena_tres : Escena (nucleoTres 3) := by
  refine ⟨(nucleoTres_spec le_rfl).2.1, fun t _ h6 => tres_tarea h6, fun t h3 h6 => ?_,
    revisarReg_tres⟩
  have := (nucleoTres_spec le_rfl).2.2.2 (t - 3) (by omega)
  rw [Nat.add_sub_cancel' h3] at this
  exact faseDe_corre.mpr this

section
variable {s : Kernel × Historia}

/-- Task 3 becomes the driver of slot 3; then task 4 asks it for something, `pendiente`, and
it goes to sleep, `dormido`. -/
def registrado (k : Kernel) : Kernel × Historia := correr 3 ⟨SYS_REG, 0x300000, 0, 0⟩ (k, .vacia)

def pendiente (k : Kernel) : Kernel × Historia := correr 4 ⟨SYS_SEEK, 3, 0, 0⟩ (registrado k)

def dormido (k : Kernel) : Kernel × Historia := correr 3 ⟨SYS_WAIT, 0, 0, 0⟩ (pendiente k)

lemma correr_estado (ht : t ≠ 0) :
    estado (correr t r s).1 = paso (estado s.1) t (accion r (entrar t r s.1)) :=
  estado_llamar _ ht

lemma correr_tarea {u : ℕ} : Tarea (correr t r s).1 u ↔ Tarea s.1 u :=
  (llamar_marco _ _ _ _).tarea u

variable (h : Escena k)
include h

lemma Escena.accion_registrado :
    accion ⟨SYS_REG, 0x300000, 0, 0⟩ (entrar 3 ⟨SYS_REG, 0x300000, 0, 0⟩ k) = .registrar 3 :=
  accion_registrar.mpr ⟨rfl, h.registra _⟩

lemma Escena.registrado :
    estado (registrado k).1 = paso (estado k) 3 (.registrar 3) := by
  rw [Driver.registrado, correr_estado (by decide), h.accion_registrado]

lemma Escena.dueno : (estado (Driver.registrado k).1).dueno 3 = some 3 := by
  rw [h.registrado]
  simp [paso]

lemma Escena.accion_pendiente :
    accion ⟨SYS_SEEK, 3, 0, 0⟩ (entrar 4 ⟨SYS_SEEK, 3, 0, 0⟩ (Driver.registrado k).1) =
      .pedir 3 3 := by
  refine accion_buscar ?_ ?_
  · rw [estado_entrar]
    exact h.dueno
  · rw [estado_entrar, h.registrado]
    simp [paso]

lemma Escena.pendiente :
    estado (pendiente k).1 = paso (estado (Driver.registrado k).1) 4 (.pedir 3 3) := by
  rw [Driver.pendiente, correr_estado (by decide), h.accion_pendiente]

lemma Escena.reach : Reach (Inicial enlace) (fun s e s' => Paso s e s' ∧ Libre s e)
    ((Driver.pendiente k).1, (Driver.pendiente k).2) := by
  have h0 : Inicial enlace (k, .vacia) := ⟨h.arranque, rfl⟩
  have h1 : Paso (k, .vacia) (.llamada 3 ⟨SYS_REG, 0x300000, 0, 0⟩) (Driver.registrado k) :=
    correr_paso (h.tarea 3 (by decide) (by decide)) (h.corre 3 (by decide) (by decide))
  have l1 : Libre (k, .vacia) (.llamada 3 ⟨SYS_REG, 0x300000, 0, 0⟩) := by
    rintro i ⟨hp, -⟩
    exact absurd hp (by decide)
  have h2 : Paso (Driver.registrado k) (.llamada 4 ⟨SYS_SEEK, 3, 0, 0⟩) (Driver.pendiente k) := by
    refine correr_paso (correr_tarea.mpr (h.tarea 4 (by decide) (by decide))) ?_
    rw [h.registrado]
    simp [paso, h.corre]
  have l2 : Libre (Driver.registrado k) (.llamada 4 ⟨SYS_SEEK, 3, 0, 0⟩) := by
    rintro i ⟨-, -, rfl⟩
    -- the driver has just registered
    rw [(dueno_eq_some.mp h.dueno).2.2, Driver.registrado, correr, h.accion_registrado]
    exact Or.inl rfl
  exact ((Reach.init h0).step ⟨h1, l1⟩).step ⟨h2, l2⟩

lemma Escena.pend : (Driver.pendiente k).2.pend 3 = some 4 := by
  rw [Driver.pendiente, correr, h.accion_pendiente]
  simp [Memoria.anotar]

lemma Escena.dormido : Reach (Inicial enlace) Paso (dormido k) ∧ (dormido k).2.pend 3 = some 4 ∧
    estado (dormido k).1 = paso (estado (Driver.pendiente k).1) 3 .dormir := by
  have htar : Tarea (Driver.pendiente k).1 3 :=
    correr_tarea.mpr (correr_tarea.mpr (h.tarea 3 (by decide) (by decide)))
  have h1 : Paso (Driver.pendiente k) (.llamada 3 ⟨SYS_WAIT, 0, 0, 0⟩) (Driver.dormido k) := by
    refine correr_paso htar ?_
    rw [h.pendiente]
    simp [paso]
  refine ⟨(h.reach.mono fun _ _ _ h => h.1).step h1, ?_, ?_⟩
  · rw [Driver.dormido, correr, accion_esperar]
    exact h.pend
  · rw [Driver.dormido, correr_estado (by decide), accion_esperar]

/-- Task 5 is told it may ask, and the slot forgets task 4. -/
lemma Escena.perdido : Tarea (Driver.dormido k).1 5 ∧
    ((Driver.dormido k).1.rTareas 5).status = .running ∧
    Acepta 5 ⟨SYS_SEEK, 3, 0, 0⟩ (Driver.dormido k).1 3 ∧
    ((llamar (fun _ => 0) 5 ⟨SYS_SEEK, 3, 0, 0⟩ (Driver.dormido k).1).rDrv 3).idRet = 5 := by
  have he := h.dormido.2.2
  have htar : Tarea (Driver.dormido k).1 5 :=
    correr_tarea.mpr (correr_tarea.mpr (correr_tarea.mpr (h.tarea 5 (by decide) (by decide))))
  have hfase : (estado (Driver.dormido k).1).fase 5 = .corre := by
    rw [he, h.pendiente, h.registrado]
    simp [paso, h.corre]
  have hac : accion ⟨SYS_SEEK, 3, 0, 0⟩ (entrar 5 ⟨SYS_SEEK, 3, 0, 0⟩ (Driver.dormido k).1) =
      .pedir 3 3 := by
    refine accion_buscar ?_ ?_
    · rw [estado_entrar, he, h.pendiente]
      exact h.dueno
    · rw [estado_entrar, he]
      simp [paso]
  obtain ⟨hp, hrev, hi, -⟩ := accion_pedir.mp hac
  refine ⟨htar, faseDe_corre.mp hfase, ⟨hp, hrev, hi⟩, ?_⟩
  have hcl := estado_llamar (k := (Driver.dormido k).1) (r := ⟨SYS_SEEK, 3, 0, 0⟩) (fun _ => 0)
    (show 5 ≠ 0 by decide)
  rw [hac] at hcl
  simpa [paso, estado] using congrFun (congrArg Estado.cliente hcl) 3

end

theorem pedidos_respetados_pendiente : ((pendiente (nucleoTres 3)).1.rDrv 3).idRet = 4 ∧
    ((pendiente (nucleoTres 3)).1.rTareas 4).status = .waiting :=
  (pedidos_respetados escena_tres.reach).1 3 4 escena_tres.pend

/-- **The second request**: the driver sleeps in the middle of a request, and another is
accepted on its slot. -/
theorem pedido_perdido :
    Reach (Inicial enlace) Paso (dormido (nucleoTres 3)) ∧
    (dormido (nucleoTres 3)).2.pend 3 = some 4 ∧
    Tarea (dormido (nucleoTres 3)).1 5 ∧
    ((dormido (nucleoTres 3)).1.rTareas 5).status = .running ∧
    Acepta 5 ⟨SYS_SEEK, 3, 0, 0⟩ (dormido (nucleoTres 3)).1 3 ∧
    ((llamar (fun _ => 0) 5 ⟨SYS_SEEK, 3, 0, 0⟩ (dormido (nucleoTres 3)).1).rDrv 3).idRet = 5 ∧
    ¬ Cumple (dormido (nucleoTres 3)).2 5 ⟨SYS_SEEK, 3, 0, 0⟩ (dormido (nucleoTres 3)).1
      (llamar (fun _ => 0) 5 ⟨SYS_SEEK, 3, 0, 0⟩ (dormido (nucleoTres 3)).1) := by
  obtain ⟨hr, hpend, -⟩ := escena_tres.dormido
  obtain ⟨htar, hst, hacc, hret⟩ := escena_tres.perdido
  refine ⟨hr, hpend, htar, hst, hacc, hret, fun hc => ?_⟩
  exact (hc.sigue 3 4 hpend fun hx => absurd hx.1 (by decide)).2.2.1 hacc

end Silicio.Driver
