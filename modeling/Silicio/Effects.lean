import Silicio.Driver

/-!
What a call comes to, for the statuses of tasks and for the slots of drivers.

Every handler does one of five things to them: nothing at all, a request, an answer, a
registration, or putting the caller to wait. What holds of all runs is proved from these.
-/

namespace Silicio.Effects

open Silicio.Bitmap Silicio.Defs Silicio.Mm Silicio.Registry Silicio.Syscall Silicio.Driver

variable {k k' : Kernel} {r : Regs} {t : ℕ}

/-- `d'` differs from `d` at most in what a request notes. -/
def Anotada (d d' : Drv) : Prop := ∃ b c e, d' = { d with bufRet := b, call := c, idRet := e }

lemma anotada_de {d d' : Drv} (h : d' = d) : Anotada d d' := ⟨d.bufRet, d.call, d.idRet, h⟩

lemma Anotada.trans {d d₁ d' : Drv} (h : Anotada d d₁) (h' : Anotada d₁ d') : Anotada d d' := by
  obtain ⟨b, c, e, rfl⟩ := h
  obtain ⟨b', c', e', rfl⟩ := h'
  exact ⟨b', c', e', rfl⟩

lemma Anotada.idDrv {d d' : Drv} (h : Anotada d d') : d'.idDrv = d.idDrv := by
  obtain ⟨b, c, e, rfl⟩ := h
  rfl

def estados (k : Kernel) (u : ℕ) : Status := (k.rTareas u).status

lemma estados_updStatus (k : Kernel) (t : ℕ) (e : Status) :
    estados (k.updStatus t e) = Function.update (estados k) t e := by
  funext u
  rw [estados, updStatus_status, Function.update_apply]
  rfl

/-- What a call of task `t` with registers `r` comes to. -/
inductive Efecto (t : ℕ) (r : Regs) (k k' : Kernel) : Prop
  | nada (hd : k'.rDrv = k.rDrv) (hs : estados k' = estados k)
  | espera (hd : k'.rDrv = k.rDrv) (hs : estados k' = Function.update (estados k) t .waiting)
  | pide {i b : ℕ} (ha : Acepta t r k i)
      (hd : k'.rDrv = Function.update k.rDrv i
        { k.rDrv i with bufRet := b, call := r.eax, idRet := t })
      (hs : estados k' = Function.update (Function.update (estados k) t .waiting)
        (k.rDrv i).idDrv .running)
  | registra {i : ℕ} {d : Drv} (hi : revisarReg r.ebx (entrar t r k) = .inr i)
      (hd : k'.rDrv = Function.update k.rDrv i d) (hid : d.idDrv = t) (hret : d.idRet = 0)
      (hsize : d.size ≤ 4096) (hs : estados k' = Function.update (estados k) t .waiting)
  | contesta {i : ℕ} (hr : Responde t r k i) (hd : k'.rDrv = k.rDrv)
      (hs : estados k' = Function.update (Function.update (estados k) (k.rDrv i).idRet .running) t
        .waiting)

lemma Efecto.congr {k₁ : Kernel} (h : Efecto t r k k₁) (hd : k'.rDrv = k₁.rDrv)
    (hs : estados k' = estados k₁) : Efecto t r k k' := by
  cases h with
  | nada h1 h2 => exact .nada (hd.trans h1) (hs.trans h2)
  | espera h1 h2 => exact .espera (hd.trans h1) (hs.trans h2)
  | pide ha h1 h2 => exact .pide ha (hd.trans h1) (hs.trans h2)
  | registra hi h1 hid hret hsize h2 =>
    exact .registra hi (hd.trans h1) hid hret hsize (hs.trans h2)
  | contesta hr h1 h2 => exact .contesta hr (hd.trans h1) (hs.trans h2)

lemma efecto_sysReg (t : ℕ) (r : Regs) (k : Kernel) :
    Efecto t r k (sysReg r.ebx (entrar t r k)).2 := by
  cases hrev : revisarReg r.ebx (entrar t r k) with
  | inl e =>
    unfold sysReg
    rw [hrev]
    exact .nada rfl rfl
  | inr i =>
    have hsize := (revisarReg_visto hrev).2.2.2
    unfold sysReg
    rw [hrev]
    refine .registra hrev rfl rfl rfl hsize ?_
    rw [estados_updStatus]
    rfl

lemma llamar_acepta (basura : ℕ → ℕ) {i : ℕ} (ha : Acepta t r k i) :
    (∃ b, (llamar basura t r k).rDrv = Function.update k.rDrv i
      { k.rDrv i with bufRet := b, call := r.eax, idRet := t }) ∧
    estados (llamar basura t r k) =
      Function.update (Function.update (estados k) t .waiting) (k.rDrv i).idDrv .running := by
  obtain ⟨hp, hrev, rfl⟩ := ha
  obtain ⟨mem, buf, he⟩ := pedido_aceptado hp hrev
  have hs : estados (((entrar t r k).updStatus t .waiting).updStatus (k.rDrv r.ebx).idDrv
      .running) = Function.update (Function.update (estados k) t .waiting)
        (k.rDrv r.ebx).idDrv .running := by
    rw [estados_updStatus, estados_updStatus]
    rfl
  rw [llamar_eq, despachar_pide basura hp, he]
  exact ⟨⟨buf (k.rDrv r.ebx).bufRet, rfl⟩, hs⟩

lemma llamar_responde (basura : ℕ → ℕ) {i : ℕ} (hr : Responde t r k i) :
    (llamar basura t r k).rDrv = k.rDrv ∧ estados (llamar basura t r k) =
      Function.update (Function.update (estados k) (k.rDrv i).idRet .running) t .waiting := by
  obtain ⟨heax, hrev, rfl⟩ := hr
  rw [llamar_eq, despachar_ret basura heax, sysRet_acepta hrev, estados_updStatus,
    estados_updStatus]
  exact ⟨rfl, rfl⟩

/-- **A call is one of five things.** -/
theorem llamar_efecto (basura : ℕ → ℕ) (t : ℕ) (r : Regs) (k : Kernel) :
    Efecto t r k (llamar basura t r k) := by
  by_cases hp : Pide r.eax
  · cases hrev : revisar r (entrar t r k) with
    | some e =>
      rw [llamar_eq, despachar_pide basura hp, pedido_rechazo hp hrev]
      exact .nada rfl rfl
    | none =>
      obtain ⟨⟨b, hd⟩, hs⟩ := llamar_acepta basura (k := k) ⟨hp, hrev, rfl⟩
      exact .pide ⟨hp, hrev, rfl⟩ hd hs
  · rw [llamar_eq]
    simp only [Pide, not_or] at hp
    unfold despachar
    rw [if_neg hp.1, if_neg hp.2.1, if_neg hp.2.2]
    split_ifs with h1 h2 h3 h4 h5
    · exact .nada (by rw [guardar, updTss_rDrv, sysOpen_snd, entrar_rDrv])
        (by unfold guardar; rw [sysOpen_snd]; rfl)
    · exact (efecto_sysReg t r k).congr rfl rfl
    · cases hrev : revisarRet r.ebx (entrar t r k) with
      | some e =>
        rw [sysRet_rechazo hrev]
        exact .nada rfl rfl
      | none =>
        have hret : Responde t r k _ := ⟨h3, hrev, rfl⟩
        obtain ⟨hd, hs⟩ := llamar_responde (fun _ => 0) hret
        rw [llamar_eq, despachar_ret _ h3] at hd hs
        exact .contesta hret hd hs
    · exact .espera rfl (estados_updStatus _ _ _)
    · obtain ⟨-, hd, hst, -⟩ := sysMem_resto (k := entrar t r k) r.ebx
      exact .nada (by rw [guardar, updTss_rDrv, hd]; rfl)
        (funext fun u => by rw [estados, guardar, updTss_rTareas, hst]; rfl)
    · exact .nada rfl rfl

/-! ### Slots -/

lemma acepta_dueno {i : ℕ} (ha : Acepta t r k i) : i < MAX_DRIVERS ∧ (k.rDrv i).idDrv ≠ 0 ∧
    estados k (k.rDrv i).idDrv = .waiting := by
  obtain ⟨-, hrev, rfl⟩ := ha
  have hd := revisar_drv hrev
  exact revisarDrv_none hd

lemma responde_dueno {i : ℕ} (hr : Responde t r k i) : i < MAX_DRIVERS ∧ (k.rDrv i).idDrv = t := by
  obtain ⟨-, hrev, rfl⟩ := hr
  exact slotDe_lt (revisarRet_none hrev).1

/-- **What a call does to one slot**: nothing, or a request is noted in it, or it was free and the
caller has it now. -/
theorem Efecto.ranura (h : Efecto t r k k') (i : ℕ) : k'.rDrv i = k.rDrv i ∨
    Acepta t r k i ∧ Anotada (k.rDrv i) (k'.rDrv i) ∨
    (k.rDrv i).idDrv = 0 ∧ revisarReg r.ebx (entrar t r k) = .inr i ∧ (k'.rDrv i).idDrv = t := by
  cases h with
  | nada hd => exact Or.inl (congrFun hd i)
  | espera hd => exact Or.inl (congrFun hd i)
  | contesta _ hd => exact Or.inl (congrFun hd i)
  | @pide j b ha hd _ =>
    rcases eq_or_ne i j with rfl | hij
    · exact Or.inr (Or.inl ⟨ha, b, r.eax, t, (congrFun hd i).trans (Function.update_self ..)⟩)
    · exact Or.inl ((congrFun hd i).trans (Function.update_of_ne hij ..))
  | @registra j d hi hd hid =>
    rcases eq_or_ne i j with rfl | hij
    · refine Or.inr (Or.inr ⟨(revisarReg_inr hi).2.2.1, hi, ?_⟩)
      rw [hd, Function.update_self, hid]
    · exact Or.inl ((congrFun hd i).trans (Function.update_of_ne hij ..))

end Silicio.Effects
